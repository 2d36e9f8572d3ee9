import Mathlib.Data.List.Sort
import Raft.Foundation.JsValue

/-!
# Reading JSON texts back

A quoted text ends at its own closing quote, a list of self-delimiting texts
ends at its closing bracket, and so what was rendered can be told from the
rendering whatever follows it.  Objects are compared up to the order of their
keys.
-/

namespace Raft.Foundation

/-! ## Quoted texts -/

def hexValue (unit : CodeUnit) : Nat :=
  if unit.val < 0x61 then unit.val - 0x30 else unit.val - 0x57

theorem hexValue_hexUnit {digit : Nat} (h : digit < 0x10) : hexValue (hexUnit digit) = digit := by
  rw [hexUnit]
  split
  · rw [hexValue, Fin.val_ofNat, if_pos (by omega)]
    omega
  · rw [hexValue, Fin.val_ofNat, if_neg (by omega)]
    omega

def unescape (unit : CodeUnit) : CodeUnit :=
  match unit.val with
  | 0x62 => 0x08
  | 0x74 => 0x09
  | 0x6E => 0x0A
  | 0x66 => 0x0C
  | 0x72 => 0x0D
  | _ => unit

def readHex : JsString → Option (JsString × JsString)
  | first :: second :: third :: fourth :: rest =>
      some ([Fin.ofNat _ (hexValue first * 0x1000 + hexValue second * 0x100 +
        hexValue third * 0x10 + hexValue fourth)], rest)
  | _ => none

def readPiece : JsString → Option (JsString × JsString)
  | [] => none
  | [unit] => if unit = 0x22 then none else some ([unit], [])
  | unit :: next :: rest =>
      if unit = 0x22 then none
      else if unit = 0x5C then
        if next = 0x75 then readHex rest else some ([unescape next], rest)
      else if isHighSurrogate unit then some ([unit, next], rest)
      else some ([unit], next :: rest)

theorem readPiece_unicodeEscape (unit : CodeUnit) (tail : JsString) :
    readPiece (unicodeEscape unit ++ tail) = some ([unit], tail) := by
  have hunit := unit.isLt
  have hvalue : hexValue (hexUnit (unit.val / 0x1000)) * 0x1000 +
      hexValue (hexUnit (unit.val / 0x100 % 0x10)) * 0x100 +
      hexValue (hexUnit (unit.val / 0x10 % 0x10)) * 0x10 +
      hexValue (hexUnit (unit.val % 0x10)) = unit.val := by
    rw [hexValue_hexUnit (by omega), hexValue_hexUnit (by omega), hexValue_hexUnit (by omega),
      hexValue_hexUnit (by omega)]
    omega
  have hread : readPiece (unicodeEscape unit ++ tail) =
      some ([Fin.ofNat _ (hexValue (hexUnit (unit.val / 0x1000)) * 0x1000 +
        hexValue (hexUnit (unit.val / 0x100 % 0x10)) * 0x100 +
        hexValue (hexUnit (unit.val / 0x10 % 0x10)) * 0x10 +
        hexValue (hexUnit (unit.val % 0x10)))], tail) := rfl
  rw [hread, hvalue, Fin.ofNat_val_eq_self]

theorem readPiece_plain {unit : CodeUnit} (hquote : unit ≠ 0x22) (hescape : unit ≠ 0x5C)
    (hsurrogate : isHighSurrogate unit = false) (tail : JsString) :
    readPiece (unit :: tail) = some ([unit], tail) := by
  cases tail with
  | nil => rw [readPiece, if_neg hquote]
  | cons next rest => rw [readPiece, if_neg hquote, if_neg hescape, hsurrogate, if_neg nofun]

theorem readPiece_quoteUnit (unit : CodeUnit) (tail : JsString) :
    readPiece (quoteUnit unit ++ tail) = some ([unit], tail) := by
  have hval : ∀ {code : Nat} (hcode : code < 0x10000), unit.val = code → unit = ⟨code, hcode⟩ :=
    fun _ h => Fin.ext h
  unfold quoteUnit
  split
  · next h => rw [hval (by decide) h]; rfl
  · next h => rw [hval (by decide) h]; rfl
  · next h => rw [hval (by decide) h]; rfl
  · next h => rw [hval (by decide) h]; rfl
  · next h => rw [hval (by decide) h]; rfl
  · next h => rw [hval (by decide) h]; rfl
  · next h => rw [hval (by decide) h]; rfl
  · next hquote hescape =>
      split
      · exact readPiece_unicodeEscape unit tail
      · next hplain =>
          simp only [Bool.or_eq_true, not_or, Bool.not_eq_true] at hplain
          exact readPiece_plain (fun h => hquote (congrArg Fin.val h))
            (fun h => hescape (congrArg Fin.val h)) hplain.1.2 tail

theorem readPiece_quoteUnits (unit : CodeUnit) (units : JsString) :
    ∃ piece rest, unit :: units = piece ++ rest ∧ piece ≠ [] ∧
      ∀ tail, readPiece (quoteUnits (unit :: units) ++ tail) =
        some (piece, quoteUnits rest ++ tail) := by
  cases units with
  | nil => exact ⟨[unit], [], rfl, by simp, readPiece_quoteUnit unit⟩
  | cons next rest =>
      rw [quoteUnits]
      split
      · next hpair =>
          rw [Bool.and_eq_true] at hpair
          refine ⟨[unit, next], rest, rfl, by simp, fun tail => ?_⟩
          have hhigh := hpair.1
          have hquote : unit ≠ 0x22 := by
            rintro rfl
            cases hhigh
          have hescape : unit ≠ 0x5C := by
            rintro rfl
            cases hhigh
          rw [List.cons_append, List.cons_append, readPiece, if_neg hquote, if_neg hescape,
            if_pos hhigh]
      · refine ⟨[unit], next :: rest, rfl, by simp, fun tail => ?_⟩
        rw [List.append_assoc, readPiece_quoteUnit]

theorem quoteUnits_injective {first second tail tail' : JsString}
    (h : quoteUnits first ++ 0x22 :: tail = quoteUnits second ++ 0x22 :: tail') :
    first = second ∧ tail = tail' := by
  have hend (tail : JsString) : readPiece (0x22 :: tail) = none := by cases tail <;> rfl
  induction hlength : first.length using Nat.strong_induction_on generalizing first second with
  | _ length ih =>
      cases first with
      | nil =>
          cases second with
          | nil => exact ⟨rfl, (List.cons.inj h).2⟩
          | cons unit units =>
              obtain ⟨piece, rest, -, -, hread⟩ := readPiece_quoteUnits unit units
              have hnone := hread (0x22 :: tail')
              rw [← h] at hnone
              exact absurd ((hend tail).symm.trans hnone) nofun
      | cons unit units =>
          obtain ⟨piece, rest, hfirst, hne, hread⟩ := readPiece_quoteUnits unit units
          have hfound := hread (0x22 :: tail)
          rw [h] at hfound
          cases second with
          | nil => exact absurd ((hend tail').symm.trans hfound) nofun
          | cons unit' units' =>
              obtain ⟨piece', rest', hsecond, -, hread'⟩ := readPiece_quoteUnits unit' units'
              rw [hread', Option.some_inj, Prod.mk.injEq] at hfound
              have hshorter : rest.length < length := by
                have hpos := List.length_pos_iff.mpr hne
                rw [← hlength, hfirst, List.length_append]
                omega
              obtain ⟨hrest, htail⟩ := ih rest.length hshorter hfound.2.symm rfl
              rw [hfirst, hsecond, hfound.1, hrest]
              exact ⟨rfl, htail⟩

theorem jsonQuote_injective {first second tail tail' : JsString}
    (h : jsonQuote first ++ tail = jsonQuote second ++ tail') :
    first = second ∧ tail = tail' := by
  have hquote : js "\"" = [0x22] := rfl
  simp only [jsonQuote, hquote, List.append_assoc, List.singleton_append] at h
  exact quoteUnits_injective (List.cons.inj h).2

/-! ## Delimiters -/

def isDelimiter (unit : CodeUnit) : Bool := unit = 0x2C || unit = 0x5D || unit = 0x7D

def Delimited (tail : JsString) : Prop := ∀ unit, tail.head? = some unit → isDelimiter unit = true

theorem delimited_cons {unit : CodeUnit} (h : isDelimiter unit = true) (tail : JsString) :
    Delimited (unit :: tail) := by
  intro head hhead
  cases hhead
  exact h

/-! ## Numbers -/

def isNumberUnit (unit : CodeUnit) : Bool :=
  isDigit unit || unit = 0x2B || unit = 0x2D || unit = 0x2E || unit = 0x65

def isNumberText : JsString → Bool
  | [] => false
  | unit :: rest => (isDigit unit || unit = 0x2D) && rest.all isNumberUnit

theorem isNumberText_all {text : JsString} (h : isNumberText text = true) :
    text.all isNumberUnit = true := by
  cases text with
  | nil => rfl
  | cons unit rest =>
      simp only [isNumberText, Bool.and_eq_true, Bool.or_eq_true, decide_eq_true_eq] at h
      rw [List.all_cons, h.2, Bool.and_true, isNumberUnit]
      rcases h.1 with hdigit | hminus
      · simp [hdigit]
      · simp [hminus]

theorem isNumberUnit_of_isDelimiter {unit : CodeUnit} (h : isDelimiter unit = true) :
    isNumberUnit unit = false := by
  simp only [isDelimiter, Bool.or_eq_true, decide_eq_true_eq] at h
  rcases h with (rfl | rfl) | rfl
  all_goals rfl

theorem numberUnits_injective {first second tail tail' : JsString}
    (hfirst : first.all isNumberUnit = true) (hsecond : second.all isNumberUnit = true)
    (htail : Delimited tail) (htail' : Delimited tail')
    (h : first ++ tail = second ++ tail') : first = second ∧ tail = tail' := by
  induction first generalizing second with
  | nil =>
      cases second with
      | nil => exact ⟨rfl, h⟩
      | cons unit rest =>
          have hunit :=
            isNumberUnit_of_isDelimiter (htail unit (by rw [← List.nil_append tail, h]; rfl))
          rw [List.all_cons, hunit] at hsecond
          cases hsecond
  | cons unit rest ih =>
      cases second with
      | nil =>
          have hunit :=
            isNumberUnit_of_isDelimiter (htail' unit (by rw [← List.nil_append tail', ← h]; rfl))
          rw [List.all_cons, hunit] at hfirst
          cases hfirst
      | cons unit' rest' =>
          rw [List.all_cons, Bool.and_eq_true] at hfirst hsecond
          rw [List.cons_append, List.cons_append, List.cons.injEq] at h
          obtain ⟨hrest, htail⟩ := ih hfirst.2 hsecond.2 h.2
          exact ⟨by rw [h.1, hrest], htail⟩

/-! ## Lists of texts -/

section Joined

universe u

variable {α : Type u} (text : α → JsString) (Valid : α → Prop) (Same : α → α → Prop)

/-- Whatever follows the text of the value, the value and the rest can be told from the whole. -/
def SelfDelimiting (value : α) : Prop :=
  ∀ other, Valid other → ∀ tail tail', Delimited tail → Delimited tail' →
    text value ++ tail = text other ++ tail' → Same value other ∧ tail = tail'

def Opened (value : α) : Prop :=
  ∃ unit rest, text value = unit :: rest ∧ isDelimiter unit = false

def joined (values : List α) : JsString := ((values.map text).intersperse (js ",")).flatten

def joinedTail (closer : CodeUnit) (tail : JsString) : List α → JsString
  | [] => closer :: tail
  | value :: values => 0x2C :: joined text (value :: values) ++ closer :: tail

variable {text Valid Same}

theorem joined_cons_append (value : α) (values : List α) (closer : CodeUnit) (tail : JsString) :
    joined text (value :: values) ++ closer :: tail =
      text value ++ joinedTail text closer tail values := by
  cases values with
  | nil => simp [joined, joinedTail]
  | cons next values =>
      have hcomma : js "," = [0x2C] := rfl
      simp [joined, joinedTail, hcomma]

theorem delimited_joinedTail {closer : CodeUnit} (hcloser : isDelimiter closer = true)
    (tail : JsString) (values : List α) : Delimited (joinedTail text closer tail values) := by
  cases values with
  | nil => exact delimited_cons hcloser tail
  | cons value values => exact delimited_cons rfl _

theorem Opened.append_ne {value : α} (h : Opened text value) {closer : CodeUnit}
    (hcloser : isDelimiter closer = true) (rest tail : JsString) :
    text value ++ rest ≠ closer :: tail := by
  obtain ⟨unit, units, htext, hunit⟩ := h
  rw [htext]
  rintro heq
  rw [(List.cons.inj heq).1] at hunit
  exact absurd (hcloser.symm.trans hunit) nofun

theorem joined_injective {closer : CodeUnit} (hcloser : isDelimiter closer = true)
    (hcomma : closer ≠ 0x2C) {values others : List α} {tail tail' : JsString}
    (hvalues : ∀ value ∈ values, SelfDelimiting text Valid Same value ∧ Opened text value)
    (hothers : ∀ other ∈ others, Valid other ∧ Opened text other)
    (h : joined text values ++ closer :: tail = joined text others ++ closer :: tail') :
    List.Forall₂ Same values others ∧ tail = tail' := by
  have hnil : joined text [] = [] := rfl
  induction values generalizing others with
  | nil =>
      cases others with
      | nil => exact ⟨.nil, (List.cons.inj h).2⟩
      | cons other others =>
          rw [joined_cons_append] at h
          exact absurd h.symm ((hothers other List.mem_cons_self).2.append_ne hcloser _ _)
  | cons value values ih =>
      obtain ⟨hself, hopened⟩ := hvalues value List.mem_cons_self
      cases others with
      | nil =>
          rw [joined_cons_append] at h
          exact absurd h (hopened.append_ne hcloser _ _)
      | cons other others =>
          rw [joined_cons_append, joined_cons_append] at h
          obtain ⟨hsame, htail⟩ := hself other (hothers other List.mem_cons_self).1 _ _
            (delimited_joinedTail hcloser tail values) (delimited_joinedTail hcloser tail' others) h
          have hvalues := fun value hmem => hvalues value (List.mem_cons_of_mem _ hmem)
          have hothers := fun other hmem => hothers other (List.mem_cons_of_mem _ hmem)
          cases values with
          | nil =>
              cases others with
              | nil => exact ⟨.cons hsame .nil, (List.cons.inj htail).2⟩
              | cons next others => exact absurd (List.cons.inj htail).1 hcomma
          | cons following values =>
              cases others with
              | nil => exact absurd (List.cons.inj htail).1.symm hcomma
              | cons next others =>
                  obtain ⟨hall, htail⟩ := ih hvalues hothers (List.cons.inj htail).2
                  exact ⟨.cons hsame hall, htail⟩

end Joined

/-! ## Key order -/

section KeyOrder

universe v

variable {β : Type v}

def sortBy (order : JsString → JsString → Bool) (entries : List (JsString × β)) :
    List (JsString × β) :=
  entries.insertionSort fun first second => order first.1 second.1 = true

variable (order : JsString → JsString → Bool)

theorem perm_sortBy (entries : List (JsString × β)) : (sortBy order entries).Perm entries :=
  List.perm_insertionSort _ _

theorem sortBy_map {γ : Type v} (f : β → γ) (entries : List (JsString × β)) :
    sortBy order (entries.map fun entry => (entry.1, f entry.2)) =
      (sortBy order entries).map fun entry => (entry.1, f entry.2) :=
  (List.map_insertionSort (fun first second : JsString × β => order first.1 second.1 = true)
    (fun first second : JsString × γ => order first.1 second.1 = true)
    (fun entry => (entry.1, f entry.2)) entries fun _ _ _ _ => Iff.rfl).symm

def sortEntries (entries : List (JsString × β)) : List (JsString × β) :=
  sortBy (fun first second => first ≤ second) entries

theorem pairwise_sortEntries (entries : List (JsString × β)) :
    (sortEntries entries).Pairwise fun first second => first.1 ≤ second.1 := by
  have htotal : ∀ first second : JsString × β,
      decide (first.1 ≤ second.1) = true ∨ decide (second.1 ≤ first.1) = true := by
    intro first second
    simpa only [decide_eq_true_eq] using le_total first.1 second.1
  have htrans : ∀ first second third : JsString × β, decide (first.1 ≤ second.1) = true →
      decide (second.1 ≤ third.1) = true → decide (first.1 ≤ third.1) = true := by
    intro first second third
    simpa only [decide_eq_true_eq] using le_trans
  have : Std.Total fun first second : JsString × β => decide (first.1 ≤ second.1) = true :=
    ⟨htotal⟩
  have : IsTrans (JsString × β) fun first second => decide (first.1 ≤ second.1) = true :=
    ⟨htrans⟩
  exact (List.pairwise_insertionSort _ _).imp of_decide_eq_true

/-- With distinct keys the sorted list does not depend on the order the entries came in. -/
theorem sortEntries_eq_of_perm {entries others : List (JsString × β)}
    (h : entries.Perm others) (hkeys : (entries.map Prod.fst).Nodup) :
    sortEntries entries = sortEntries others := by
  have hperm : (sortEntries entries).Perm (sortEntries others) :=
    (perm_sortBy _ entries).trans (h.trans (perm_sortBy _ others).symm)
  refine List.Perm.eq_of_pairwise ?_ (pairwise_sortEntries entries) (pairwise_sortEntries others)
    hperm
  intro first second hfirst hsecond hle hge
  have hmem := (perm_sortBy _ entries).mem_iff.mp hfirst
  have hmem' := h.mem_iff.mpr ((perm_sortBy _ others).mem_iff.mp hsecond)
  exact List.inj_on_of_nodup_map hkeys hmem hmem' (le_antisymm hle hge)

theorem read_orderedInsert (field : JsString × JsValue) (fields : JsObject) (key : JsString) :
    JsObject.read (fields.orderedInsert (fun first second => decide (first.1 ≤ second.1) = true)
        field) key =
      JsObject.read (field :: fields) key := by
  induction fields with
  | nil => rfl
  | cons next fields ih =>
      rw [List.orderedInsert_cons]
      split
      · rfl
      · next hafter =>
          have hne : field.1 ≠ next.1 := fun heq => hafter (decide_eq_true heq.le)
          by_cases hfield : field.1 = key
          · have hnext : ¬ next.1 = key := fun heq => hne (hfield.trans heq.symm)
            simpa [JsObject.read, hfield, hnext] using ih
          · by_cases hnext : next.1 = key
            · simp [JsObject.read, hfield, hnext]
            · simpa [JsObject.read, hfield, hnext] using ih

theorem read_sortEntries (fields : JsObject) (key : JsString) :
    JsObject.read (sortEntries fields) key = JsObject.read fields key := by
  induction fields with
  | nil => rfl
  | cons field fields ih =>
      have hinsert := read_orderedInsert field (sortEntries fields) key
      have hcons : sortEntries (field :: fields) =
          (sortEntries fields).orderedInsert
            (fun first second => decide (first.1 ≤ second.1) = true) field :=
        List.insertionSort_cons _ _ _
      rw [hcons, hinsert]
      by_cases hfield : field.1 = key
      · simp [JsObject.read, hfield]
      · simpa [JsObject.read, hfield] using ih

end KeyOrder

namespace JsValue

/-! Two values are equal up to the order of object keys when sorting the keys of every object
inside makes them equal. -/

mutual

def sortKeys : JsValue → JsValue
  | .array items => .array (sortItems items)
  | .object fields => .object (sortEntries (sortFields fields))
  | value => value

def sortItems : List JsValue → List JsValue
  | [] => []
  | item :: items => sortKeys item :: sortItems items

def sortFields : JsObject → JsObject
  | [] => []
  | (key, value) :: fields => (key, sortKeys value) :: sortFields fields

end

theorem sortItems_eq (items : List JsValue) : sortItems items = items.map sortKeys := by
  induction items with
  | nil => rfl
  | cons item items ih => rw [sortItems, ih, List.map_cons]

theorem sortFields_eq (fields : JsObject) :
    sortFields fields = fields.map fun field => (field.1, sortKeys field.2) := by
  induction fields with
  | nil => rfl
  | cons field fields ih => rw [sortFields, ih, List.map_cons]

end JsValue

theorem JsObject.read_map (f : JsValue → JsValue) (hundefined : f .undefined = .undefined)
    (fields : JsObject) (key : JsString) :
    JsObject.read (fields.map fun field => (field.1, f field.2)) key =
      f (JsObject.read fields key) := by
  induction fields with
  | nil => exact hundefined.symm
  | cons field fields ih =>
      by_cases hfield : field.1 = key
      · simp [JsObject.read, hfield]
      · simpa [JsObject.read, hfield] using ih

theorem JsValue.read_sortKeys (value : JsValue) (key : JsString) :
    value.sortKeys.read key = (value.read key).sortKeys := by
  cases value with
  | object fields =>
      rw [sortKeys, read, read, read_sortEntries, sortFields_eq,
        JsObject.read_map sortKeys (by simp [sortKeys])]
  | undefined | null | boolean _ | number _ | string _ | array _ => simp [sortKeys, read]

end Raft.Foundation
