import Mathlib.Data.Fintype.Option
import Mathlib.Data.List.DropRight
import Mathlib.Tactic.DeriveFintype
import Raft.SkillFrontmatter.BlockScalars

/-!
# Flat documents

A block scalar of a flat document reads as its value, unless its header has the
indicators the other way round or a line separator in its comment, its key is
`__proto__`, or its first line begins with white space that is no space.  The
other keys read as without the block.
-/

namespace Raft.SkillFrontmatter

open Raft.Foundation
open Raft.Foundation.BlockScalar (Chomping breaks)

def spaces (n : Nat) : JsString := List.replicate n 0x20

/-! ## White space -/

theorem trimStart_spaces (n : Nat) (text : JsString) :
    trimStart (spaces n ++ text) = trimStart text := by
  rw [trimStart, List.dropWhile_append_of_pos]
  · rfl
  · intro unit hunit
    rw [List.eq_of_mem_replicate hunit]
    rfl

theorem trim_spaces_append (n : Nat) (text : JsString) : trim (spaces n ++ text) = trim text := by
  have hstart := trimStart_spaces n text
  rw [trimStart, trimStart] at hstart
  rw [trim, trim, hstart]

theorem indentWidth_spaces (n : Nat) (text : JsString) :
    indentWidth (spaces n ++ text) = n + indentWidth text := by
  have hle : (trimStart text).length ≤ text.length := List.length_dropWhile_le _ _
  rw [indentWidth, trimStart_spaces, List.length_append, spaces, List.length_replicate, indentWidth]
  omega

theorem trim_eq_nil_iff {text : JsString} :
    trim text = [] ↔ ∀ unit ∈ text, isWhiteSpace unit = true := by
  constructor
  · intro h unit hunit
    have hall : ∀ unit ∈ text.dropWhile isWhiteSpace, isWhiteSpace unit = true := by
      simpa [trim] using h
    obtain hleft | hright := List.mem_append.mp
        (List.takeWhile_append_dropWhile (p := isWhiteSpace) (l := text) ▸ hunit)
    · exact List.mem_takeWhile_imp hleft
    · exact hall unit hright
  · intro h
    rw [trim, List.dropWhile_eq_nil_iff.mpr h]
    rfl

theorem rdropWhile_append_cons (before : JsString) {unit : CodeUnit}
    (hunit : isWhiteSpace unit = false) (after : JsString) :
    (before ++ unit :: after).rdropWhile isWhiteSpace =
      before ++ unit :: after.rdropWhile isWhiteSpace := by
  rw [List.rdropWhile, List.rdropWhile, List.reverse_append, List.reverse_cons, List.append_assoc,
    List.dropWhile_append]
  split_ifs with hempty
  · rw [List.isEmpty_iff.mp hempty, List.singleton_append,
      List.dropWhile_cons_of_neg (by simp [hunit])]
    simp
  · simp

theorem trim_solid_append {solid : JsString} (hne : solid ≠ [])
    (hsolid : ∀ unit ∈ solid, isWhiteSpace unit = false) (tail : JsString) :
    trim (solid ++ tail) = solid ++ tail.rdropWhile isWhiteSpace := by
  have hstart : (solid ++ tail).dropWhile isWhiteSpace = solid ++ tail := by
    obtain ⟨unit, rest, rfl⟩ := List.exists_cons_of_ne_nil hne
    rw [List.cons_append, List.dropWhile_cons_of_neg]
    simp [hsolid unit List.mem_cons_self]
  have hlast := hsolid _ (List.getLast_mem hne)
  have htrim : trim (solid ++ tail) = (solid ++ tail).rdropWhile isWhiteSpace := by
    rw [trim, hstart]
    rfl
  rw [htrim, ← List.dropLast_append_getLast hne, List.append_assoc, List.singleton_append,
    rdropWhile_append_cons _ hlast, List.append_assoc, List.singleton_append]

theorem rdropWhile_append_spaces (text : JsString) (n : Nat) :
    (text ++ spaces n).rdropWhile isWhiteSpace = text.rdropWhile isWhiteSpace := by
  rw [List.rdropWhile, List.rdropWhile, List.reverse_append, List.dropWhile_append_of_pos]
  intro unit hunit
  rw [List.eq_of_mem_replicate (List.mem_reverse.mp hunit)]
  rfl

/-! ## Headers -/

/-- The header of a block scalar; the indentation indicator is one more than `indicator`. -/
structure ScalarHeader where
  folded : Bool
  chomping : Chomping
  indicator : Option (Fin 9)
  chompingFirst : Bool

def chompingText : Chomping → JsString
  | .strip => js "-"
  | .clip => []
  | .keep => js "+"

def indicatorText : Option (Fin 9) → JsString
  | none => []
  | some indicator => decimalText (indicator + 1)

def ScalarHeader.text (header : ScalarHeader) : JsString :=
  (if header.folded then js ">" else js "|") ++
    if header.chompingFirst then chompingText header.chomping ++ indicatorText header.indicator
    else indicatorText header.indicator ++ chompingText header.chomping

def ScalarHeader.InOrder (header : ScalarHeader) : Prop :=
  header.chompingFirst = true → header.indicator = none ∨ header.chomping = .clip

instance (header : ScalarHeader) : Decidable header.InOrder :=
  inferInstanceAs (Decidable (_ → _))

def ScalarHeader.block (header : ScalarHeader) : BlockHeader :=
  ⟨header.folded, header.chomping, header.indicator.map (·.val + 1)⟩

/-- A comment behind the header, with `gap` more spaces before its `#`. -/
structure ScalarComment where
  gap : Nat
  text : JsString
  oneLine : OneLine text

def ScalarComment.line (comment : ScalarComment) : JsString :=
  spaces (comment.gap + 1) ++ 0x23 :: comment.text

def shownComment : Option ScalarComment → JsString
  | none => []
  | some comment => spaces (comment.gap + 1) ++ 0x23 :: comment.text.rdropWhile isWhiteSpace

/-- The dot of the header's pattern matches every unit of the comment. -/
def ScalarComment.isPlain (comment : ScalarComment) : Bool :=
  !(comment.text.rdropWhile isWhiteSpace).any isLineTerminator

theorem header_solid (header : ScalarHeader) :
    ∀ unit ∈ header.text, isWhiteSpace unit = false ∧ unit ≠ 0x0A ∧ unit ≠ 0x0D := by
  have hall : header.text.all (fun unit =>
      !isWhiteSpace unit && decide (unit ≠ 0x0A) && decide (unit ≠ 0x0D)) = true := by
    obtain ⟨folded, chomping, indicator, chompingFirst⟩ := header
    cases folded <;> cases chomping <;> cases chompingFirst <;> revert indicator <;> decide +kernel
  intro unit hunit
  have hsolid := List.all_eq_true.mp hall unit hunit
  simp only [Bool.and_eq_true, Bool.not_eq_true', decide_eq_true_eq] at hsolid
  exact ⟨hsolid.1.1, hsolid.1.2, hsolid.2⟩

theorem header_text_eq (header : ScalarHeader) :
    header.text = (if header.folded then 0x3E else 0x7C) ::
      if header.chompingFirst then chompingText header.chomping ++ indicatorText header.indicator
      else indicatorText header.indicator ++ chompingText header.chomping := by
  rw [ScalarHeader.text]
  cases header.folded <;> rfl

theorem header_ne_nil (header : ScalarHeader) : header.text ≠ [] := by
  rw [header_text_eq]
  exact List.cons_ne_nil _ _

theorem indicatorText_some (indicator : Fin 9) :
    indicatorText (some indicator) = [digitUnit (indicator.val + 1)] := by
  rw [indicatorText, decimalText, if_neg (Nat.succ_ne_zero _),
    Nat.digits_of_lt 10 _ (Nat.succ_ne_zero _) (by omega)]
  rfl

theorem digitUnit_indicator : ∀ indicator : Fin 9,
    isWhiteSpace (digitUnit (indicator.val + 1)) = false ∧
      takeIndicator [digitUnit (indicator.val + 1)] = (some (indicator.val + 1), []) ∧
      takeChomp [digitUnit (indicator.val + 1)] = (.clip, [digitUnit (indicator.val + 1)]) ∧
      digitUnit (indicator.val + 1) ≠ 0x23 := by
  decide

theorem takeIndicator_append (indicator : Option (Fin 9)) {rest : JsString}
    (hrest : takeIndicator rest = (none, rest)) :
    takeIndicator (indicatorText indicator ++ rest) = (indicator.map (·.val + 1), rest) := by
  cases indicator with
  | none => exact hrest
  | some indicator =>
      obtain ⟨-, htake, -⟩ := digitUnit_indicator indicator
      rw [indicatorText_some, List.singleton_append, takeIndicator]
      rw [takeIndicator] at htake
      split_ifs at htake ⊢ with hrange
      · rw [(Prod.mk.inj htake).1]
        rfl
      · cases (Prod.mk.inj htake).1

theorem takeChomp_append (chomping : Chomping) {rest : JsString}
    (hrest : takeChomp rest = (.clip, rest)) :
    takeChomp (chompingText chomping ++ rest) = (chomping, rest) := by
  cases chomping with
  | strip => rfl
  | clip => exact hrest
  | keep => rfl

theorem takeIndicator_chompingText (chomping : Chomping) {rest : JsString}
    (hrest : chomping = .clip → takeIndicator rest = (none, rest)) :
    takeIndicator (chompingText chomping ++ rest) = (none, chompingText chomping ++ rest) := by
  cases chomping with
  | strip => rfl
  | clip => exact hrest rfl
  | keep => rfl

/-- An indicator that stands after the chomping one is left over. -/
theorem endsHeader_indicatorText (indicator : Fin 9) (rest : JsString) :
    endsHeader (indicatorText (some indicator) ++ rest) = false ∧
      takeChomp (indicatorText (some indicator) ++ rest) =
        (.clip, indicatorText (some indicator) ++ rest) := by
  obtain ⟨hwhite, -, hchomp, hcomment⟩ := digitUnit_indicator indicator
  rw [indicatorText_some, List.singleton_append]
  constructor
  · rw [endsHeader, trimStart, List.dropWhile_cons_of_neg (by simp [hwhite])]
    simp [hcomment]
  · rw [takeChomp] at hchomp ⊢
    split_ifs at hchomp ⊢ with hstrip hkeep
    · cases (Prod.mk.inj hchomp).1
    · cases (Prod.mk.inj hchomp).1
    · rfl

/-- A header is read when the indicators are in order and what follows them is blank. -/
theorem parseBlockHeader_append (header : ScalarHeader) {tail : JsString}
    (htail : ∀ unit ∈ tail.head?, unit = 0x20)
    (htrim : tail.rdropWhile isWhiteSpace = tail) :
    parseBlockHeader (header.text ++ tail) =
      if header.InOrder ∧ endsHeader tail = true then some header.block else none := by
  have hindicator : takeIndicator tail = (none, tail) := by
    cases tail with
    | nil => rfl
    | cons unit tail =>
        obtain rfl := htail unit rfl
        rfl
  have hchomp : takeChomp tail = (.clip, tail) := by
    cases tail with
    | nil => rfl
    | cons unit tail =>
        obtain rfl := htail unit rfl
        rfl
  have hinner : parseBlockHeader (header.text ++ tail) =
      let indicated := takeIndicator
        ((if header.chompingFirst then chompingText header.chomping ++
            indicatorText header.indicator
          else indicatorText header.indicator ++ chompingText header.chomping) ++ tail)
      let chomped := takeChomp indicated.2
      if endsHeader chomped.2 then some ⟨header.folded, chomped.1, indicated.1⟩ else none := by
    rw [parseBlockHeader, trim_solid_append (header_ne_nil header)
      (fun unit hunit => (header_solid header unit hunit).1), htrim, header_text_eq]
    cases header.folded <;> rfl
  have hordered : ∀ indicator chomping, takeIndicator
      (indicatorText indicator ++ (chompingText chomping ++ tail)) =
        (indicator.map (·.val + 1), chompingText chomping ++ tail) := fun indicator chomping =>
    takeIndicator_append indicator (takeIndicator_chompingText chomping fun _ => hindicator)
  obtain ⟨folded, chomping, indicator, chompingFirst⟩ := header
  rw [hinner]
  cases chompingFirst with
  | false =>
      simp only [Bool.false_eq_true, if_false, List.append_assoc]
      rw [hordered]
      dsimp only
      rw [takeChomp_append chomping hchomp]
      simp [ScalarHeader.InOrder, ScalarHeader.block]
  | true =>
      simp only [if_true, List.append_assoc]
      cases indicator with
      | none =>
          have hnone := hordered none chomping
          rw [indicatorText, List.nil_append] at hnone ⊢
          rw [hnone]
          dsimp only
          rw [takeChomp_append chomping hchomp]
          simp [ScalarHeader.InOrder, ScalarHeader.block]
      | some indicator =>
          obtain ⟨hleft, hdigit⟩ := endsHeader_indicatorText indicator tail
          by_cases hclip : chomping = .clip
          · subst hclip
            have hsome := hordered (some indicator) .clip
            rw [chompingText, List.nil_append] at hsome ⊢
            rw [hsome]
            dsimp only
            rw [hchomp]
            simp [ScalarHeader.InOrder, ScalarHeader.block]
          · rw [takeIndicator_chompingText chomping fun h => absurd h hclip]
            dsimp only
            rw [takeChomp_append chomping hdigit]
            simp [ScalarHeader.InOrder, hleft, hclip]

theorem parseBlockHeader_text (header : ScalarHeader) (comment : Option ScalarComment) :
    parseBlockHeader (header.text ++ shownComment comment) =
      if header.InOrder ∧ comment.all ScalarComment.isPlain = true then some header.block
      else none := by
  have hsharp : isWhiteSpace 0x23 = false := by decide
  cases comment with
  | none =>
      have hends : endsHeader (shownComment none) = true := rfl
      have hblank : ∀ unit ∈ (shownComment none).head?, unit = 0x20 := by
        intro unit hunit
        cases hunit
      rw [parseBlockHeader_append header hblank (List.rdropWhile_nil _), hends]
      rfl
  | some comment =>
      have hends : endsHeader (shownComment (some comment)) = comment.isPlain := by
        rw [shownComment, endsHeader, trimStart_spaces, trimStart,
          List.dropWhile_cons_of_neg (by simp [hsharp])]
        simp [ScalarComment.isPlain]
      rw [parseBlockHeader_append header, hends]
      · rfl
      · simp [shownComment, spaces, List.replicate_succ]
      · rw [shownComment, rdropWhile_append_cons _ hsharp, List.rdropWhile_idempotent]

theorem inlineValue_text (header : ScalarHeader) (tail : JsString) :
    inlineValue (header.text ++ tail) = [] := by
  rw [header_text_eq]
  cases header.folded <;> rfl

/-! ## Bodies -/

def bodyLine (contentIndent : Nat) (text : JsString) : JsString :=
  if text = [] then [] else spaces contentIndent ++ text

theorem collectBody_blank (base : Nat) (bodyIndent : Option Nat) (lines : List JsString) :
    collectBody base bodyIndent ([] :: lines) = [] :: collectBody base bodyIndent lines := by
  have hblank : (trim []).length = 0 := rfl
  rw [collectBody, if_pos hblank]

theorem collectBody_explicit {base contentIndent : Nat} (hdeep : base < contentIndent)
    {body : List JsString} (hbody : BodyLines body) :
    collectBody base (some contentIndent) (body.map (bodyLine contentIndent)) = body := by
  induction body with
  | nil => rfl
  | cons text body ih =>
      obtain ⟨htext, hrest⟩ := List.forall_mem_cons.mp hbody
      by_cases hempty : text = []
      · subst hempty
        rw [List.map_cons, bodyLine, if_pos rfl, collectBody_blank, ih hrest]
      · have htrim : (trim (spaces contentIndent ++ text)).length ≠ 0 := by
          rw [trim_spaces_append]
          simpa using htext.resolve_left hempty
        have hwidth := indentWidth_spaces contentIndent text
        have hdrop : (spaces contentIndent ++ text).drop contentIndent = text :=
          List.drop_left' (by simp [spaces])
        rw [List.map_cons, bodyLine, if_neg hempty, collectBody, if_neg htrim,
          if_neg (by omega), Option.getD_some, if_neg (by omega), hdrop, ih hrest]

theorem collectBody_detected {base contentIndent : Nat} (hdeep : base < contentIndent) (lead : Nat)
    {text : JsString} {body : List JsString} (htext : trim text ≠ []) :
    collectBody base none
        ((List.replicate lead [] ++ text :: body).map (bodyLine contentIndent)) =
      List.replicate lead [] ++ text.drop (indentWidth text) ::
        collectBody base (some (contentIndent + indentWidth text))
          (body.map (bodyLine contentIndent)) := by
  induction lead with
  | zero =>
      have hempty : text ≠ [] := fun h => htext (by rw [h]; rfl)
      have htrim : (trim (spaces contentIndent ++ text)).length ≠ 0 := by
        rw [trim_spaces_append]
        simpa using htext
      have hwidth := indentWidth_spaces contentIndent text
      have hdrop : (spaces contentIndent ++ text).drop (contentIndent + indentWidth text) =
          text.drop (indentWidth text) := by
        rw [← List.drop_drop, List.drop_left' (by simp [spaces])]
      simp only [List.replicate_zero, List.nil_append, List.map_cons]
      rw [bodyLine, if_neg hempty, collectBody, if_neg htrim, if_neg (by omega), hwidth,
        Option.getD_none, if_neg (lt_irrefl _), hdrop]
  | succ lead ih =>
      rw [List.replicate_succ, List.cons_append, List.map_cons, bodyLine, if_pos rfl,
        collectBody_blank, ih, List.cons_append]

theorem trim_drop_ne_nil {candidate : JsString} {indent : Nat} (htrim : trim candidate ≠ [])
    (hindent : indent ≤ indentWidth candidate) : trim (candidate.drop indent) ≠ [] := by
  have hsuffix : trimStart candidate <:+ candidate.drop indent := by
    have hle : (trimStart candidate).length ≤ candidate.length := List.length_dropWhile_le _ _
    rw [indentWidth] at hindent
    refine List.suffix_of_suffix_length_le (List.dropWhile_suffix _) (List.drop_suffix _ _) ?_
    rw [List.length_drop]
    have hpos : 0 < candidate.length := by
      obtain _ | ⟨unit, candidate⟩ := candidate
      · exact absurd rfl htrim
      · exact Nat.succ_pos _
    change (trimStart candidate).length ≤ _
    omega
  intro hnone
  have hall : ∀ unit ∈ trimStart candidate, isWhiteSpace unit = true :=
    fun unit hunit => trim_eq_nil_iff.mp hnone unit (hsuffix.subset hunit)
  exact htrim (by simpa [trim, trimStart] using hall)

theorem bodyLines_collectBody (base : Nat) (bodyIndent : Option Nat) (lines : List JsString) :
    BodyLines (collectBody base bodyIndent lines) := by
  have hnil : BodyLines [] := List.forall_mem_nil _
  induction lines generalizing bodyIndent with
  | nil => exact hnil
  | cons candidate lines ih =>
      rw [collectBody]
      dsimp only
      split_ifs with hblank hwidth hindent
      · exact List.forall_mem_cons.mpr ⟨.inl rfl, ih bodyIndent⟩
      · exact hnil
      · exact hnil
      · refine List.forall_mem_cons.mpr ⟨.inr ?_, ih _⟩
        exact trim_drop_ne_nil (by simpa using hblank) (not_lt.mp hindent)

theorem oneLine_collectBody (base : Nat) (bodyIndent : Option Nat) {lines : List JsString}
    (hlines : ∀ line ∈ lines, OneLine line) :
    ∀ line ∈ collectBody base bodyIndent lines, OneLine line := by
  induction lines generalizing bodyIndent with
  | nil => exact List.forall_mem_nil _
  | cons candidate lines ih =>
      obtain ⟨hcandidate, hrest⟩ := List.forall_mem_cons.mp hlines
      rw [collectBody]
      dsimp only
      split_ifs
      · exact List.forall_mem_cons.mpr ⟨List.forall_mem_nil _, ih bodyIndent hrest⟩
      · exact List.forall_mem_nil _
      · exact List.forall_mem_nil _
      · exact List.forall_mem_cons.mpr
          ⟨fun unit hunit => hcandidate unit (List.mem_of_mem_drop hunit), ih _ hrest⟩

/-! ## Documents -/

structure Entry (base : Nat) where
  line : JsString
  below : List JsString
  inner : InnerLine line
  structural : isStructural line = true
  width : indentWidth line = base
  below_oneLine : ∀ other ∈ below, OneLine other
  below_deep : ∀ other ∈ below, (trim other).length = 0 ∨ base < indentWidth other

def linesOf {base : Nat} (entries : List (Entry base)) : List JsString :=
  entries.flatMap fun entry => entry.line :: entry.below

def Entry.Names {base : Nat} (entry : Entry base) (key : JsString) : Prop :=
  ∃ rawValue, lineKey (some base) entry.line = some (key, rawValue)

structure ScalarEntry (base : Nat) where
  key : JsString
  gap : Nat
  header : ScalarHeader
  comment : Option ScalarComment
  trailing : Nat
  contentIndent : Nat
  body : List JsString
  key_ne : key ≠ []
  key_trim : trim key = key
  key_solid : ∀ unit ∈ key, unit ≠ 0x3A ∧ unit ≠ 0x0A ∧ unit ≠ 0x0D
  key_comment : key.head? ≠ some 0x23
  key_fence : base = 0 → fence.isPrefixOf key = false
  deep : base < contentIndent
  indicated : ∀ indicator ∈ header.indicator, contentIndent = base + (indicator.val + 1)
  detected : header.indicator = none →
    ∀ text ∈ body.find? (· ≠ []), text.head? ≠ some 0x20
  body_text : BodyLines body
  body_solid : ∀ text ∈ body, ∀ unit ∈ text, unit ≠ 0x0A ∧ unit ≠ 0x0D ∧ unit ≠ 0x09

section

variable {base : Nat}

def ScalarEntry.tail (entry : ScalarEntry base) : JsString :=
  ((entry.comment.map ScalarComment.line).getD []) ++ spaces entry.trailing

def ScalarEntry.keyLine (entry : ScalarEntry base) : JsString :=
  spaces base ++ (entry.key ++ 0x3A :: (spaces (entry.gap + 1) ++ (entry.header.text ++
    entry.tail)))

def ScalarEntry.bodyLines (entry : ScalarEntry base) : List JsString :=
  entry.body.map (bodyLine entry.contentIndent)

def ScalarEntry.value (entry : ScalarEntry base) : JsString :=
  BlockScalar.value entry.header.folded entry.header.chomping entry.body

/-- Nothing of the block is left in its value. -/
def ScalarEntry.Vacant (entry : ScalarEntry base) : Prop :=
  (∀ text ∈ entry.body, text = []) ∧ (entry.header.chomping = .keep → entry.body = [])

/-- The reader's pattern matches the header. -/
def ScalarEntry.Matched (entry : ScalarEntry base) : Prop :=
  entry.header.InOrder ∧ entry.comment.all ScalarComment.isPlain = true

instance (entry : ScalarEntry base) : Decidable entry.Matched :=
  inferInstanceAs (Decidable (_ ∧ _))

structure ScalarEntry.Readable (entry : ScalarEntry base) : Prop where
  key_ne_proto : entry.key ≠ js "__proto__"
  header : entry.Matched ∨ entry.Vacant
  first : entry.header.indicator = none → ∀ text ∈ entry.body.find? (· ≠ []),
    ∀ unit ∈ text.head?, isWhiteSpace unit = false

/-! ## The key line -/

theorem head_key (entry : ScalarEntry base) :
    ∃ unit rest, entry.key = unit :: rest ∧ isWhiteSpace unit = false ∧ unit ≠ 0x23 := by
  obtain ⟨unit, rest, hkey⟩ := List.exists_cons_of_ne_nil entry.key_ne
  refine ⟨unit, rest, hkey, ?_, ?_⟩
  · by_contra hwhite
    have htrim := entry.key_trim
    rw [hkey, trim, List.dropWhile_cons_of_pos (by simpa using hwhite)] at htrim
    have hlength := congrArg List.length htrim
    rw [List.length_reverse] at hlength
    have hfirst := List.length_dropWhile_le isWhiteSpace rest
    have hsecond := List.length_dropWhile_le isWhiteSpace (rest.dropWhile isWhiteSpace).reverse
    rw [List.length_reverse] at hsecond
    rw [List.length_cons] at hlength
    omega
  · intro hcomment
    exact entry.key_comment (by rw [hkey, hcomment]; rfl)

theorem trimStart_keyLine (entry : ScalarEntry base) :
    trimStart entry.keyLine = entry.key ++ 0x3A :: (spaces (entry.gap + 1) ++ (entry.header.text ++
      entry.tail)) := by
  obtain ⟨unit, rest, hkey, hwhite, -⟩ := head_key entry
  rw [ScalarEntry.keyLine, trimStart_spaces, hkey, trimStart, List.cons_append,
    List.dropWhile_cons_of_neg (by simp [hwhite])]

theorem width_keyLine (entry : ScalarEntry base) : indentWidth entry.keyLine = base := by
  rw [indentWidth, trimStart_keyLine, ScalarEntry.keyLine, @List.length_append _ (spaces base)]
  simp [spaces]

theorem splitAtColon_append {before : JsString} (hbefore : ∀ unit ∈ before, unit ≠ 0x3A)
    (after : JsString) : splitAtColon (before ++ 0x3A :: after) = some (before, after) := by
  induction before with
  | nil => rfl
  | cons unit before ih =>
      obtain ⟨hunit, hrest⟩ := List.forall_mem_cons.mp hbefore
      rw [List.cons_append, splitAtColon, if_neg hunit, ih hrest]
      rfl

theorem isComment_keyLine (entry : ScalarEntry base) : isComment entry.keyLine = false := by
  obtain ⟨unit, rest, hkey, -, hcomment⟩ := head_key entry
  rw [isComment, trimStart_keyLine, hkey]
  simpa using hcomment

theorem nonblank_keyLine (entry : ScalarEntry base) : (trim entry.keyLine).length ≠ 0 := by
  intro hblank
  have hall := trim_eq_nil_iff.mp (List.length_eq_zero_iff.mp hblank)
  have hcolon : isWhiteSpace 0x3A = true := hall 0x3A (by simp [ScalarEntry.keyLine])
  cases hcolon

theorem tail_shown (entry : ScalarEntry base) :
    entry.tail.rdropWhile isWhiteSpace = shownComment entry.comment := by
  have hsharp : isWhiteSpace 0x23 = false := by decide
  rw [ScalarEntry.tail, rdropWhile_append_spaces]
  cases entry.comment with
  | none => rfl
  | some comment => exact rdropWhile_append_cons _ hsharp _

theorem lineKey_keyLine (entry : ScalarEntry base) :
    lineKey (some base) entry.keyLine =
      some (entry.key, entry.header.text ++ shownComment entry.comment) := by
  have hsplit : splitAtColon entry.keyLine = some (spaces base ++ entry.key,
      spaces (entry.gap + 1) ++ (entry.header.text ++ entry.tail)) := by
    rw [ScalarEntry.keyLine, ← List.append_assoc]
    refine splitAtColon_append ?_ _
    intro unit hunit
    obtain hunit | hunit := List.mem_append.mp hunit
    · rw [List.eq_of_mem_replicate hunit]
      decide
    · exact (entry.key_solid unit hunit).1
  have hkey : trim (spaces base ++ entry.key) = entry.key := by
    rw [trim_spaces_append, entry.key_trim]
  have hvalue : trim (spaces (entry.gap + 1) ++ (entry.header.text ++ entry.tail)) =
      entry.header.text ++ shownComment entry.comment := by
    rw [trim_spaces_append, trim_solid_append (header_ne_nil entry.header)
      (fun unit hunit => (header_solid entry.header unit hunit).1), tail_shown]
  rw [lineKey, if_neg, hsplit]
  · dsimp only
    rw [hkey, if_neg entry.key_ne, hvalue]
  · simp [isComment_keyLine, width_keyLine, List.length_eq_zero_iff.not.mp (nonblank_keyLine entry)]

theorem isPrefixOf_fence_colon {key : JsString} (h : fence.isPrefixOf key = false)
    (rest : JsString) :
    fence.isPrefixOf (key ++ 0x3A :: rest) = false := by
  have hfence : fence = [0x2D, 0x2D, 0x2D] := by decide
  rw [hfence] at h ⊢
  obtain _ | ⟨first, _ | ⟨second, _ | ⟨third, key⟩⟩⟩ := key
  · simp [List.isPrefixOf]
  · simp [List.isPrefixOf]
  · simp [List.isPrefixOf]
  · simpa [List.isPrefixOf] using h

theorem isPrefixOf_fence_spaces {n : Nat} (hn : n ≠ 0) (rest : JsString) :
    fence.isPrefixOf (spaces n ++ rest) = false := by
  obtain ⟨n, rfl⟩ := Nat.exists_eq_succ_of_ne_zero hn
  have hfence : fence = [0x2D, 0x2D, 0x2D] := by decide
  simp [hfence, spaces, List.replicate_succ, List.isPrefixOf]

theorem oneLine_spaces (n : Nat) : OneLine (spaces n) := by
  intro unit hunit
  rw [List.eq_of_mem_replicate hunit]
  decide

theorem oneLine_tail (entry : ScalarEntry base) : OneLine entry.tail := by
  intro unit hunit
  rw [ScalarEntry.tail] at hunit
  obtain hunit | hunit := List.mem_append.mp hunit
  · cases hcomment : entry.comment with
    | none => simp [hcomment] at hunit
    | some comment =>
        rw [hcomment, Option.map_some, Option.getD_some, ScalarComment.line] at hunit
        obtain hunit | hunit := List.mem_append.mp hunit
        · exact oneLine_spaces _ unit hunit
        · obtain rfl | hunit := List.mem_cons.mp hunit
          · decide
          · exact comment.oneLine unit hunit
  · exact oneLine_spaces _ unit hunit

theorem innerLine_keyLine (entry : ScalarEntry base) : InnerLine entry.keyLine := by
  constructor
  · intro unit hunit
    simp only [ScalarEntry.keyLine, List.mem_append, List.mem_cons] at hunit
    obtain hunit | hunit | rfl | hunit | hunit | hunit := hunit
    · exact oneLine_spaces _ unit hunit
    · exact (entry.key_solid unit hunit).2
    · decide
    · exact oneLine_spaces _ unit hunit
    · exact (header_solid entry.header unit hunit).2
    · exact oneLine_tail entry unit hunit
  · by_cases hbase : base = 0
    · subst hbase
      exact isPrefixOf_fence_colon (entry.key_fence rfl) _
    · exact isPrefixOf_fence_spaces hbase _

theorem structural_keyLine (entry : ScalarEntry base) : isStructural entry.keyLine = true :=
  (lineKey_some (lineKey_keyLine entry)).1

theorem deep_bodyLines (entry : ScalarEntry base) :
    ∀ line ∈ entry.bodyLines, (trim line).length = 0 ∨ base < indentWidth line := by
  intro line hline
  obtain ⟨text, -, rfl⟩ := List.mem_map.mp hline
  rw [bodyLine]
  split
  · exact .inl rfl
  · have hdeep := entry.deep
    have hwidth := indentWidth_spaces entry.contentIndent text
    exact .inr (by omega)

def ScalarEntry.toEntry (entry : ScalarEntry base) : Entry base where
  line := entry.keyLine
  below := entry.bodyLines
  inner := innerLine_keyLine entry
  structural := structural_keyLine entry
  width := width_keyLine entry
  below_oneLine := by
    intro line hline
    obtain ⟨text, htext, rfl⟩ := List.mem_map.mp hline
    rw [bodyLine]
    split
    · exact nofun
    · intro unit hunit
      obtain hunit | hunit := List.mem_append.mp hunit
      · exact oneLine_spaces _ unit hunit
      · have hsolid := entry.body_solid text htext unit hunit
        exact ⟨hsolid.1, hsolid.2.1⟩
  below_deep := deep_bodyLines entry

/-! ## Reading a document -/

theorem innerLine_linesOf (entries : List (Entry base)) :
    ∀ line ∈ linesOf entries, InnerLine line := by
  intro line hline
  obtain ⟨entry, -, hline⟩ := List.mem_flatMap.mp hline
  obtain rfl | hline := List.mem_cons.mp hline
  · exact entry.inner
  · refine ⟨entry.below_oneLine line hline, ?_⟩
    have hfence : fence = [0x2D, 0x2D, 0x2D] := by decide
    obtain _ | ⟨unit, line⟩ := line
    · rfl
    · have hwhite : isWhiteSpace unit = true := by
        obtain hblank | hdeep := entry.below_deep _ hline
        · exact trim_eq_nil_iff.mp (List.length_eq_zero_iff.mp hblank) unit List.mem_cons_self
        · by_contra hsolid
          rw [indentWidth, trimStart, List.dropWhile_cons_of_neg hsolid] at hdeep
          simp at hdeep
      have hne : unit ≠ 0x2D := by
        rintro rfl
        cases hwhite
      simp [hfence, List.isPrefixOf, Ne.symm hne]

theorem structural_linesOf (entries : List (Entry base)) :
    ∀ line ∈ linesOf entries, isStructural line = true → base ≤ indentWidth line := by
  intro line hline hstructural
  obtain ⟨entry, -, hline⟩ := List.mem_flatMap.mp hline
  obtain rfl | hline := List.mem_cons.mp hline
  · exact entry.width.ge
  · obtain hblank | hdeep := entry.below_deep line hline
    · simp [isStructural, List.length_eq_zero_iff.mp hblank] at hstructural
    · exact hdeep.le

theorem endsBlock_linesOf (entries : List (Entry base)) :
    ∀ line ∈ (linesOf entries).head?, EndsBlock base line := by
  obtain _ | ⟨entry, entries⟩ := entries
  · exact nofun
  · intro line hline
    obtain rfl : entry.line = line := by simpa [linesOf] using hline
    refine ⟨?_, entry.width.le⟩
    have hstructural := entry.structural
    simp only [isStructural, Bool.and_eq_true, decide_eq_true_eq] at hstructural
    exact hstructural.1.1

theorem baseIndent_linesOf {entries : List (Entry base)} (h : entries ≠ []) :
    baseIndent (linesOf entries) = some base := by
  obtain ⟨entry, rest, rfl⟩ := List.exists_cons_of_ne_nil h
  exact baseIndent_eq (structural_linesOf _)
    ⟨entry.line, by simp [linesOf], entry.structural, entry.width⟩

theorem parseDocument_linesOf (entries : List (Entry base)) :
    parseDocument (linesOf entries) = parseLines (some base) 0 (linesOf entries) .empty := by
  by_cases h : entries = []
  · subst h
    rfl
  · rw [parseDocument, baseIndent_linesOf h]

theorem parseLines_linesOf (before after : List (Entry base)) :
    parseLines (some base) 0 (linesOf (before ++ after)) .empty =
      parseLines (some base) 0 (linesOf after) (parseLines (some base) 0 (linesOf before)
        .empty) := by
  rw [linesOf, List.flatMap_append]
  exact parseLines_append (structural_linesOf before) (endsBlock_linesOf after) (Nat.zero_le _) _

def ScalarEntry.readValue (entry : ScalarEntry base) : JsString :=
  if entry.Matched then
    blockValue entry.header.block
      (collectBody base (entry.header.block.explicitIndent.map (base + ·)) entry.bodyLines)
  else []

theorem parseLines_upTo (base : Nat) {first : List JsString} (second : List JsString)
    (hfirst : ∀ line ∈ first, (trim line).length = 0 ∨ base < indentWidth line) {skip : Nat}
    (hskip : skip ≤ first.length) (result : InsertionMap JsString JsString) :
    parseLines (some base) skip (first ++ second) result =
      parseLines (some base) 0 second result := by
  have hlength : (first.take skip).length = skip := by simpa using hskip
  have hsplit := parseLines_skip (some base) (first.take skip) (first.drop skip ++ second) result
  rw [hlength, ← List.append_assoc, List.take_append_drop] at hsplit
  rw [hsplit]
  exact parseLines_deep base second (fun line hline =>
    hfirst line (List.mem_of_mem_drop hline)) result

theorem parseLines_toEntry (entry : ScalarEntry base) (after : List (Entry base))
    (result : InsertionMap JsString JsString) :
    parseLines (some base) 0 (linesOf (entry.toEntry :: after)) result =
      parseLines (some base) 0 (linesOf after) (assign result entry.key entry.readValue) := by
  have hlines : linesOf (entry.toEntry :: after) =
      entry.keyLine :: (entry.bodyLines ++ linesOf after) := by
    simp [linesOf, ScalarEntry.toEntry]
  rw [hlines, parseLines, lineKey_keyLine]
  dsimp only
  have hheader : parseBlockHeader (entry.header.text ++ shownComment entry.comment) =
      if entry.Matched then some entry.header.block else none :=
    parseBlockHeader_text entry.header entry.comment
  rw [hheader, ScalarEntry.readValue]
  by_cases horder : entry.Matched
  · rw [if_pos horder, if_pos horder]
    dsimp only
    rw [width_keyLine, collectBody_append _ _ _ (endsBlock_linesOf after)]
    exact parseLines_upTo base _ (deep_bodyLines entry) (length_collectBody_le _ _ _) _
  · rw [if_neg horder, if_neg horder]
    dsimp only
    rw [inlineValue_text]
    exact parseLines_deep base _ (deep_bodyLines entry) _

/-! ## The value of the block -/

theorem oneLine_bodyLines (entry : ScalarEntry base) : ∀ line ∈ entry.bodyLines, OneLine line :=
  entry.toEntry.below_oneLine

theorem readValue_matched (entry : ScalarEntry base) (horder : entry.Matched) :
    entry.readValue = BlockScalar.value entry.header.folded entry.header.chomping
      (collectBody base (entry.header.block.explicitIndent.map (base + ·)) entry.bodyLines) := by
  rw [ScalarEntry.readValue, if_pos horder]
  exact blockValue_eq _ (bodyLines_collectBody _ _ _)
    (oneLine_collectBody _ _ (oneLine_bodyLines entry))

theorem collectBody_blanks (base : Nat) (bodyIndent : Option Nat) (contentIndent : Nat)
    {body : List JsString} (hbody : ∀ text ∈ body, text = []) :
    collectBody base bodyIndent (body.map (bodyLine contentIndent)) = body := by
  induction body with
  | nil => rfl
  | cons text body ih =>
      obtain ⟨rfl, hrest⟩ := List.forall_mem_cons.mp hbody
      rw [List.map_cons, bodyLine, if_pos rfl, collectBody_blank, ih hrest]

theorem indentWidth_eq_zero_iff {text : JsString} (htext : trim text ≠ []) :
    indentWidth text = 0 ↔ ∀ unit ∈ text.head?, isWhiteSpace unit = false := by
  obtain _ | ⟨unit, text⟩ := text
  · exact absurd rfl htext
  · rw [indentWidth, trimStart]
    cases hunit : isWhiteSpace unit with
    | false => simp [hunit]
    | true =>
        have hle := List.length_dropWhile_le isWhiteSpace text
        rw [List.dropWhile_cons_of_pos hunit, List.length_cons]
        simp [hunit]
        omega

theorem drop_indentWidth (text : JsString) : text.drop (indentWidth text) = trimStart text := by
  have hsuffix : trimStart text <:+ text := List.dropWhile_suffix _
  rw [List.suffix_iff_eq_drop] at hsuffix
  rw [indentWidth, ← hsuffix]

/-- A first line that loses white space at its start gives another value. -/
theorem value_ne_of_white {folded : Bool} {chomping : Chomping} {lead : Nat} {text : JsString}
    {rest other : List JsString} (htext : trim text ≠ []) {unit : CodeUnit}
    (hunit : text.head? = some unit) (hwhite : isWhiteSpace unit = true) :
    BlockScalar.value folded chomping (List.replicate lead [] ++ trimStart text :: other) ≠
      BlockScalar.value folded chomping (List.replicate lead [] ++ text :: rest) := by
  have hstart : trimStart text ≠ [] := by
    intro h
    have hall : ∀ unit ∈ text, isWhiteSpace unit = true := List.dropWhile_eq_nil_iff.mp h
    exact htext (trim_eq_nil_iff.mpr hall)
  obtain ⟨solid, units, hsolid⟩ := List.exists_cons_of_ne_nil hstart
  obtain _ | ⟨first, text⟩ := text
  · cases hunit
  obtain rfl : first = unit := by simpa using hunit
  have hsecond := BlockScalar.prefix_value folded chomping lead (List.cons_ne_nil first text) rest
  have hfirst := BlockScalar.prefix_value folded chomping lead hstart other
  intro heq
  rw [heq] at hfirst
  have hsame : solid = first := by
    rw [hsolid] at hfirst
    obtain hstarts | hstarts := List.prefix_or_prefix_of_prefix hfirst hsecond
    · exact (List.cons_prefix_cons.mp ((List.prefix_append_right_inj _).mp hstarts)).1
    · exact (List.cons_prefix_cons.mp ((List.prefix_append_right_inj _).mp hstarts)).1.symm
  have hdrop := List.head?_dropWhile_not isWhiteSpace (first :: text)
  rw [← trimStart, hsolid, hsame, List.head?_cons] at hdrop
  exact absurd (hdrop.symm.trans hwhite) Bool.false_ne_true

theorem readValue_eq_iff (entry : ScalarEntry base) :
    entry.readValue = entry.value ↔
      (entry.Matched ∨ entry.Vacant) ∧
        (entry.header.indicator = none → ∀ text ∈ entry.body.find? (· ≠ []),
          ∀ unit ∈ text.head?, isWhiteSpace unit = false) := by
  by_cases horder : entry.Matched
  · rw [readValue_matched entry horder]
    cases hindicator : entry.header.indicator with
    | some indicator =>
        have hindent := entry.indicated indicator hindicator
        have hbody := collectBody_explicit entry.deep entry.body_text
        rw [hindent] at hbody
        simp only [ScalarHeader.block, hindicator, Option.map_some, ScalarEntry.bodyLines, hindent,
          hbody]
        simp [horder, ScalarEntry.value]
    | none =>
        simp only [ScalarHeader.block, hindicator, Option.map_none, ScalarEntry.bodyLines,
          ScalarEntry.value, horder, true_or, true_and, true_imp_iff]
        cases hfind : entry.body.find? (· ≠ []) with
        | none =>
            have hempty : ∀ text ∈ entry.body, text = [] := by simpa using hfind
            simp [collectBody_blanks base none entry.contentIndent hempty]
        | some text =>
            obtain ⟨hne, lead, rest, hbody⟩ := BlockScalar.exists_lead hfind
            have htexts := entry.body_text
            rw [hbody] at htexts
            have htext : trim text ≠ [] :=
              (htexts text (by simp)).resolve_left hne
            have hrest : BodyLines rest := fun line hline => htexts line (by simp [hline])
            have hcollect := @collectBody_detected _ _ entry.deep lead _ rest htext
            simp only [hbody, hcollect, Option.mem_some_iff, forall_eq']
            rw [← indentWidth_eq_zero_iff htext]
            constructor
            · intro heq
              rw [indentWidth_eq_zero_iff htext]
              intro unit hunit
              by_contra hwhite
              rw [drop_indentWidth] at heq
              exact value_ne_of_white htext hunit (by simpa using hwhite) heq
            · intro hwidth
              rw [hwidth, List.drop_zero, Nat.add_zero, collectBody_explicit entry.deep hrest]
  · have hfirst : entry.Vacant → entry.header.indicator = none →
        ∀ text ∈ entry.body.find? (· ≠ []), ∀ unit ∈ text.head?, isWhiteSpace unit = false := by
      intro hvacant _ text htext
      exact absurd (hvacant.1 text (List.mem_of_find?_eq_some htext))
        (by simpa using List.find?_some htext)
    rw [ScalarEntry.readValue, if_neg horder, eq_comm, ScalarEntry.value,
      BlockScalar.value_eq_nil_iff]
    change entry.Vacant ↔ _
    rw [or_iff_right horder, iff_self_and]
    exact hfirst

/-! ## Every document -/

/-- The block has its YAML value, and each other key the value it has without the block. -/
structure ReadsAsYaml (crlf : Bool) (rest : JsString) (before : List (Entry base))
    (entry : ScalarEntry base) (after : List (Entry base)) : Prop where
  value : (parseSkillFrontmatter
    (contentOf crlf (linesOf (before ++ entry.toEntry :: after)) rest)).get entry.key =
      some entry.value
  others : ∀ key, key ≠ entry.key →
    (parseSkillFrontmatter
      (contentOf crlf (linesOf (before ++ entry.toEntry :: after)) rest)).get key =
      (parseSkillFrontmatter (contentOf crlf (linesOf (before ++ after)) rest)).get key

theorem parse_block (crlf : Bool) (rest : JsString) (before : List (Entry base))
    (entry : ScalarEntry base) (after : List (Entry base)) :
    parseSkillFrontmatter (contentOf crlf (linesOf (before ++ entry.toEntry :: after)) rest) =
      parseLines (some base) 0 (linesOf after)
        (assign (parseLines (some base) 0 (linesOf before) .empty) entry.key entry.readValue) := by
  rw [parseSkillFrontmatter_contentOf crlf (innerLine_linesOf _), parseDocument_linesOf,
    parseLines_linesOf, parseLines_toEntry]

theorem parse_others (crlf : Bool) (rest : JsString) (before after : List (Entry base)) :
    parseSkillFrontmatter (contentOf crlf (linesOf (before ++ after)) rest) =
      parseLines (some base) 0 (linesOf after)
        (parseLines (some base) 0 (linesOf before) .empty) := by
  rw [parseSkillFrontmatter_contentOf crlf (innerLine_linesOf _), parseDocument_linesOf,
    parseLines_linesOf]

theorem lineKey_linesOf_ne {entries : List (Entry base)} {key : JsString}
    (h : ∀ entry ∈ entries, ¬ entry.Names key) :
    ∀ line ∈ linesOf entries, ∀ rawValue, lineKey (some base) line ≠ some (key, rawValue) := by
  intro line hline rawValue hkey
  obtain ⟨entry, hentry, hline⟩ := List.mem_flatMap.mp hline
  obtain rfl | hline := List.mem_cons.mp hline
  · exact h entry hentry ⟨rawValue, hkey⟩
  · obtain ⟨hstructural, hwidth⟩ := lineKey_some hkey
    obtain hblank | hdeep := entry.below_deep line hline
    · simp [isStructural, List.length_eq_zero_iff.mp hblank] at hstructural
    · exact absurd (hwidth base rfl) (not_le.mpr hdeep)

/--
A block scalar of a flat document, whose key no later line names, reads as its YAML value and
leaves the other keys as they are without it, exactly when it is readable.
-/
theorem parseSkillFrontmatter_blockScalar_iff (crlf : Bool) (rest : JsString)
    (before : List (Entry base)) (entry : ScalarEntry base) (after : List (Entry base))
    (hafter : ∀ other ∈ after, ¬ other.Names entry.key) :
    ReadsAsYaml crlf rest before entry after ↔ entry.Readable := by
  have hread : (parseSkillFrontmatter
      (contentOf crlf (linesOf (before ++ entry.toEntry :: after)) rest)).get entry.key =
        if entry.key ≠ js "__proto__" then some entry.readValue else none := by
    rw [parse_block, get_parseLines_of_ne _ (lineKey_linesOf_ne hafter), get_assign]
    by_cases hproto : entry.key = js "__proto__"
    · rw [if_neg fun h => h.2 hproto, if_neg (not_not.mpr hproto), hproto]
      exact get_proto _ _ _
    · rw [if_pos ⟨rfl, hproto⟩, if_pos hproto]
  have hothers : ∀ key, key ≠ entry.key →
      (parseSkillFrontmatter
        (contentOf crlf (linesOf (before ++ entry.toEntry :: after)) rest)).get key =
        (parseSkillFrontmatter (contentOf crlf (linesOf (before ++ after)) rest)).get key := by
    intro key hne
    rw [parse_block, parse_others, get_parseLines, get_assign, if_neg fun h => hne h.1,
      ← get_parseLines]
  constructor
  · intro h
    have hvalue := hread.symm.trans h.value
    by_cases hproto : entry.key = js "__proto__"
    · rw [if_neg (not_not.mpr hproto)] at hvalue
      cases hvalue
    · rw [if_pos hproto] at hvalue
      obtain ⟨hheader, hfirst⟩ := (readValue_eq_iff entry).mp (Option.some_inj.mp hvalue)
      exact ⟨hproto, hheader, hfirst⟩
  · rintro ⟨hproto, hheader, hfirst⟩
    refine ⟨?_, hothers⟩
    rw [hread, if_pos hproto, (readValue_eq_iff entry).mpr ⟨hheader, hfirst⟩]

end

theorem forall_of_all {α : Type} {p : α → Prop} [DecidablePred p] {list : List α}
    (h : list.all (fun a => decide (p a)) = true) : ∀ a ∈ list, p a := by
  intro a ha
  exact of_decide_eq_true (List.all_eq_true.mp h a ha)

def nameEntry : Entry 0 where
  line := js "name: pdf"
  below := []
  inner := ⟨forall_of_all (by decide +kernel), by decide +kernel⟩
  structural := by decide +kernel
  width := by decide +kernel
  below_oneLine := nofun
  below_deep := nofun

def descriptionEntry : ScalarEntry 0 where
  key := js "description"
  gap := 0
  header := ⟨true, .strip, none, false⟩
  comment := some ⟨0, js " one line", forall_of_all (by decide +kernel)⟩
  trailing := 1
  contentIndent := 2
  body := [js "Read", js "and fill", [], js "forms:", js " - all"]
  key_ne := by decide +kernel
  key_trim := by decide +kernel
  key_solid := forall_of_all (by decide +kernel)
  key_comment := by decide +kernel
  key_fence := by decide +kernel
  deep := by decide
  indicated := nofun
  detected := by
    rintro - text ⟨⟩
    decide +kernel
  body_text := forall_of_all (by decide +kernel)
  body_solid := by
    have hall : ∀ text ∈ [js "Read", js "and fill", [], js "forms:", js " - all"],
      text.all (fun unit =>
        decide (unit ≠ 0x0A ∧ unit ≠ 0x0D ∧ unit ≠ 0x09)) = true :=
      forall_of_all (by decide +kernel)
    exact fun text htext => forall_of_all (hall text htext)

theorem parseSkillFrontmatter_blockScalar_description :
    ReadsAsYaml false [] [] descriptionEntry [nameEntry] :=
  (parseSkillFrontmatter_blockScalar_iff false [] [] descriptionEntry [nameEntry] (by
    intro other hother
    rw [List.mem_singleton.mp hother]
    rintro ⟨rawValue, hname⟩
    have hkey : lineKey (some 0) nameEntry.line = some (js "name", js "pdf") := by decide +kernel
    have hsame : js "name" = js "description" :=
      congrArg Prod.fst (Option.some_inj.mp (hkey.symm.trans hname))
    exact absurd hsame (by decide +kernel))).mpr
    ⟨by decide +kernel, .inl (by decide +kernel), by
      rintro - text ⟨⟩ unit ⟨⟩
      decide +kernel⟩

def ideographicEntry : ScalarEntry 0 where
  key := js "description"
  gap := 0
  header := ⟨false, .clip, none, false⟩
  comment := none
  trailing := 0
  contentIndent := 2
  body := [0x3000 :: js "Text"]
  key_ne := by decide +kernel
  key_trim := by decide +kernel
  key_solid := forall_of_all (by decide +kernel)
  key_comment := by decide +kernel
  key_fence := by decide +kernel
  deep := by decide
  indicated := nofun
  detected := by
    rintro - text ⟨⟩
    decide +kernel
  body_text := forall_of_all (by decide +kernel)
  body_solid := by
    have hall : ∀ text ∈ [0x3000 :: js "Text"], text.all (fun unit =>
        decide (unit ≠ 0x0A ∧ unit ≠ 0x0D ∧ unit ≠ 0x09)) = true :=
      forall_of_all (by decide +kernel)
    exact fun text htext => forall_of_all (hall text htext)

theorem not_parseSkillFrontmatter_blockScalar_ideographic :
    (parseSkillFrontmatter (contentOf false (linesOf [ideographicEntry.toEntry]) [])).get
        (js "description") = some (js "Text\n") ∧
      ideographicEntry.value = 0x3000 :: js "Text\n" ∧
      ¬ ReadsAsYaml false [] [] ideographicEntry [] := by
  have hread : (parseSkillFrontmatter
      (contentOf false (linesOf [ideographicEntry.toEntry]) [])).get
        (js "description") = some (js "Text\n") := by
    decide +kernel
  have hvalue : ideographicEntry.value = 0x3000 :: js "Text\n" := by decide +kernel
  refine ⟨hread, hvalue, fun h => ?_⟩
  have hsame := hread.symm.trans h.value
  rw [hvalue] at hsame
  exact absurd hsame (by decide +kernel)

end Raft.SkillFrontmatter
