import Raft.Foundation.JsonText

/-!
# Keys that are arrays of texts

A key of several parts is the JSON text of the array of its parts.  Reading it
back gives the parts, so two keys are equal only when their parts are.
-/

namespace Raft.Foundation

def jsonStrings (texts : List JsString) : JsString := jsonArray (texts.map jsonQuote)

def readQuoted : (fuel : Nat) → JsString → Option (JsString × JsString)
  | 0, _ => none
  | fuel + 1, input =>
      match readPiece input with
      | some (piece, rest) =>
          (readQuoted fuel rest).map fun (text, rest) => (piece ++ text, rest)
      | none => if input.head? = some 0x22 then some ([], input.tail) else none

def readMembers : (fuel : Nat) → JsString → Option (List JsString)
  | fuel + 1, 0x22 :: input =>
      match readQuoted (input.length + 1) input with
      | some (text, rest) =>
          if rest = [0x5D] then some [text]
          else if rest.head? = some 0x2C then (readMembers fuel rest.tail).map (text :: ·)
          else none
      | none => none
  | _, _ => none

/-- `JSON.parse` of an array of texts without white space. -/
def readStrings : JsString → Option (List JsString)
  | 0x5B :: rest => if rest = [0x5D] then some [] else readMembers rest.length rest
  | _ => none

theorem length_le_quoteUnit (unit : CodeUnit) : 1 ≤ (quoteUnit unit).length := by
  unfold quoteUnit
  split <;> first | decide | (split <;> simp [unicodeEscape])

theorem length_le_quoteUnits (text : JsString) : text.length ≤ (quoteUnits text).length := by
  induction text using quoteUnits.induct with
  | case1 => exact Nat.le_refl 0
  | case2 unit => exact length_le_quoteUnit unit
  | case3 unit next rest hpair ih =>
      rw [quoteUnits, if_pos hpair]
      simpa using ih
  | case4 unit next rest hpair ih =>
      rw [quoteUnits, if_neg hpair, List.length_append, List.length_cons]
      have hunit := length_le_quoteUnit unit
      omega

theorem readQuoted_quoteUnits {fuel : Nat} {text : JsString} (hfuel : text.length < fuel)
    (tail : JsString) : readQuoted fuel (quoteUnits text ++ 0x22 :: tail) = some (text, tail) := by
  induction fuel generalizing text with
  | zero => exact absurd hfuel (Nat.not_lt_zero _)
  | succ fuel ih =>
      cases text with
      | nil =>
          have hend : readPiece (0x22 :: tail) = none := by cases tail <;> rfl
          simp [quoteUnits, readQuoted, hend]
      | cons unit units =>
          obtain ⟨piece, rest, hpieces, hne, hread⟩ := readPiece_quoteUnits unit units
          have hshorter : rest.length < fuel := by
            have hpos := List.length_pos_iff.mpr hne
            rw [hpieces, List.length_append] at hfuel
            omega
          rw [readQuoted, hread, hpieces]
          simp only [ih hshorter, Option.map_some]

theorem readMembers_joined {fuel : Nat} {text : JsString} {texts : List JsString}
    (hfuel : (joined jsonQuote (text :: texts) ++ [0x5D]).length ≤ fuel) :
    readMembers fuel (joined jsonQuote (text :: texts) ++ [0x5D]) = some (text :: texts) := by
  induction texts generalizing fuel text with
  | nil =>
      cases fuel with
      | zero => simp at hfuel
      | succ fuel =>
          have htext : joined jsonQuote [text] ++ [0x5D] =
              0x22 :: (quoteUnits text ++ [0x22, 0x5D]) := by
            simp [joined, jsonQuote, js, utf16]
          have hlength := length_le_quoteUnits text
          rw [htext, readMembers, readQuoted_quoteUnits (by simp; omega)]
          rfl
  | cons next texts ih =>
      cases fuel with
      | zero => simp at hfuel
      | succ fuel =>
          have htext : joined jsonQuote (text :: next :: texts) ++ [0x5D] =
              0x22 :: (quoteUnits text ++ 0x22 :: 0x2C ::
                (joined jsonQuote (next :: texts) ++ [0x5D])) := by
            rw [joined_cons_append, joinedTail]
            simp [jsonQuote, js, utf16]
          have hlength := length_le_quoteUnits text
          rw [htext] at hfuel ⊢
          rw [readMembers, readQuoted_quoteUnits (by simp; omega)]
          have hrest : readMembers fuel (joined jsonQuote (next :: texts) ++ [0x5D]) =
              some (next :: texts) := ih (by simp at hfuel ⊢; omega)
          simp [hrest]

/-- What was written as an array of texts is read back. -/
theorem readStrings_jsonStrings (texts : List JsString) :
    readStrings (jsonStrings texts) = some texts := by
  cases texts with
  | nil => rfl
  | cons text texts =>
      have hopen : js "[" = [0x5B] := rfl
      have hclose : js "]" = [0x5D] := rfl
      have htext : jsonStrings (text :: texts) =
          0x5B :: (joined jsonQuote (text :: texts) ++ [0x5D]) := by
        rw [jsonStrings, jsonArray, hopen, hclose]
        rfl
      have hne : joined jsonQuote (text :: texts) ++ [0x5D] ≠ [0x5D] := by
        rw [joined_cons_append]
        simp [jsonQuote, js, utf16]
      rw [htext, readStrings, if_neg hne, readMembers_joined (Nat.le_refl _)]

theorem jsonStrings_injective : Function.Injective jsonStrings := by
  intro first second h
  have hread := readStrings_jsonStrings first
  rw [h, readStrings_jsonStrings] at hread
  exact (Option.some_inj.mp hread).symm

theorem jsonStrings_ne_nil (texts : List JsString) : jsonStrings texts ≠ [] := by
  simp [jsonStrings, jsonArray, js, utf16]

end Raft.Foundation
