import Mathlib.Data.List.DropRight
import Raft.Foundation.JsString

/-!
# Trimming and case-insensitive matching

`trim` removes the white space and line terminators of the language.  A regular
expression with the flag `i` over an ASCII pattern matches exactly the texts
whose ASCII letters agree with it up to case.
-/

namespace Raft.Foundation

def isWhiteSpace (unit : CodeUnit) : Bool :=
  (0x09 ≤ unit.val && unit.val ≤ 0x0D) || unit.val = 0x20 || unit.val = 0xA0 ||
    unit.val = 0x1680 || (0x2000 ≤ unit.val && unit.val ≤ 0x200A) || unit.val = 0x2028 ||
    unit.val = 0x2029 || unit.val = 0x202F || unit.val = 0x205F || unit.val = 0x3000 ||
    unit.val = 0xFEFF

def trim (text : JsString) : JsString :=
  ((text.dropWhile isWhiteSpace).reverse.dropWhile isWhiteSpace).reverse

@[simp] theorem trim_trim (text : JsString) : trim (trim text) = trim text := by
  have htrim : trim text = (text.dropWhile isWhiteSpace).rdropWhile isWhiteSpace := rfl
  have hhead : (trim text).dropWhile isWhiteSpace = trim text := by
    refine List.dropWhile_eq_self_iff.mpr fun hpos => ?_
    have hstarts : trim text <+: text.dropWhile isWhiteSpace := List.rdropWhile_prefix _ _
    rw [hstarts.getElem hpos]
    exact List.dropWhile_get_zero_not isWhiteSpace text (hpos.trans_le hstarts.length_le)
  calc
    trim (trim text) = ((trim text).dropWhile isWhiteSpace).rdropWhile isWhiteSpace := rfl
    _ = (trim text).rdropWhile isWhiteSpace := by rw [hhead]
    _ = trim text := by rw [htrim, List.rdropWhile_idempotent]

def lowerUnit (unit : CodeUnit) : CodeUnit :=
  if 0x41 ≤ unit.val ∧ unit.val ≤ 0x5A then Fin.ofNat _ (unit.val + 0x20) else unit

def startsWithIgnoringCase (pattern text : JsString) : Bool :=
  (text.take pattern.length).map lowerUnit = pattern

def endsWithIgnoringCase (pattern text : JsString) : Bool :=
  (text.drop (text.length - pattern.length)).map lowerUnit = pattern

end Raft.Foundation
