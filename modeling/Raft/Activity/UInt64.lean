import Mathlib.Order.Defs.Unbundled
import Raft.Foundation.JsValue

/-!
# Canonical decimal-string integers

`UInt64String` texts compare by length and then by code units, which is the
order of the numbers they denote at any length.
-/

namespace Raft.Activity

open Raft.Foundation

def isUInt64String : JsValue → Bool
  | .string text => isCanonicalDecimal text
  | _ => false

abbrev UInt64String := { text : JsString // isCanonicalDecimal text = true }

def compareUInt64String (left right : JsString) : Int :=
  if left.length ≠ right.length then if left.length < right.length then -1 else 1
  else if left = right then 0
  else if left < right then -1 else 1

def asUInt64String : JsValue → Option UInt64String
  | .string text => if h : isCanonicalDecimal text = true then some ⟨text, h⟩ else none
  | _ => none

theorem isUInt64String_iff (value : JsValue) :
    isUInt64String value = true ↔ ∃ text : UInt64String, value = .string text := by
  cases value with
  | string text =>
      constructor
      · exact fun h => ⟨⟨text, h⟩, rfl⟩
      · rintro ⟨canonical, heq⟩
        cases heq
        exact canonical.2
  | undefined | null | boolean _ | number _ | array _ | object _ => simp [isUInt64String]

@[simp] theorem asUInt64String_string (text : UInt64String) :
    asUInt64String (.string text) = some text := by
  simp [asUInt64String, text.2]

namespace UInt64String

def value (text : UInt64String) : Nat := decimalValue text.1

def ofNat (n : Nat) : UInt64String := ⟨decimalText n, isCanonicalDecimal_decimalText n⟩

@[simp] theorem value_ofNat (n : Nat) : (ofNat n).value = n := decimalValue_decimalText n

theorem value_injective : Function.Injective value := fun first second h =>
  Subtype.ext (decimalValue_injOn first.2 second.2 h)

end UInt64String

/-- The comparison is the sign of the difference of the two numbers. -/
theorem compareUInt64String_eq_sign (left right : UInt64String) :
    compareUInt64String left right = ((left.value : Int) - right.value).sign := by
  have hlt := decimalValue_lt_iff left.2 right.2
  have hgt := decimalValue_lt_iff right.2 left.2
  rcases lt_trichotomy left.value right.value with h | h | h
  · rw [Int.sign_eq_neg_one_of_neg (by omega), compareUInt64String]
    rcases hlt.mp h with hlength | ⟨hlength, hunits⟩
    · rw [if_pos (ne_of_lt hlength), if_pos hlength]
    · have hne : left.1 ≠ right.1 := ne_of_lt hunits
      rw [if_neg (not_not.mpr hlength), if_neg hne, if_pos hunits]
  · obtain rfl := UInt64String.value_injective h
    simp [compareUInt64String]
  · rw [Int.sign_eq_one_of_pos (by omega), compareUInt64String]
    rcases hgt.mp h with hlength | ⟨hlength, hunits⟩
    · rw [if_pos (ne_of_gt hlength), if_neg (not_lt.mpr hlength.le)]
    · have hne : left.1 ≠ right.1 := ne_of_gt hunits
      rw [if_neg (not_not.mpr hlength.symm), if_neg hne, if_neg (not_lt.mpr hunits.le)]

@[simp] theorem compareUInt64String_nonpos (left right : UInt64String) :
    compareUInt64String left right ≤ 0 ↔ left.value ≤ right.value := by
  rw [compareUInt64String_eq_sign, Int.sign_nonpos_iff]
  omega

@[simp] theorem compareUInt64String_neg (left right : UInt64String) :
    compareUInt64String left right < 0 ↔ left.value < right.value := by
  rw [compareUInt64String_eq_sign, Int.sign_neg_iff]
  omega

@[simp] theorem compareUInt64String_pos (left right : UInt64String) :
    0 < compareUInt64String left right ↔ right.value < left.value := by
  rw [compareUInt64String_eq_sign, Int.sign_pos_iff]
  omega

/-- Over the accepted texts of any length, the comparison is the order of their numbers: a linear
order that ties equal texts only. -/
theorem compareUInt64String_numericOrder :
    (∀ left right : { text : JsString // isUInt64String (.string text) = true },
      (compareUInt64String left.1 right.1).sign =
          ((decimalValue left.1 : Int) - decimalValue right.1).sign ∧
        (compareUInt64String left.1 right.1 = 0 ↔ left = right)) ∧
      IsLinearOrder { text : JsString // isUInt64String (.string text) = true }
        fun left right => compareUInt64String left.1 right.1 ≤ 0 := by
  have hsign : ∀ left right : { text : JsString // isUInt64String (.string text) = true },
      compareUInt64String left.1 right.1 =
        ((decimalValue left.1 : Int) - decimalValue right.1).sign :=
    fun left right => compareUInt64String_eq_sign left right
  have hle : ∀ left right : { text : JsString // isUInt64String (.string text) = true },
      compareUInt64String left.1 right.1 ≤ 0 ↔ decimalValue left.1 ≤ decimalValue right.1 :=
    fun left right => compareUInt64String_nonpos left right
  have hinjective : ∀ left right : { text : JsString // isUInt64String (.string text) = true },
      decimalValue left.1 = decimalValue right.1 → left = right :=
    fun left right heq => UInt64String.value_injective heq
  refine ⟨fun left right => ⟨?_, ?_⟩, ?_⟩
  · rw [hsign, Int.sign_sign]
  · rw [hsign, Int.sign_eq_zero_iff_zero]
    constructor
    · intro hzero
      exact hinjective left right (by omega)
    · rintro rfl
      omega
  · refine { refl := ?_, trans := ?_, antisymm := ?_, total := ?_ }
    · intro text
      rw [hle]
    · intro first second third hfirst hsecond
      rw [hle] at hfirst hsecond ⊢
      exact Nat.le_trans hfirst hsecond
    · intro left right hleft hright
      rw [hle] at hleft hright
      exact hinjective left right (Nat.le_antisymm hleft hright)
    · intro left right
      rw [hle, hle]
      exact Nat.le_total _ _

end Raft.Activity
