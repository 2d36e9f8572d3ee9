import Mathlib.Data.List.Lex
import Mathlib.Data.Nat.Digits.Lemmas
import Mathlib.Order.Fin.Basic

/-!
# JavaScript strings and canonical decimals

A JavaScript string is a finite sequence of 16-bit code units, so `length`,
concatenation and the relational operators are those of lists; `<` is the
lexicographic order of code units and not of Unicode scalar values.  The second
half develops the canonical decimal texts of natural numbers: rendering,
reading back, and the comparison of two texts by length and then by units.
-/

namespace Raft.Foundation

abbrev CodeUnit := Fin 0x10000

abbrev JsString := List CodeUnit

instance codeUnitCount_neZero : NeZero 0x10000 := ⟨by decide⟩

instance jsString_lawfulBEq : LawfulBEq JsString := inferInstance

def utf16 (c : Char) : JsString :=
  if c.toNat < 0x10000 then [Fin.ofNat _ c.toNat]
  else
    [Fin.ofNat _ (0xD800 + (c.toNat - 0x10000) / 0x400),
     Fin.ofNat _ (0xDC00 + (c.toNat - 0x10000) % 0x400)]

def js (text : String) : JsString := text.toList.flatMap utf16

/-! ## Canonical decimals -/

def isDigit (unit : CodeUnit) : Bool := 0x30 ≤ unit.val && unit.val ≤ 0x39

def digitValue (unit : CodeUnit) : Nat := unit.val - 0x30

def digitUnit (digit : Nat) : CodeUnit := Fin.ofNat _ (0x30 + digit)

def isCanonicalDecimal : JsString → Bool
  | [] => false
  | unit :: rest =>
      (unit.val = 0x30 && rest.isEmpty) || (isDigit unit && unit.val ≠ 0x30 && rest.all isDigit)

def decimalValue (text : JsString) : Nat :=
  Nat.ofDigits 10 (text.reverse.map digitValue)

def decimalText (n : Nat) : JsString :=
  if n = 0 then [0x30] else (Nat.digits 10 n).reverse.map digitUnit

theorem digitValue_lt {unit : CodeUnit} (h : isDigit unit = true) : digitValue unit < 10 := by
  simp only [isDigit, Bool.and_eq_true, decide_eq_true_eq] at h
  simp only [digitValue]
  omega

theorem digitValue_lt_iff {first second : CodeUnit} (hfirst : isDigit first = true)
    (hsecond : isDigit second = true) :
    digitValue first < digitValue second ↔ first < second := by
  simp only [isDigit, Bool.and_eq_true, decide_eq_true_eq] at hfirst hsecond
  simp only [digitValue, Fin.lt_def]
  omega

theorem digitValue_digitUnit {digit : Nat} (h : digit < 10) :
    digitValue (digitUnit digit) = digit := by
  simp only [digitValue, digitUnit, Fin.val_ofNat]
  omega

theorem isDigit_digitUnit {digit : Nat} (h : digit < 10) : isDigit (digitUnit digit) = true := by
  have hval : (digitUnit digit).val = 0x30 + digit := by
    simp only [digitUnit, Fin.val_ofNat]
    omega
  simp only [isDigit, hval, Bool.and_eq_true, decide_eq_true_eq]
  omega

theorem decimalValue_cons (unit : CodeUnit) (rest : JsString) :
    decimalValue (unit :: rest) = digitValue unit * 10 ^ rest.length + decimalValue rest := by
  simp only [decimalValue, List.reverse_cons, List.map_append, List.map_cons, List.map_nil,
    Nat.ofDigits_append, Nat.ofDigits_singleton, List.length_map, List.length_reverse]
  ring

theorem decimalValue_lt_pow {text : JsString} (h : text.all isDigit = true) :
    decimalValue text < 10 ^ text.length := by
  induction text with
  | nil => simp [decimalValue]
  | cons unit rest ih =>
      simp only [List.all_cons, Bool.and_eq_true] at h
      have hrest := ih h.2
      have hdigit := digitValue_lt h.1
      rw [decimalValue_cons, List.length_cons, pow_succ]
      calc digitValue unit * 10 ^ rest.length + decimalValue rest
          < digitValue unit * 10 ^ rest.length + 10 ^ rest.length := by omega
        _ = (digitValue unit + 1) * 10 ^ rest.length := by ring
        _ ≤ 10 * 10 ^ rest.length := Nat.mul_le_mul_right _ hdigit
        _ = 10 ^ rest.length * 10 := by ring

theorem decimalValue_lt_iff_of_length_eq {first second : JsString}
    (hfirst : first.all isDigit = true) (hsecond : second.all isDigit = true)
    (hlength : first.length = second.length) :
    decimalValue first < decimalValue second ↔ first < second := by
  induction first generalizing second with
  | nil =>
      obtain rfl : second = [] := List.length_eq_zero_iff.mp hlength.symm
      simp
  | cons unit rest ih =>
      cases second with
      | nil => simp at hlength
      | cons unit' rest' =>
          simp only [List.all_cons, Bool.and_eq_true] at hfirst hsecond
          simp only [List.length_cons, Nat.add_right_cancel_iff] at hlength
          have hpow := decimalValue_lt_pow hfirst.2
          have hpow' := decimalValue_lt_pow hsecond.2
          rw [List.cons_lt_cons_iff, decimalValue_cons, decimalValue_cons,
            ← ih hfirst.2 hsecond.2 hlength, ← digitValue_lt_iff hfirst.1 hsecond.1, hlength]
          rw [hlength] at hpow
          rcases lt_trichotomy (digitValue unit) (digitValue unit') with hlt | heq | hgt
          · have hmul := Nat.mul_le_mul_right (10 ^ rest'.length) hlt
            rw [Nat.succ_mul] at hmul
            exact iff_of_true (by omega) (Or.inl hlt)
          · have hunit : unit = unit' := by
              simp only [isDigit, Bool.and_eq_true, decide_eq_true_eq, digitValue]
                at hfirst hsecond heq
              exact Fin.ext (by omega)
            rw [heq]
            simp [hunit]
          · have hmul := Nat.mul_le_mul_right (10 ^ rest'.length) hgt
            rw [Nat.succ_mul] at hmul
            have hne : unit ≠ unit' := by
              rintro rfl
              exact lt_irrefl _ hgt
            refine iff_of_false (by omega) ?_
            rintro (hlt | ⟨hunit, -⟩)
            · omega
            · exact hne hunit

theorem isCanonicalDecimal_all {text : JsString} (h : isCanonicalDecimal text = true) :
    text.all isDigit = true := by
  cases text with
  | nil => rfl
  | cons unit rest =>
      simp only [isCanonicalDecimal, Bool.or_eq_true, Bool.and_eq_true, decide_eq_true_eq,
        List.isEmpty_iff] at h
      rcases h with ⟨hunit, rfl⟩ | ⟨⟨hdigit, -⟩, hrest⟩
      · simp [isDigit, hunit]
      · simp [hdigit, hrest]

theorem isCanonicalDecimal_ne_nil {text : JsString} (h : isCanonicalDecimal text = true) :
    text ≠ [] := by
  rintro rfl
  simp [isCanonicalDecimal] at h

theorem pow_le_decimalValue {unit : CodeUnit} {rest : JsString}
    (h : isCanonicalDecimal (unit :: rest) = true) (hrest : rest ≠ []) :
    10 ^ rest.length ≤ decimalValue (unit :: rest) := by
  simp only [isCanonicalDecimal, Bool.or_eq_true, Bool.and_eq_true, decide_eq_true_eq,
    List.isEmpty_iff, hrest, and_false, false_or, isDigit] at h
  have hpos : 1 ≤ digitValue unit := by
    simp only [digitValue]
    omega
  rw [decimalValue_cons]
  calc 10 ^ rest.length = 1 * 10 ^ rest.length := (one_mul _).symm
    _ ≤ digitValue unit * 10 ^ rest.length := Nat.mul_le_mul_right _ hpos
    _ ≤ digitValue unit * 10 ^ rest.length + decimalValue rest := Nat.le_add_right _ _

theorem decimalValue_lt_of_length_lt {first second : JsString}
    (hfirst : isCanonicalDecimal first = true) (hsecond : isCanonicalDecimal second = true)
    (hlength : first.length < second.length) :
    decimalValue first < decimalValue second := by
  cases second with
  | nil => simp at hlength
  | cons unit rest =>
      have hpos := List.length_pos_iff.mpr (isCanonicalDecimal_ne_nil hfirst)
      have hrest : rest ≠ [] := by
        rintro rfl
        rw [List.length_singleton] at hlength
        omega
      calc decimalValue first < 10 ^ first.length :=
            decimalValue_lt_pow (isCanonicalDecimal_all hfirst)
        _ ≤ 10 ^ rest.length := Nat.pow_le_pow_right (by decide) (by simpa using hlength)
        _ ≤ decimalValue (unit :: rest) := pow_le_decimalValue hsecond hrest

/-- Canonical texts compare as their numbers do: by length, then by code units. -/
theorem decimalValue_lt_iff {first second : JsString}
    (hfirst : isCanonicalDecimal first = true) (hsecond : isCanonicalDecimal second = true) :
    decimalValue first < decimalValue second ↔
      first.length < second.length ∨ (first.length = second.length ∧ first < second) := by
  rcases lt_trichotomy first.length second.length with hlt | heq | hgt
  · exact iff_of_true (decimalValue_lt_of_length_lt hfirst hsecond hlt) (Or.inl hlt)
  · rw [decimalValue_lt_iff_of_length_eq (isCanonicalDecimal_all hfirst)
      (isCanonicalDecimal_all hsecond) heq]
    simp [heq]
  · have hback := decimalValue_lt_of_length_lt hsecond hfirst hgt
    exact iff_of_false (by omega) (by omega)

theorem decimalValue_injOn {first second : JsString}
    (hfirst : isCanonicalDecimal first = true) (hsecond : isCanonicalDecimal second = true)
    (h : decimalValue first = decimalValue second) : first = second := by
  have hforward := (decimalValue_lt_iff hfirst hsecond).not.mp (by omega)
  have hback := (decimalValue_lt_iff hsecond hfirst).not.mp (by omega)
  push Not at hforward hback
  have hlength : first.length = second.length := le_antisymm hback.1 hforward.1
  exact le_antisymm (hback.2 hlength.symm) (hforward.2 hlength)

/-! ## Rendering -/

theorem decimalValue_decimalText (n : Nat) : decimalValue (decimalText n) = n := by
  by_cases hzero : n = 0
  · subst hzero
    rfl
  · rw [decimalText, if_neg hzero, decimalValue, ← List.map_reverse, List.reverse_reverse,
      List.map_map]
    have hdigits : (Nat.digits 10 n).map (digitValue ∘ digitUnit) = Nat.digits 10 n := by
      conv_rhs => rw [← List.map_id (Nat.digits 10 n)]
      apply List.map_congr_left
      intro digit hdigit
      exact digitValue_digitUnit (Nat.digits_lt_base (by decide) hdigit)
    rw [hdigits, Nat.ofDigits_digits]

theorem decimalText_injective : Function.Injective decimalText :=
  Function.LeftInverse.injective decimalValue_decimalText

theorem isCanonicalDecimal_decimalText (n : Nat) : isCanonicalDecimal (decimalText n) = true := by
  by_cases hzero : n = 0
  · subst hzero
    rfl
  · have hne : Nat.digits 10 n ≠ [] := Nat.digits_ne_nil_iff_ne_zero.mpr hzero
    rw [decimalText, if_neg hzero,
      ← List.dropLast_append_getLast hne, List.reverse_append, List.reverse_singleton,
      List.singleton_append, List.map_cons]
    have hlast : (Nat.digits 10 n).getLast hne < 10 :=
      Nat.digits_lt_base (by decide) (List.getLast_mem hne)
    have hnonzero : (Nat.digits 10 n).getLast hne ≠ 0 := Nat.getLast_digit_ne_zero 10 hzero
    have hunit : (digitUnit ((Nat.digits 10 n).getLast hne)).val ≠ 0x30 := by
      simp only [digitUnit, Fin.val_ofNat]
      omega
    simp only [isCanonicalDecimal, isDigit_digitUnit hlast, hunit, Bool.true_and, ne_eq,
      not_false_eq_true, decide_true, decide_false, Bool.false_and, Bool.false_or,
      List.all_eq_true, List.mem_map, List.mem_reverse]
    rintro unit ⟨digit, hdigit, rfl⟩
    exact isDigit_digitUnit
      (Nat.digits_lt_base (by decide) (List.mem_of_mem_dropLast hdigit))

end Raft.Foundation
