import Mathlib.Order.WithBot
import Mathlib.Data.Rat.Lemmas
import Mathlib.Algebra.Order.Ring.Rat
import Raft.Foundation.JsValue

/-!
# Comparing numbers

The comparisons of JavaScript numbers.  Each of them is false as soon as one
side is `NaN`, and the two zeros are one value.
-/

namespace Raft.Foundation.JsNumber

def extended : JsNumber → Option (WithBot (WithTop ℚ))
  | .finite value => some ↑(↑value : WithTop ℚ)
  | .negativeZero => some ↑(↑(0 : ℚ) : WithTop ℚ)
  | .nan => none
  | .infinity negative => some (if negative then ⊥ else ↑(⊤ : WithTop ℚ))

def compares (holds : WithBot (WithTop ℚ) → WithBot (WithTop ℚ) → Bool)
    (first second : JsNumber) : Bool :=
  match first.extended, second.extended with
  | some first, some second => holds first second
  | _, _ => false

def strictEq : JsNumber → JsNumber → Bool := compares fun first second => first = second

def gt : JsNumber → JsNumber → Bool := compares fun first second => first > second

def le : JsNumber → JsNumber → Bool := compares fun first second => first ≤ second

def max (first second : JsNumber) : JsNumber :=
  if first = .nan ∨ second = .nan then .nan else if second.gt first then second else first

/-- `Number.isInteger(value) && value >= 0` -/
def isWholeNumber : JsNumber → Bool
  | .finite value => value.den = 1 && 0 ≤ value.num
  | .negativeZero => true
  | .nan | .infinity _ => false

/-- The number, when it is a safe integer that is not negative. -/
def safeNat : JsNumber → Option Nat
  | .finite value =>
      if (JsNumber.finite value).isUnsignedSafeInteger then some value.num.toNat else none
  | .negativeZero => some 0
  | .nan | .infinity _ => none

theorem safeNat_ofNat {n : Nat} (h : n ≤ maxSafeInteger) : (ofNat n).safeNat = some n := by
  have hsafe : (finite n).isUnsignedSafeInteger = true := isUnsignedSafeInteger_ofNat h
  rw [ofNat, safeNat, if_pos hsafe, Rat.num_natCast, Int.toNat_natCast]

end Raft.Foundation.JsNumber
