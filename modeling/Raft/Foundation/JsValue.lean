import Mathlib.Data.PNat.Basic
import Mathlib.Data.Rat.Defs
import Raft.Foundation.JsString

/-!
# JavaScript data values

The values that JSON documents and structured records are made of.  Finite
numbers are carried as rationals, which contain every double; the four special
values of the number type are kept apart.  An object is the list of its own
fields in insertion order.
-/

namespace Raft.Foundation

inductive JsNumber where
  | finite (value : ℚ)
  | negativeZero
  | nan
  | infinity (negative : Bool)
  deriving DecidableEq

inductive JsValue where
  | undefined
  | null
  | boolean (value : Bool)
  | number (value : JsNumber)
  | string (value : JsString)
  | array (items : List JsValue)
  | object (fields : List (JsString × JsValue))

abbrev JsObject := List (JsString × JsValue)

def maxSafeInteger : Nat := 9007199254740991

namespace JsNumber

def ofNat (n : Nat) : JsNumber := .finite n

/-- `Number.isSafeInteger(value) && value >= 0`; negative zero passes both tests. -/
def isUnsignedSafeInteger : JsNumber → Bool
  | .finite value => value.den = 1 && 0 ≤ value.num && value.num ≤ maxSafeInteger
  | .negativeZero => true
  | .nan => false
  | .infinity _ => false

def isSafeInteger : JsNumber → Bool
  | .finite value => value.den = 1 && value.num.natAbs ≤ maxSafeInteger
  | .negativeZero => true
  | .nan => false
  | .infinity _ => false

theorem isUnsignedSafeInteger_ofNat {n : Nat} (h : n ≤ maxSafeInteger) :
    (ofNat n).isUnsignedSafeInteger = true := by
  simp only [ofNat, isUnsignedSafeInteger, Bool.and_eq_true, decide_eq_true_eq]
  rw [Rat.den_natCast, Rat.num_natCast]
  exact ⟨⟨rfl, Int.natCast_nonneg n⟩, by exact_mod_cast h⟩

/-- `Number.isInteger(value) && value > 0` -/
def positiveInteger : JsNumber → Option ℕ+
  | .finite value =>
      if h : value.den = 1 ∧ 0 < value.num then some ⟨value.num.toNat, by omega⟩ else none
  | .negativeZero | .nan | .infinity _ => none

/-- `Number.isFinite(value) && value > 0` -/
def positiveFinite : JsNumber → Option { value : ℚ // 0 < value }
  | .finite value => if h : 0 < value then some ⟨value, h⟩ else none
  | .negativeZero | .nan | .infinity _ => none

@[simp] theorem positiveInteger_ofNat (n : ℕ+) : (ofNat n).positiveInteger = some n := by
  have hden : ((n : Nat) : ℚ).den = 1 := Rat.den_natCast _
  have hnum : ((n : Nat) : ℚ).num = (n : Nat) := Rat.num_natCast _
  have hpos := n.pos
  rw [ofNat, positiveInteger, dif_pos ⟨hden, by omega⟩]
  exact congrArg some (PNat.eq (by simp [hnum]))

end JsNumber

namespace JsObject

def read (object : JsObject) (key : JsString) : JsValue :=
  ((object.find? fun field => field.1 = key).map Prod.snd).getD .undefined

def write : JsObject → JsString → JsValue → JsObject
  | [], key, value => [(key, value)]
  | field :: fields, key, value =>
      if field.1 = key then (key, value) :: fields else field :: write fields key value

theorem read_write (object : JsObject) (key other : JsString) (value : JsValue) :
    (write object key value).read other = if other = key then value else object.read other := by
  induction object with
  | nil => by_cases h : key = other <;> simp [write, read, h, eq_comm]
  | cons field fields ih =>
      by_cases hkey : field.1 = key
      · by_cases hother : other = key
        · subst hother
          simp [write, read, hkey]
        · have hne : ¬ key = other := fun heq => hother heq.symm
          simp [write, read, hkey, hother, hne]
      · by_cases hfield : field.1 = other
        · have hne : ¬ other = key := fun heq => hkey (hfield.trans heq)
          simp [write, read, hfield, hne]
        · simpa [write, read, hkey, hfield] using ih

@[simp] theorem read_write_self (object : JsObject) (key : JsString) (value : JsValue) :
    (write object key value).read key = value := by
  rw [read_write, if_pos rfl]

theorem read_write_of_ne (object : JsObject) {key other : JsString} (value : JsValue)
    (h : other ≠ key) : (write object key value).read other = object.read other := by
  rw [read_write, if_neg h]

end JsObject

namespace JsValue

def read : JsValue → JsString → JsValue
  | .object fields, key => JsObject.read fields key
  | _, _ => .undefined

/-- `Array.isArray(value) ? value : []` -/
def arrayItems : JsValue → List JsValue
  | .array items => items
  | _ => []

def isString : JsValue → Bool
  | .string _ => true
  | _ => false

def text : JsValue → JsString
  | .string value => value
  | _ => []

def asString? : JsValue → Option JsString
  | .string value => some value
  | _ => none

end JsValue

/-! ## `JSON.stringify` of texts -/

def hexUnit (digit : Nat) : CodeUnit :=
  if digit < 10 then Fin.ofNat _ (0x30 + digit) else Fin.ofNat _ (0x57 + digit)

def unicodeEscape (unit : CodeUnit) : JsString :=
  [0x5C, 0x75, hexUnit (unit.val / 0x1000), hexUnit (unit.val / 0x100 % 0x10),
    hexUnit (unit.val / 0x10 % 0x10), hexUnit (unit.val % 0x10)]

def isHighSurrogate (unit : CodeUnit) : Bool := 0xD800 ≤ unit.val && unit.val ≤ 0xDBFF

def isLowSurrogate (unit : CodeUnit) : Bool := 0xDC00 ≤ unit.val && unit.val ≤ 0xDFFF

def quoteUnit (unit : CodeUnit) : JsString :=
  match unit.val with
  | 0x08 => js "\\b"
  | 0x09 => js "\\t"
  | 0x0A => js "\\n"
  | 0x0C => js "\\f"
  | 0x0D => js "\\r"
  | 0x22 => js "\\\""
  | 0x5C => js "\\\\"
  | _ =>
      if unit.val < 0x20 || isHighSurrogate unit || isLowSurrogate unit then unicodeEscape unit
      else [unit]

/-- Surrogate pairs stay as they are; a lone surrogate is escaped. -/
def quoteUnits : JsString → JsString
  | [] => []
  | [unit] => quoteUnit unit
  | unit :: next :: rest =>
      if isHighSurrogate unit && isLowSurrogate next then unit :: next :: quoteUnits rest
      else quoteUnit unit ++ quoteUnits (next :: rest)

def jsonQuote (text : JsString) : JsString := js "\"" ++ quoteUnits text ++ js "\""

def jsonArray (members : List JsString) : JsString :=
  js "[" ++ (members.intersperse (js ",")).flatten ++ js "]"

example : jsonArray [jsonQuote (js "a\"b"), decimalText 12] = js "[\"a\\\"b\",12]" := by decide

end Raft.Foundation
