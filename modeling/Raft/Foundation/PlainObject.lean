import Mathlib.Data.List.Sort
import Mathlib.Logic.Function.Basic
import Raft.Foundation.InsertionMap
import Raft.Foundation.JsString

/-!
# Plain objects used as maps

An object literal `{}` that serves as a dictionary of primitive values.  Reading
a key without an own property falls through to `Object.prototype`, and the key
`__proto__` is an accessor there: assigning it a primitive value stores nothing.
-/

namespace Raft.Foundation

universe u

/-- The own properties; a dictionary never gains one called `__proto__`. -/
structure PlainObject (α : Type u) where
  own : JsString → Option α
  own_proto : own (js "__proto__") = none

inductive PropertyValue (α : Type u) where
  | undefined
  | own (value : α)
  | method (name : JsString) (length : Nat)
  | objectPrototype

/-- The functions of `Object.prototype`: key, `name` and `length`. -/
def prototypeMethods : List (JsString × JsString × Nat) :=
  [(js "constructor", js "Object", 1),
    (js "__defineGetter__", js "__defineGetter__", 2),
    (js "__defineSetter__", js "__defineSetter__", 2),
    (js "hasOwnProperty", js "hasOwnProperty", 1),
    (js "__lookupGetter__", js "__lookupGetter__", 1),
    (js "__lookupSetter__", js "__lookupSetter__", 1),
    (js "isPrototypeOf", js "isPrototypeOf", 1),
    (js "propertyIsEnumerable", js "propertyIsEnumerable", 1),
    (js "toString", js "toString", 0),
    (js "valueOf", js "valueOf", 0),
    (js "toLocaleString", js "toLocaleString", 0)]

def prototypeMethod (key : JsString) : Option (JsString × Nat) :=
  (prototypeMethods.find? fun method => method.1 = key).map Prod.snd

def nativeFunctionText (name : JsString) : JsString :=
  js "function " ++ name ++ js "() \x7b [native code] \x7d"

namespace PlainObject

variable {α : Type u}

def empty : PlainObject α := ⟨fun _ => none, rfl⟩

def get (object : PlainObject α) (key : JsString) : PropertyValue α :=
  match object.own key with
  | some value => .own value
  | none =>
      if key = js "__proto__" then .objectPrototype
      else
        match prototypeMethod key with
        | some (name, length) => .method name length
        | none => .undefined

def set (object : PlainObject α) (key : JsString) (value : α) : PlainObject α :=
  if h : key = js "__proto__" then object
  else ⟨Function.update object.own key (some value), by
    rw [Function.update_of_ne (Ne.symm h), object.own_proto]⟩

def delete (object : PlainObject α) (key : JsString) : PlainObject α :=
  ⟨Function.update object.own key none, by
    by_cases h : js "__proto__" = key
    · rw [h, Function.update_self]
    · rw [Function.update_of_ne h, object.own_proto]⟩

@[ext] theorem ext {first second : PlainObject α}
    (h : ∀ key, first.own key = second.own key) : first = second := by
  cases first
  cases second
  congr
  exact funext h

theorem get_of_own {object : PlainObject α} {key : JsString} {value : α}
    (h : object.own key = some value) : object.get key = .own value := by
  rw [get, h]

theorem own_set (object : PlainObject α) {key : JsString} (hkey : key ≠ js "__proto__")
    (other : JsString) (value : α) :
    (object.set key value).own other = if other = key then some value else object.own other := by
  rw [set, dif_neg hkey]
  exact Function.update_apply _ _ _ _

@[simp] theorem set_proto (object : PlainObject α) (value : α) :
    object.set (js "__proto__") value = object :=
  dif_pos rfl

theorem set_comm (object : PlainObject α) {first second : JsString}
    (firstValue secondValue : α) (h : first ≠ second) :
    (object.set first firstValue).set second secondValue =
      (object.set second secondValue).set first firstValue := by
  by_cases hfirst : first = js "__proto__"
  · rw [hfirst, set_proto, set_proto]
  by_cases hsecond : second = js "__proto__"
  · rw [hsecond, set_proto, set_proto]
  ext1 key
  rw [own_set _ hsecond, own_set _ hfirst, own_set _ hfirst, own_set _ hsecond]
  by_cases hkey : key = first
  · rw [hkey, if_neg h, if_pos rfl, if_pos rfl]
  · rw [if_neg hkey, if_neg hkey]

theorem own_delete (object : PlainObject α) (key other : JsString) :
    (object.delete key).own other = if other = key then none else object.own other :=
  Function.update_apply _ _ _ _

end PlainObject

/-! ## Enumeration -/

section Enumeration

variable {α : Type u}

/-- `object[key] = value`, the own properties being kept in the order of their creation. -/
def assignOwn (own : InsertionMap JsString α) (key : JsString) (value : α) :
    InsertionMap JsString α :=
  if key = js "__proto__" then own else own.set key value

def isArrayIndex (key : JsString) : Bool :=
  isCanonicalDecimal key && decimalValue key < 2 ^ 32 - 1

/-- `Object.entries(object)`: array indices ascending, then the other keys. -/
def ownEntries (own : InsertionMap JsString α) : List (JsString × α) :=
  (own.entries.filter fun entry => isArrayIndex entry.1).insertionSort
      (fun first second => decimalValue first.1 ≤ decimalValue second.1) ++
    own.entries.filter fun entry => !isArrayIndex entry.1

theorem mem_ownEntries {own : InsertionMap JsString α} {entry : JsString × α} :
    entry ∈ ownEntries own ↔ entry ∈ own.entries := by
  rw [ownEntries, List.mem_append, List.mem_insertionSort, List.mem_filter, List.mem_filter]
  cases isArrayIndex entry.1 <;> simp

theorem ownEntries_perm (own : InsertionMap JsString α) : (ownEntries own).Perm own.entries :=
  ((List.perm_insertionSort _ _).append_right _).trans (List.filter_append_perm _ _)

theorem nodup_ownEntries (own : InsertionMap JsString α) :
    ((ownEntries own).map Prod.fst).Nodup :=
  ((ownEntries_perm own).map Prod.fst).nodup_iff.mpr own.nodup

theorem ownEntries_eq_nil {own : InsertionMap JsString α} (h : own.keys = []) :
    ownEntries own = [] := by
  have hentries : own.entries = [] := List.map_eq_nil_iff.mp h
  rw [ownEntries, hentries]
  rfl

theorem ownEntries_single (key : JsString) (value : α) :
    ownEntries (InsertionMap.empty.set key value) = [(key, value)] := by
  cases hindex : isArrayIndex key with
  | false => simp [ownEntries, InsertionMap.set, InsertionMap.keys, InsertionMap.empty, hindex]
  | true => simp [ownEntries, InsertionMap.set, InsertionMap.keys, InsertionMap.empty, hindex]

theorem get_assignOwn_eq_some {own : InsertionMap JsString α} {key other : JsString}
    {value found : α} (h : (assignOwn own key value).get other = some found) :
    (other = key ∧ found = value) ∨ own.get other = some found := by
  rw [assignOwn] at h
  split at h
  · exact Or.inr h
  · rw [InsertionMap.get_set] at h
    split at h
    · next hkey => exact Or.inl ⟨hkey, (Option.some.inj h).symm⟩
    · exact Or.inr h

end Enumeration

end Raft.Foundation
