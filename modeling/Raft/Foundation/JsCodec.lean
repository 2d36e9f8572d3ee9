import Raft.Foundation.JsonCopy

/-!
# Typed values in JSON documents

A codec writes values of a type as JavaScript values and reads them back from
what JSON made of them.  A value that is never `null` or `undefined` may stand
in a nullable or an optional field.
-/

namespace Raft.Foundation

open JsValue

universe u

structure FieldCodec (α : Type u) where
  toJs : α → JsValue
  ofJs : JsValue → Option α
  ofJs_toJs : ∀ value, ofJs (jsonCopy (toJs value)) = some value

structure JsCodec (α : Type u) extends FieldCodec α where
  isDefined_toJs : ∀ value, isDefined (toJs value) = true
  present : ∀ value, jsonCopy (toJs value) ≠ .null ∧ jsonCopy (toJs value) ≠ .undefined

namespace JsCodec

def text : JsCodec JsString where
  toJs := .string
  ofJs := asString?
  ofJs_toJs _ := rfl
  isDefined_toJs _ := rfl
  present _ := ⟨nofun, nofun⟩

def boolean : JsCodec Bool where
  toJs := .boolean
  ofJs
    | .boolean value => some value
    | _ => none
  ofJs_toJs _ := rfl
  isDefined_toJs _ := rfl
  present _ := ⟨nofun, nofun⟩

def rational : JsCodec ℚ where
  toJs value := .number (.finite value)
  ofJs
    | .number (.finite value) => some value
    | _ => none
  ofJs_toJs _ := rfl
  isDefined_toJs _ := rfl
  present _ := ⟨nofun, nofun⟩

def integer : JsCodec Int where
  toJs value := .number (.finite value)
  ofJs
    | .number (.finite value) => if value.den = 1 then some value.num else none
    | _ => none
  ofJs_toJs value := by simp [jsonCopy, JsNumber.jsonCopy]
  isDefined_toJs _ := rfl
  present _ := ⟨nofun, nofun⟩

def count : JsCodec Nat where
  toJs value := .number (.ofNat value)
  ofJs
    | .number (.finite value) => if value.den = 1 then some value.num.toNat else none
    | _ => none
  ofJs_toJs value := by simp [jsonCopy, JsNumber.ofNat, JsNumber.jsonCopy]
  isDefined_toJs _ := rfl
  present _ := ⟨nofun, nofun⟩

variable {α : Type u} (codec : JsCodec α)

def list : JsCodec (List α) where
  toJs values := .array (values.map codec.toJs)
  ofJs
    | .array items => items.mapM codec.ofJs
    | _ => none
  ofJs_toJs values := by
    rw [jsonCopy_array _ _ codec.isDefined_toJs]
    induction values with
    | nil => rfl
    | cons value values ih => simp_all [codec.ofJs_toJs]
  isDefined_toJs _ := rfl
  present _ := ⟨nofun, nofun⟩

def nullable : FieldCodec (Option α) where
  toJs value := (value.map codec.toJs).getD .null
  ofJs
    | .null => some none
    | value => (codec.ofJs value).map some
  ofJs_toJs
    | none => rfl
    | some value => by
        rw [Option.map_some, Option.getD_some]
        split
        · next hnull => exact absurd hnull (codec.present value).1
        · rw [codec.ofJs_toJs, Option.map_some]

def optional : FieldCodec (Option α) where
  toJs value := (value.map codec.toJs).getD .undefined
  ofJs
    | .undefined => some none
    | value => (codec.ofJs value).map some
  ofJs_toJs
    | none => rfl
    | some value => by
        rw [Option.map_some, Option.getD_some]
        split
        · next hundefined => exact absurd hundefined (codec.present value).2
        · rw [codec.ofJs_toJs, Option.map_some]

end JsCodec

end Raft.Foundation
