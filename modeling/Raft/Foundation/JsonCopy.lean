import Raft.Foundation.CanonicalJson

/-!
# Values that went through JSON

What `JSON.parse(JSON.stringify(value))` makes of a value: fields that are
`undefined` are gone, items that are `undefined` and numbers that are not finite
became `null`, and negative zero became zero.  Reading a field of the copy reads
the copy of the field.
-/

namespace Raft.Foundation

def JsNumber.jsonCopy : JsNumber → JsValue
  | .finite value => .number (.finite value)
  | .negativeZero => .number (.finite 0)
  | .nan | .infinity _ => .null

namespace JsValue

mutual

def jsonCopy : JsValue → JsValue
  | .undefined => .undefined
  | .null => .null
  | .boolean value => .boolean value
  | .number value => value.jsonCopy
  | .string value => .string value
  | .array items => .array (jsonItems items)
  | .object fields => .object (jsonFields fields)

def jsonItems : List JsValue → List JsValue
  | [] => []
  | item :: items => (if isDefined item then jsonCopy item else .null) :: jsonItems items

def jsonFields : JsObject → JsObject
  | [] => []
  | (key, value) :: fields =>
      if isDefined value then (key, jsonCopy value) :: jsonFields fields else jsonFields fields

end

theorem jsonItems_eq (items : List JsValue) :
    jsonItems items = items.map fun item => if isDefined item then jsonCopy item else .null := by
  induction items with
  | nil => rfl
  | cons item items ih => rw [jsonItems, ih, List.map_cons]

theorem jsonCopy_array {α : Type*} (toJs : α → JsValue) (items : List α)
    (hdefined : ∀ item, isDefined (toJs item) = true) :
    jsonCopy (.array (items.map toJs)) = .array (items.map fun item => jsonCopy (toJs item)) := by
  rw [jsonCopy, jsonItems_eq, List.map_map]
  exact congrArg JsValue.array (List.map_congr_left fun item _ => if_pos (hdefined item))

theorem read_jsonFields {fields : JsObject} (hkeys : (fields.map Prod.fst).Nodup)
    (key : JsString) : JsObject.read (jsonFields fields) key =
      jsonCopy (JsObject.read fields key) := by
  induction fields with
  | nil => rfl
  | cons field fields ih =>
      rw [List.map_cons, List.nodup_cons] at hkeys
      have hrest := ih hkeys.2
      rw [jsonFields]
      by_cases hkey : field.1 = key
      · have hread : JsObject.read (field :: fields) key = field.2 := by
          simp [JsObject.read, hkey]
        have hlater : JsObject.read fields key = .undefined := by
          rw [JsObject.read, List.find?_eq_none.mpr]
          · rfl
          · intro other hother heq
            have hsame : other.1 = key := by simpa using heq
            exact hkeys.1 (List.mem_map.mpr ⟨other, hother, hsame.trans hkey.symm⟩)
        rw [hread]
        split
        · simp [JsObject.read, hkey]
        · next hundefined =>
            rw [hrest, hlater]
            cases hvalue : field.2 <;> simp_all [isDefined]
      · have hread : JsObject.read (field :: fields) key = JsObject.read fields key := by
          simp [JsObject.read, hkey]
        rw [hread, ← hrest]
        split
        · simp [JsObject.read, hkey]
        · rfl

theorem read_jsonCopy {fields : JsObject} (hkeys : (fields.map Prod.fst).Nodup)
    (key : JsString) : (jsonCopy (.object fields)).read key =
      jsonCopy ((JsValue.object fields).read key) := by
  rw [jsonCopy]
  exact read_jsonFields hkeys key

end JsValue

end Raft.Foundation
