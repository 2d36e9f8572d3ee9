import Raft.Foundation.JsValue

/-!
# Closed object schemas

The fragment of JSON Schema that a generated contract uses: objects whose
properties are all required and no others admitted, arrays, nullable values,
closed sets of texts, bounded integers, and unions of which exactly one member
matches.
-/

namespace Raft.Foundation

abbrev JsonSchema := JsValue → Bool

namespace JsonSchema

def string : JsonSchema := JsValue.isString

def boolean : JsonSchema
  | .boolean _ => true
  | _ => false

def oneText (texts : List JsString) : JsonSchema
  | .string text => decide (text ∈ texts)
  | _ => false

def counter (maximum : Nat) : JsonSchema
  | .number (.finite value) => value.den = 1 && 0 ≤ value.num && value.num ≤ maximum
  | .number .negativeZero => true
  | _ => false

def nullable (schema : JsonSchema) : JsonSchema
  | .null => true
  | value => schema value

def arrayOf (items : JsonSchema) : JsonSchema
  | .array values => values.all items
  | _ => false

/-- Every listed property is required and satisfies its schema; there are no others.
No schema of the library admits the `undefined` that an absent property reads as. -/
def closedObject (properties : List (JsString × JsonSchema)) : JsonSchema
  | .object fields =>
      (properties.all fun property => property.2 (JsObject.read fields property.1)) &&
        (fields.map Prod.fst).all fun key => properties.any fun property => property.1 = key
  | _ => false

def oneOf (schemas : List JsonSchema) : JsonSchema := fun value =>
  schemas.countP (fun schema => schema value) = 1

theorem closedObject_read {properties : List (JsString × JsonSchema)} {fields : JsObject}
    (h : closedObject properties (.object fields) = true) {key : JsString} {schema : JsonSchema}
    (hmem : (key, schema) ∈ properties) : schema (JsObject.read fields key) = true := by
  simp only [closedObject, Bool.and_eq_true, List.all_eq_true] at h
  exact h.1 _ hmem

theorem read_of_mem {fields : JsObject} (h : (fields.map Prod.fst).Nodup) {key : JsString}
    {value : JsValue} (hmem : (key, value) ∈ fields) : JsObject.read fields key = value := by
  induction fields with
  | nil => cases hmem
  | cons field fields ih =>
      rw [List.map_cons, List.nodup_cons] at h
      rcases List.mem_cons.mp hmem with rfl | hrest
      · simp [JsObject.read]
      · have hne : field.1 ≠ key := fun heq =>
          h.1 (heq ▸ List.mem_map_of_mem hrest)
        rw [← ih h.2 hrest]
        simp [JsObject.read, hne]

theorem closedObject_of_forall₂ {properties : List (JsString × JsonSchema)} {fields : JsObject}
    (hdistinct : (properties.map Prod.fst).Nodup)
    (h : List.Forall₂ (fun field property => field.1 = property.1 ∧ property.2 field.2 = true)
      fields properties) : closedObject properties (.object fields) = true := by
  have hkeys : fields.map Prod.fst = properties.map Prod.fst := by
    clear hdistinct
    induction h with
    | nil => rfl
    | cons hhead _ ih => rw [List.map_cons, List.map_cons, hhead.1, ih]
  have hvalues : ∀ property ∈ properties, ∃ value, (property.1, value) ∈ fields ∧
      property.2 value = true := by
    clear hdistinct hkeys
    induction h with
    | nil => simp
    | cons hhead _ ih =>
        intro property hproperty
        rcases List.mem_cons.mp hproperty with rfl | hrest
        · exact ⟨_, hhead.1 ▸ List.mem_cons_self, hhead.2⟩
        · obtain ⟨value, hmem, hvalue⟩ := ih property hrest
          exact ⟨value, List.mem_cons_of_mem _ hmem, hvalue⟩
  simp only [closedObject, Bool.and_eq_true, List.all_eq_true, List.any_eq_true,
    decide_eq_true_eq]
  constructor
  · intro property hproperty
    obtain ⟨value, hmem, hvalue⟩ := hvalues property hproperty
    rwa [read_of_mem (hkeys ▸ hdistinct) hmem]
  · intro key hkey
    rw [hkeys] at hkey
    obtain ⟨property, hproperty, rfl⟩ := List.mem_map.mp hkey
    exact ⟨property, hproperty, rfl⟩

theorem counter_ofNat {maximum n : Nat} (h : n ≤ maximum) :
    counter maximum (.number (JsNumber.ofNat n)) = true := by
  simp only [counter, JsNumber.ofNat, Bool.and_eq_true, decide_eq_true_eq]
  rw [Rat.den_natCast, Rat.num_natCast]
  exact ⟨⟨rfl, Int.natCast_nonneg n⟩, by exact_mod_cast h⟩

theorem exists_of_oneOf {schemas : List JsonSchema} {value : JsValue}
    (h : oneOf schemas value = true) : ∃ schema ∈ schemas, schema value = true := by
  simp only [oneOf, decide_eq_true_eq] at h
  exact List.countP_pos_iff.mp (by omega)

theorem oneOf_congr {schemas : List JsonSchema} {first second : JsValue}
    (h : ∀ schema ∈ schemas, schema first = schema second) :
    oneOf schemas first = oneOf schemas second := by
  have hcount : schemas.countP (fun schema => schema first) =
      schemas.countP fun schema => schema second :=
    List.countP_congr fun schema hschema => by rw [h schema hschema]
  simp only [oneOf, hcount]

end JsonSchema

namespace JsObject

theorem keys_write (fields : JsObject) (key : JsString) (first second : JsValue) :
    (write fields key first).map Prod.fst = (write fields key second).map Prod.fst := by
  induction fields with
  | nil => rfl
  | cons field fields ih =>
      by_cases h : field.1 = key <;> simp [write, h, ih]

end JsObject

namespace JsonSchema

theorem closedObject_write_congr {properties : List (JsString × JsonSchema)} {key : JsString}
    {first second : JsValue}
    (h : ∀ property ∈ properties, property.1 = key → property.2 first = property.2 second)
    (fields : JsObject) :
    closedObject properties (.object (JsObject.write fields key first)) =
      closedObject properties (.object (JsObject.write fields key second)) := by
  have hread : (properties.all fun property =>
        property.2 (JsObject.read (JsObject.write fields key first) property.1)) =
      properties.all fun property =>
        property.2 (JsObject.read (JsObject.write fields key second) property.1) := by
    rw [Bool.eq_iff_iff, List.all_eq_true, List.all_eq_true]
    apply forall₂_congr
    intro property hproperty
    by_cases hkey : property.1 = key
    · rw [JsObject.read_write, JsObject.read_write, if_pos hkey, if_pos hkey,
        h property hproperty hkey]
    · rw [JsObject.read_write_of_ne _ _ hkey, JsObject.read_write_of_ne _ _ hkey]
  rw [closedObject, closedObject, hread, JsObject.keys_write fields key first second]

end JsonSchema

end Raft.Foundation
