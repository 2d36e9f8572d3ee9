import Raft.Foundation.JsValue

/-!
# Fields of a runtime form

The part of the client parser that decides a field's kind and what its choices
depend on.  The parser is tolerant: what it cannot use it ignores, and an
unknown field kind becomes `unsupported`.  A parsed form has distinct field
keys, a dependent select names the field it depends on, and a derived select
names the field it is derived from and no other.
-/

namespace Raft.RuntimeForm

open Raft.Foundation

inductive RuntimeFormV2FieldKind where
  | text
  | secret
  | url
  | boolean
  | stringMap
  | select
  | dependentSelect
  | derivedSelect
  | unsupported
  deriving DecidableEq

/-- Choices are the attribute `attributeName` of the option selected in `key`. -/
structure DerivedFrom where
  key : JsString
  attributeName : JsString
  defaultAttribute : Option JsString
  deriving DecidableEq

structure RuntimeFormV2Field where
  key : JsString
  kind : RuntimeFormV2FieldKind
  optionSourceId : Option JsString
  dependsOn : Option JsString
  derivedFrom : Option DerivedFrom
  connectionOwned : Bool
  deriving DecidableEq

/-- `field.dependsOn ?? field.derivedFrom?.key` -/
def RuntimeFormV2Field.parent (field : RuntimeFormV2Field) : Option JsString :=
  field.dependsOn <|> field.derivedFrom.map DerivedFrom.key

structure RuntimeFormV2Field.WellFormed (field : RuntimeFormV2Field) : Prop where
  dependent : field.kind = .dependentSelect → field.dependsOn ≠ none
  derived : field.kind = .derivedSelect → field.dependsOn = none

structure ParsedRuntimeFormV2 where
  fields : List RuntimeFormV2Field
  keys_nodup : (fields.map RuntimeFormV2Field.key).Nodup
  wellFormed : ∀ field ∈ fields, field.WellFormed

/-! ## The parser -/

inductive OptionSourceKind where
  | select
  | dependentSelect
  deriving DecidableEq

structure RuntimeFormV2OptionSourceRef where
  sourceId : JsString
  kind : OptionSourceKind
  key : JsString
  dependsOn : Option JsString

/-- A reference of a dependent select names the field it depends on; no other does. -/
def RuntimeFormV2OptionSourceRef.WellFormed (source : RuntimeFormV2OptionSourceRef) : Prop :=
  source.dependsOn ≠ none ↔ source.kind = .dependentSelect

def asRecord : JsValue → Option JsObject
  | .object fields => some fields
  | _ => none

/-- `value === true` -/
def isTrue : JsValue → Bool
  | .boolean value => value
  | _ => false

/-- `value === RUNTIME_FORM_V2_PROTOCOL_VERSION` -/
def isProtocolVersion : JsValue → Bool
  | .number value => value = .ofNat 2
  | _ => false

def recordKeys (record : JsObject) : List JsString := record.map Prod.fst

def hasKey (key : JsString) (record : JsObject) : Bool := (recordKeys record).contains key

def stringArray (value : JsValue) : List JsString := value.arrayItems.filterMap JsValue.asString?

/-- The single key a pointer such as `/model` names. -/
def propertyKey : JsValue → Option JsString
  | .string (0x2F :: key) => if key ≠ [] ∧ 0x2F ∉ key then some key else none
  | _ => none

def optionSourceRef (sourceId : JsString) (value : JsValue) :
    Option RuntimeFormV2OptionSourceRef := do
  let source ← asRecord value
  let key ← propertyKey (source.read (js "pointer"))
  if (source.read (js "kind")).asString? = some (js "select") then
    some { sourceId, kind := .select, key, dependsOn := none }
  else if (source.read (js "kind")).asString? = some (js "dependent_select") then
    let dependsOn ← propertyKey (source.read (js "dependsOn"))
    some { sourceId, kind := .dependentSelect, key, dependsOn := some dependsOn }
  else none

def optionSourceRefs (value : JsValue) : List RuntimeFormV2OptionSourceRef :=
  ((asRecord value).getD []).filterMap fun entry => optionSourceRef entry.1 entry.2

def derivedFrom (value : JsValue) (properties : JsObject) : Option DerivedFrom := do
  let source ← asRecord value
  let key ← (source.read (js "field")).asString?
  let attributeName ← (source.read (js "attribute")).asString?
  if hasKey key properties then
    let defaultAttribute := (source.read (js "defaultAttribute")).asString?.filter (· ≠ [])
    some { key, attributeName, defaultAttribute }
  else none

def fieldKind (schema : JsObject) (source : Option RuntimeFormV2OptionSourceRef)
    (derived : Option DerivedFrom) : RuntimeFormV2FieldKind :=
  if (schema.read (js "type")).asString? = some (js "string") then
    match source, derived with
    | some source, _ =>
        match source.kind with
        | .select => .select
        | .dependentSelect => .dependentSelect
    | none, some _ => .derivedSelect
    | none, none =>
        if isTrue (schema.read (js "writeOnly")) then .secret
        else if (schema.read (js "format")).asString? = some (js "uri") then .url
        else .text
  else if (schema.read (js "type")).asString? = some (js "boolean") then .boolean
  else if (schema.read (js "type")).asString? = some (js "object") ∧
      ((schema.read (js "additionalProperties")).read (js "type")).asString? =
        some (js "string") then
    .stringMap
  else .unsupported

def parseField (sources : List RuntimeFormV2OptionSourceRef) (properties : JsObject)
    (key : JsString) : Option RuntimeFormV2Field := do
  let schema ← asRecord (properties.read key)
  let sourceId := (schema.read (js "x-optionSource")).text
  let source :=
    if sourceId = [] then none else sources.find? fun source => source.sourceId = sourceId
  let derived := derivedFrom (schema.read (js "x-optionsFrom")) properties
  some
    { key
      kind := fieldKind schema source derived
      optionSourceId := source.map (·.sourceId)
      dependsOn := source.bind (·.dependsOn)
      derivedFrom := derived
      connectionOwned := isTrue (schema.read (js "x-connectionOwned")) }

/-- The declared order first, then every other property, each key once. -/
def fieldOrder (uiSchema properties : JsObject) : List JsString :=
  let declaredOrder := (stringArray (uiSchema.read (js "order"))).filter fun key =>
    hasKey key properties
  (declaredOrder ++ recordKeys properties).eraseDups

def parseFields (definition uiSchema properties : JsObject) : List RuntimeFormV2Field :=
  (fieldOrder uiSchema properties).filterMap
    (parseField (optionSourceRefs (definition.read (js "optionSources"))) properties)

/-! ### Parsed forms are well formed -/

theorem optionSourceRef_wellFormed {sourceId : JsString} {value : JsValue}
    {source : RuntimeFormV2OptionSourceRef} (h : optionSourceRef sourceId value = some source) :
    source.WellFormed := by
  simp only [optionSourceRef, Option.bind_eq_bind, Option.bind_eq_some_iff] at h
  obtain ⟨record, -, key, -, h⟩ := h
  rw [RuntimeFormV2OptionSourceRef.WellFormed]
  split_ifs at h with hselect hdependent
  · rw [← Option.some.inj h]
    simp
  · obtain ⟨dependsOn, -, h⟩ := Option.bind_eq_some_iff.mp h
    rw [← Option.some.inj h]
    simp

theorem optionSourceRefs_wellFormed {value : JsValue} {source : RuntimeFormV2OptionSourceRef}
    (h : source ∈ optionSourceRefs value) : source.WellFormed := by
  obtain ⟨entry, -, hsource⟩ := List.mem_filterMap.mp h
  exact optionSourceRef_wellFormed hsource

theorem parseField_key {sources : List RuntimeFormV2OptionSourceRef} {properties : JsObject}
    {key : JsString} {field : RuntimeFormV2Field}
    (h : parseField sources properties key = some field) : field.key = key := by
  simp only [parseField, Option.bind_eq_bind, Option.bind_eq_some_iff] at h
  obtain ⟨schema, -, h⟩ := h
  rw [← Option.some.inj h]

/-- A kind that needs a source of its own comes from that source. -/
theorem fieldKind_wellFormed (schema : JsObject) {source : Option RuntimeFormV2OptionSourceRef}
    (derived : Option DerivedFrom) (hsource : ∀ found, source = some found → found.WellFormed) :
    (fieldKind schema source derived = .dependentSelect → source.bind (·.dependsOn) ≠ none) ∧
      (fieldKind schema source derived = .derivedSelect → source.bind (·.dependsOn) = none) := by
  cases source with
  | none =>
      refine ⟨fun h => ?_, fun _ => rfl⟩
      cases derived <;> simp only [fieldKind] at h <;> split_ifs at h
  | some found =>
      have hfound := hsource found rfl
      rw [RuntimeFormV2OptionSourceRef.WellFormed] at hfound
      simp only [fieldKind, Option.bind_some]
      cases hkind : found.kind with
      | select =>
          constructor <;> intro h <;> simp only at h <;> split_ifs at h
      | dependentSelect =>
          refine ⟨fun _ => hfound.mpr hkind, fun h => ?_⟩
          simp only at h
          split_ifs at h

theorem parseField_wellFormed {sources : List RuntimeFormV2OptionSourceRef}
    (hsources : ∀ source ∈ sources, source.WellFormed) {properties : JsObject} {key : JsString}
    {field : RuntimeFormV2Field} (h : parseField sources properties key = some field) :
    field.WellFormed := by
  simp only [parseField, Option.bind_eq_bind, Option.bind_eq_some_iff] at h
  obtain ⟨schema, -, h⟩ := h
  rw [← Option.some.inj h]
  have hsource : ∀ found, (if (schema.read (js "x-optionSource")).text = [] then none
      else sources.find? fun source => source.sourceId = (schema.read (js "x-optionSource")).text) =
        some found → found.WellFormed := by
    intro found hfound
    split_ifs at hfound
    exact hsources found (List.mem_of_find?_eq_some hfound)
  obtain ⟨hdependent, hderived⟩ := fieldKind_wellFormed schema
    (derivedFrom (schema.read (js "x-optionsFrom")) properties) hsource
  exact ⟨hdependent, hderived⟩

theorem nodup_eraseDups {α : Type} [BEq α] [LawfulBEq α] (list : List α) :
    list.eraseDups.Nodup := by
  induction hlength : list.length using Nat.strong_induction_on generalizing list with
  | _ n ih =>
      cases list with
      | nil => simp
      | cons first rest =>
          rw [List.eraseDups_cons, List.nodup_cons, List.mem_eraseDups]
          refine ⟨by simp, ih _ ?_ _ rfl⟩
          rw [← hlength, List.length_cons]
          exact Nat.lt_succ_of_le (List.length_filter_le _ _)

theorem parseFields_keys_nodup (definition uiSchema properties : JsObject) :
    ((parseFields definition uiSchema properties).map RuntimeFormV2Field.key).Nodup := by
  have hnodup := nodup_eraseDups
    ((stringArray (uiSchema.read (js "order"))).filter (fun key => hasKey key properties) ++
      recordKeys properties)
  rw [parseFields, fieldOrder, List.map_filterMap]
  refine hnodup.filterMap ?_
  intro first second key hfirst hsecond
  obtain ⟨field, hfield, rfl⟩ := Option.map_eq_some_iff.mp hfirst
  obtain ⟨other, hother, hkey⟩ := Option.map_eq_some_iff.mp hsecond
  rw [← parseField_key hfield, ← parseField_key hother, hkey]

theorem parseFields_wellFormed {definition uiSchema properties : JsObject}
    {field : RuntimeFormV2Field} (h : field ∈ parseFields definition uiSchema properties) :
    field.WellFormed := by
  obtain ⟨key, -, hfield⟩ := List.mem_filterMap.mp h
  exact parseField_wellFormed (fun source hsource => optionSourceRefs_wellFormed hsource) hfield

def parseRuntimeFormV2 (value : JsValue) : Option ParsedRuntimeFormV2 := do
  let definition ← asRecord value
  guard (isProtocolVersion (definition.read (js "protocolVersion")))
  let dataSchema ← asRecord (definition.read (js "dataSchema"))
  let properties ← asRecord (dataSchema.read (js "properties"))
  let uiSchema := (asRecord (definition.read (js "uiSchema"))).getD []
  some
    { fields := parseFields definition uiSchema properties
      keys_nodup := parseFields_keys_nodup definition uiSchema properties
      wellFormed := fun _ => parseFields_wellFormed }

end Raft.RuntimeForm
