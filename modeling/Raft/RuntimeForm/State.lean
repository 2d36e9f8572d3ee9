import Raft.Foundation.DependencyOrder
import Raft.Foundation.InsertionMap
import Raft.RuntimeForm.Fields

/-!
# State of a runtime form

The values a form holds, the defaults its option sources give, and what happens
when one field is set: fields that follow a changed one are reset to their
defaults in dependency order, and a change that moves onto or off a saved
connection then resets the fields a connection owns.
-/

namespace Raft.RuntimeForm

open Raft.Foundation Raft.Foundation.DependencyOrder

inductive RuntimeFormV2Value where
  | text (value : JsString)
  | flag (value : Bool)
  | map (entries : List (JsString × JsString))
  | null
  deriving DecidableEq

abbrev RuntimeFormV2Values := JsString → Option RuntimeFormV2Value

structure RuntimeFormV2Option where
  value : JsString
  /-- The option's other properties. -/
  properties : JsObject

def RuntimeFormV2Option.read (option : RuntimeFormV2Option) (name : JsString) : JsValue :=
  if name = js "value" then .string option.value else option.properties.read name

/-- An absent dictionary reads as one without keys. -/
structure RuntimeFormV2OptionSource where
  pointer : JsString
  dependsOn : Option JsString
  options : Option (List RuntimeFormV2Option)
  defaultValue : Option JsString
  optionsByValue : JsString → Option (List RuntimeFormV2Option)
  defaultValueByValue : JsString → Option JsString
  customValueAllowedByValue : JsString → Option Bool

abbrev RuntimeFormV2Sources := InsertionMap JsString RuntimeFormV2OptionSource

def str : Option RuntimeFormV2Value → JsString
  | some (.text value) => value
  | _ => []

/-- `pointer.replace(/^\//, "")` -/
def withoutSlash : JsString → JsString
  | 0x2F :: key => key
  | key => key

def sourceAt (sources : RuntimeFormV2Sources) (key : JsString) : Option RuntimeFormV2OptionSource :=
  sources.values.find? fun source => source.pointer = js "/" ++ key

def selectedOption (key : JsString) (sources : RuntimeFormV2Sources)
    (values : RuntimeFormV2Values) : Option RuntimeFormV2Option :=
  let value := str (values key)
  match sourceAt sources key with
  | none => none
  | some source =>
      match source.options with
      | some options => options.find? fun option => option.value = value
      | none =>
          let parent := (source.dependsOn.map withoutSlash).getD []
          (source.optionsByValue (str (values parent))).bind fun options =>
            options.find? fun option => option.value = value

def RuntimeFormV2Field.source (field : RuntimeFormV2Field) (sources : RuntimeFormV2Sources) :
    Option RuntimeFormV2OptionSource :=
  match field.optionSourceId with
  | some sourceId => if sourceId = [] then none else sources.get sourceId
  | none => none

def defaultFor (field : RuntimeFormV2Field) (sources : RuntimeFormV2Sources)
    (values : RuntimeFormV2Values) : RuntimeFormV2Value :=
  let source := field.source sources
  match field.kind with
  | .boolean => .flag false
  | .stringMap => .map []
  | .select =>
      .text (((source.bind (·.defaultValue)) <|>
        (source.bind fun source => source.options.bind fun options =>
          options.head?.map (·.value))).getD [])
  | .dependentSelect =>
      let parent := str (values (field.dependsOn.getD []))
      if source.bind (fun source => source.customValueAllowedByValue parent) =
        some true then .text []
      else .text ((source.bind fun source => source.defaultValueByValue parent).getD [])
  | .derivedSelect =>
      let selected := field.derivedFrom.bind fun parent => selectedOption parent.key sources values
      let fallback := (field.derivedFrom.bind (·.defaultAttribute)).bind fun name =>
        selected.bind fun option => (option.read name).asString?
      .text (fallback.getD [])
  | .unsupported => .null
  | .text | .secret | .url => .text []

/-! ## Saved connections -/

def runtimeFormV2SelectedConnection (field : RuntimeFormV2Field) (sources : RuntimeFormV2Sources)
    (values : RuntimeFormV2Values) : Option RuntimeFormV2Option :=
  if field.kind = .select then
    (selectedOption field.key sources values).filter fun option =>
      (option.read (js "connectionId")).text ≠ []
  else none

def runtimeFormV2ConnectionActive (form : ParsedRuntimeFormV2) (sources : RuntimeFormV2Sources)
    (values : RuntimeFormV2Values) : Bool :=
  form.fields.any fun field => (runtimeFormV2SelectedConnection field sources values).isSome

/-! ## A change -/

def parentField (fields : List RuntimeFormV2Field) (field : RuntimeFormV2Field) :
    Option RuntimeFormV2Field :=
  match field.parent with
  | some parent => if parent = [] then none else fields.find? fun other => other.key = parent
  | none => none

def fieldsInOrder (fields : List RuntimeFormV2Field) : List RuntimeFormV2Field :=
  dependencyOrder RuntimeFormV2Field.key (parentField fields) fields

structure Cascade where
  next : RuntimeFormV2Values
  changed : Finset JsString

/-- `parent && changed.has(parent)` -/
def Cascade.follows (cascade : Cascade) (field : RuntimeFormV2Field) : Bool :=
  field.parent.any fun parent => parent ≠ [] && parent ∈ cascade.changed

def Cascade.step (sources : RuntimeFormV2Sources) (cascade : Cascade)
    (field : RuntimeFormV2Field) : Cascade :=
  if cascade.follows field then
    { next := Function.update cascade.next field.key (some (defaultFor field sources cascade.next))
      changed := insert field.key cascade.changed }
  else cascade

/-- The first loop: what follows the changed field is reset, recursively. -/
def cascadeChange (form : ParsedRuntimeFormV2) (sources : RuntimeFormV2Sources)
    (values : RuntimeFormV2Values) (key : JsString) (value : RuntimeFormV2Value) : Cascade :=
  (fieldsInOrder form.fields).foldl (Cascade.step sources)
    { next := Function.update values key (some value), changed := {key} }

def resetOwned (sources : RuntimeFormV2Sources) (next : RuntimeFormV2Values)
    (field : RuntimeFormV2Field) : RuntimeFormV2Values :=
  if field.connectionOwned then
    Function.update next field.key (some (defaultFor field sources next))
  else next

/-- The guard of the second loop: the change moves onto or off a saved connection. -/
def connectionSwitches (form : ParsedRuntimeFormV2) (sources : RuntimeFormV2Sources)
    (values : RuntimeFormV2Values) (key : JsString) (value : RuntimeFormV2Value) : Bool :=
  runtimeFormV2ConnectionActive form sources (cascadeChange form sources values key value).next !=
    runtimeFormV2ConnectionActive form sources values

def applyRuntimeFormV2Change (form : ParsedRuntimeFormV2) (sources : RuntimeFormV2Sources)
    (values : RuntimeFormV2Values) (key : JsString) (value : RuntimeFormV2Value) :
    RuntimeFormV2Values :=
  let next := (cascadeChange form sources values key value).next
  if connectionSwitches form sources values key value then
    form.fields.foldl (resetOwned sources) next
  else next

/-! ## What a default reads -/

/-- The key beside `key` itself that `selectedOption` reads. -/
def sourceParent (sources : RuntimeFormV2Sources) (key : JsString) : Option JsString :=
  match sourceAt sources key with
  | some source =>
      if source.options = none then some ((source.dependsOn.map withoutSlash).getD []) else none
  | none => none

def readKeys (field : RuntimeFormV2Field) (sources : RuntimeFormV2Sources) : List JsString :=
  match field.kind with
  | .dependentSelect => [field.dependsOn.getD []]
  | .derivedSelect =>
      match field.derivedFrom with
      | some parent =>
          if parent.defaultAttribute = none then []
          else parent.key :: (sourceParent sources parent.key).toList
      | none => []
  | _ => []

theorem selectedOption_congr {key : JsString} {sources : RuntimeFormV2Sources}
    {first second : RuntimeFormV2Values}
    (h : ∀ read ∈ key :: (sourceParent sources key).toList, first read = second read) :
    selectedOption key sources first = selectedOption key sources second := by
  have hkey : first key = second key := h key List.mem_cons_self
  simp only [selectedOption]
  cases hsource : sourceAt sources key with
  | none => rfl
  | some source =>
      cases hoptions : source.options with
      | some options => simp only [hoptions, hkey]
      | none =>
          have hparent : sourceParent sources key =
              some ((source.dependsOn.map withoutSlash).getD []) := by
            simp [sourceParent, hsource, hoptions]
          have hread := h ((source.dependsOn.map withoutSlash).getD []) (by simp [hparent])
          simp only [hoptions, hkey, hread]

theorem defaultFor_congr {field : RuntimeFormV2Field} {sources : RuntimeFormV2Sources}
    {first second : RuntimeFormV2Values}
    (h : ∀ read ∈ readKeys field sources, first read = second read) :
    defaultFor field sources first = defaultFor field sources second := by
  simp only [defaultFor]
  rw [readKeys] at h
  cases hkind : field.kind with
  | dependentSelect =>
      have hparent := h (field.dependsOn.getD []) (by simp [hkind])
      simp only [hparent]
  | derivedSelect =>
      simp only [hkind] at h
      cases hfrom : field.derivedFrom with
      | none => rfl
      | some parent =>
          simp only [hfrom] at h
          cases hattribute : parent.defaultAttribute with
          | none => simp [hattribute]
          | some name =>
              simp only [hattribute] at h
              simp only [Option.bind_some, selectedOption_congr h]
  | _ => rfl

end Raft.RuntimeForm
