import Raft.RuntimeForm.State

/-!
# A field change settles

With acyclic dependencies the first loop settles every field that follows the
changed one: its default is computed after everything it reads.  The reset of
connection-owned fields runs afterwards, in form order and without resetting
what follows them, so it settles only where it moves nothing (the owned field
already holds its default), or where each follower of an owned field is owned
too and stands behind what its default reads.
-/

namespace Raft.RuntimeForm

open Raft.Foundation Raft.Foundation.DependencyOrder

/-! ## Distinct keys -/

theorem ParsedRuntimeFormV2.eq_of_key {form : ParsedRuntimeFormV2}
    {first second : RuntimeFormV2Field} (hfirst : first ∈ form.fields)
    (hsecond : second ∈ form.fields) (h : first.key = second.key) : first = second :=
  List.inj_on_of_nodup_map form.keys_nodup hfirst hsecond h

def ParsedRuntimeFormV2.AcyclicDependencies (form : ParsedRuntimeFormV2) : Prop :=
  Acyclic (parentField form.fields) form.fields

theorem parentField_eq_some {fields : List RuntimeFormV2Field}
    {field parent : RuntimeFormV2Field} (h : parentField fields field = some parent) :
    parent ∈ fields ∧ field.parent = some parent.key ∧ parent.key ≠ [] := by
  rw [parentField] at h
  cases hparent : field.parent with
  | none => simp [hparent] at h
  | some key =>
      simp only [hparent] at h
      split_ifs at h with hempty
      have hkey : parent.key = key := by simpa using List.find?_some h
      exact ⟨List.mem_of_find?_eq_some h, by rw [hkey], by rw [hkey]; exact hempty⟩

theorem parentField_of_key {form : ParsedRuntimeFormV2} {field parent : RuntimeFormV2Field}
    (hmem : parent ∈ form.fields) (hparent : field.parent = some parent.key)
    (hkey : parent.key ≠ []) : parentField form.fields field = some parent := by
  simp only [parentField, hparent, if_neg hkey]
  cases hfind : form.fields.find? fun other => other.key = parent.key with
  | none =>
      have hnone := List.find?_eq_none.mp hfind parent hmem
      simp at hnone
  | some other =>
      have hother : other.key = parent.key := by simpa using List.find?_some hfind
      rw [form.eq_of_key (List.mem_of_find?_eq_some hfind) hmem hother]

theorem fieldsInOrder_spec {form : ParsedRuntimeFormV2} (hacyclic : form.AcyclicDependencies) :
    (∀ field, field ∈ fieldsInOrder form.fields ↔ field ∈ form.fields) ∧
      ((fieldsInOrder form.fields).map RuntimeFormV2Field.key).Nodup ∧
      ParentsFirst (parentField form.fields) (fieldsInOrder form.fields) :=
  dependencyOrder_spec (fun _ hfirst _ hsecond => form.eq_of_key hfirst hsecond)
    (fun _ _ _ hparent => (parentField_eq_some hparent).1) hacyclic

def Before (fields : List RuntimeFormV2Field) (first second : RuntimeFormV2Field) : Prop :=
  fields.idxOf first < fields.idxOf second

instance (fields : List RuntimeFormV2Field) (first second : RuntimeFormV2Field) :
    Decidable (Before fields first second) :=
  inferInstanceAs (Decidable (_ < _))

theorem key_notMem_rest {before after : List RuntimeFormV2Field} {field : RuntimeFormV2Field}
    (h : ((before ++ field :: after).map RuntimeFormV2Field.key).Nodup)
    {earlier : RuntimeFormV2Field} (hearlier : earlier ∈ before) :
    earlier.key ∉ (field :: after).map RuntimeFormV2Field.key := by
  rw [List.map_append, List.nodup_append] at h
  intro hin
  exact h.2.2 earlier.key (List.mem_map_of_mem hearlier) earlier.key hin rfl

theorem Before.mem_of_split {before after : List RuntimeFormV2Field}
    {first second : RuntimeFormV2Field}
    (hnodup : ((before ++ second :: after).map RuntimeFormV2Field.key).Nodup)
    (h : Before (before ++ second :: after) first second) : first ∈ before := by
  have hsecond : second ∉ before := fun hin =>
    key_notMem_rest hnodup hin (List.mem_map_of_mem List.mem_cons_self)
  by_contra hfirst
  rw [Before, List.idxOf_append_of_notMem hfirst, List.idxOf_append_of_notMem hsecond,
    List.idxOf_cons_self] at h
  omega

/-! ## The first loop -/

section Loop

variable {sources : RuntimeFormV2Sources}

theorem Cascade.step_next_of_ne (cascade : Cascade) (field : RuntimeFormV2Field) {key : JsString}
    (h : key ≠ field.key) : (cascade.step sources field).next key = cascade.next key := by
  rw [Cascade.step]
  split_ifs
  · exact Function.update_of_ne h _ _
  · rfl

theorem Cascade.mem_step_changed {cascade : Cascade} {field : RuntimeFormV2Field} {key : JsString} :
    key ∈ (cascade.step sources field).changed ↔
      key ∈ cascade.changed ∨ (key = field.key ∧ cascade.follows field = true) := by
  rw [Cascade.step]
  split_ifs with h
  · rw [Finset.mem_insert, or_comm, and_iff_left h]
  · simp [h]

theorem foldl_step_next (fields : List RuntimeFormV2Field) (cascade : Cascade) {key : JsString}
    (h : key ∉ fields.map RuntimeFormV2Field.key) :
    (fields.foldl (Cascade.step sources) cascade).next key = cascade.next key := by
  induction fields generalizing cascade with
  | nil => rfl
  | cons field fields ih =>
      rw [List.map_cons, List.mem_cons, not_or] at h
      rw [List.foldl_cons, ih _ h.2, cascade.step_next_of_ne field h.1]

theorem mem_foldl_step_changed (fields : List RuntimeFormV2Field) (cascade : Cascade)
    {key : JsString} (h : key ∉ fields.map RuntimeFormV2Field.key) :
    key ∈ (fields.foldl (Cascade.step sources) cascade).changed ↔ key ∈ cascade.changed := by
  induction fields generalizing cascade with
  | nil => rfl
  | cons field fields ih =>
      rw [List.map_cons, List.mem_cons, not_or] at h
      rw [List.foldl_cons, ih _ h.2, Cascade.mem_step_changed]
      exact or_iff_left fun hin => h.1 hin.1

theorem mem_changed_foldl_step (fields : List RuntimeFormV2Field) {cascade : Cascade}
    {key : JsString} (h : key ∈ cascade.changed) :
    key ∈ (fields.foldl (Cascade.step sources) cascade).changed := by
  induction fields generalizing cascade with
  | nil => exact h
  | cons field fields ih =>
      rw [List.foldl_cons]
      exact ih (Cascade.mem_step_changed.mpr (Or.inl h))

theorem foldl_step_unchanged (fields : List RuntimeFormV2Field) (cascade : Cascade)
    {key : JsString} (h : key ∉ (fields.foldl (Cascade.step sources) cascade).changed) :
    (fields.foldl (Cascade.step sources) cascade).next key = cascade.next key ∧
      key ∉ cascade.changed := by
  induction fields generalizing cascade with
  | nil => exact ⟨rfl, h⟩
  | cons field fields ih =>
      obtain ⟨hnext, hstep⟩ := ih _ h
      rw [Cascade.mem_step_changed, not_or] at hstep
      refine ⟨?_, hstep.1⟩
      rw [List.foldl_cons, hnext, Cascade.step]
      split_ifs with hfollows
      · exact Function.update_of_ne (fun hkey => hstep.2 ⟨hkey, hfollows⟩) _ _
      · rfl

end Loop

/-! ### What follows the changed field -/

/-- Setting the field with key `key` reaches `other` through fields that follow one another. -/
def Follows (form : ParsedRuntimeFormV2) (key other : JsString) : Prop :=
  Relation.TransGen (fun parent child => parent ≠ [] ∧
    ∃ field ∈ form.fields, field.key = child ∧ field.parent = some parent) key other

structure Reached (form : ParsedRuntimeFormV2) (key : JsString) (start cascade : Cascade) :
    Prop where
  changed : ∀ other ∈ cascade.changed, other = key ∨ Follows form key other
  next : ∀ other, ¬ Follows form key other → cascade.next other = start.next other

theorem Reached.step {form : ParsedRuntimeFormV2} {key : JsString} {start cascade : Cascade}
    (h : Reached form key start cascade) (sources : RuntimeFormV2Sources)
    {field : RuntimeFormV2Field} (hfield : field ∈ form.fields) :
    Reached form key start (cascade.step sources field) := by
  have hreach : cascade.follows field = true → Follows form key field.key := by
    intro hfollows
    rw [Cascade.follows, Option.any_eq_true] at hfollows
    obtain ⟨parent, hparent, hchanged⟩ := hfollows
    simp only [Bool.and_eq_true, decide_eq_true_eq] at hchanged
    have hstep : parent ≠ [] ∧ ∃ child ∈ form.fields, child.key = field.key ∧
        child.parent = some parent := ⟨hchanged.1, field, hfield, rfl, hparent⟩
    rcases h.changed parent hchanged.2 with rfl | hparent
    · exact .single hstep
    · exact .tail hparent hstep
  constructor
  · intro other hother
    rcases Cascade.mem_step_changed.mp hother with hold | ⟨rfl, hfollows⟩
    · exact h.changed other hold
    · exact Or.inr (hreach hfollows)
  · intro other hother
    rw [← h.next other hother, Cascade.step]
    split_ifs with hfollows
    · have hne : other ≠ field.key := by
        rintro rfl
        exact hother (hreach hfollows)
      exact Function.update_of_ne hne _ _
    · rfl

theorem Reached.foldl {form : ParsedRuntimeFormV2} {key : JsString} {start cascade : Cascade}
    (h : Reached form key start cascade) (sources : RuntimeFormV2Sources)
    {fields : List RuntimeFormV2Field} (hfields : fields ⊆ form.fields) :
    Reached form key start (fields.foldl (Cascade.step sources) cascade) := by
  induction fields generalizing cascade with
  | nil => exact h
  | cons field fields ih =>
      obtain ⟨hfield, hfields⟩ := List.cons_subset.mp hfields
      exact ih (h.step sources hfield) hfields

def startChange (values : RuntimeFormV2Values) (key : JsString) (value : RuntimeFormV2Value) :
    Cascade :=
  { next := Function.update values key (some value), changed := {key} }

theorem reached_start (form : ParsedRuntimeFormV2) (values : RuntimeFormV2Values)
    (key : JsString) (value : RuntimeFormV2Value) :
    Reached form key (startChange values key value) (startChange values key value) :=
  ⟨fun _ hother => Or.inl (Finset.mem_singleton.mp hother), fun _ _ => rfl⟩

section Settles

variable {form : ParsedRuntimeFormV2} (hacyclic : form.AcyclicDependencies)
  {sources : RuntimeFormV2Sources} {values : RuntimeFormV2Values} {key : JsString}
  {value : RuntimeFormV2Value}

theorem cascadeChange_unchanged {other : JsString}
    (h : other ∉ (cascadeChange form sources values key value).changed) :
    (cascadeChange form sources values key value).next other = values other := by
  obtain ⟨hnext, hother⟩ := foldl_step_unchanged _ _ h
  rw [Finset.mem_singleton] at hother
  rw [cascadeChange, hnext]
  exact Function.update_of_ne hother _ _

include hacyclic

theorem cascadeChange_reached :
    Reached form key (startChange values key value) (cascadeChange form sources values key value) :=
  (reached_start form values key value).foldl sources fun field hfield =>
    ((fieldsInOrder_spec hacyclic).1 field).mp hfield

theorem cascadeChange_turn {field : RuntimeFormV2Field} (hfield : field ∈ form.fields)
    {parent : JsString} (hparent : field.parent = some parent) (hempty : parent ≠ [])
    (hchanged : parent ∈ (cascadeChange form sources values key value).changed) :
    ∃ before after, fieldsInOrder form.fields = before ++ field :: after ∧
      (before.foldl (Cascade.step sources) (startChange values key value)).follows field =
        true := by
  obtain ⟨hmem, hnodup, hfirst⟩ := fieldsInOrder_spec hacyclic
  obtain ⟨before, after, hsplit⟩ := List.append_of_mem ((hmem field).mpr hfield)
  refine ⟨before, after, hsplit, ?_⟩
  rw [hsplit] at hnodup
  -- The parent was decided before the field's turn.
  have hparent_rest : parent ∉ (field :: after).map RuntimeFormV2Field.key := by
    intro hin
    obtain ⟨other, hother, rfl⟩ := List.mem_map.mp hin
    have hother_form : other ∈ form.fields :=
      (hmem other).mp (hsplit ▸ List.mem_append_right _ hother)
    have hbefore := hfirst before field after hsplit other
      (parentField_of_key hother_form hparent hempty)
    exact key_notMem_rest hnodup hbefore hin
  rw [cascadeChange, hsplit, List.foldl_append, mem_foldl_step_changed _ _ hparent_rest]
    at hchanged
  simp [Cascade.follows, hparent, hempty, startChange, hchanged]

theorem mem_changed_of_follows {other : JsString} (h : Follows form key other) :
    other ∈ (cascadeChange form sources values key value).changed := by
  have hmarks : ∀ parent child, (parent ≠ [] ∧ ∃ field ∈ form.fields, field.key = child ∧
      field.parent = some parent) →
        parent ∈ (cascadeChange form sources values key value).changed →
          child ∈ (cascadeChange form sources values key value).changed := by
    rintro parent _ ⟨hempty, field, hfield, rfl, hparent⟩ hchanged
    obtain ⟨before, after, hsplit, hfollows⟩ :=
      cascadeChange_turn hacyclic hfield hparent hempty hchanged
    rw [cascadeChange, hsplit, List.foldl_append, List.foldl_cons]
    exact mem_changed_foldl_step _ (Cascade.mem_step_changed.mpr (Or.inr ⟨rfl, hfollows⟩))
  induction h with
  | single hstep =>
      exact hmarks _ _ hstep (mem_changed_foldl_step _ (Finset.mem_singleton_self key))
  | tail _ hstep ih => exact hmarks _ _ hstep ih

/-- A follower of a marked field holds its default, if what that reads was settled before it. -/
theorem cascadeChange_settles {field : RuntimeFormV2Field} (hfield : field ∈ form.fields)
    {parent : JsString} (hparent : field.parent = some parent) (hempty : parent ≠ [])
    (hchanged : parent ∈ (cascadeChange form sources values key value).changed)
    (hreads : ∀ other ∈ form.fields, other.key ∈ readKeys field sources →
      Follows form key other.key → Before (fieldsInOrder form.fields) other field) :
    (cascadeChange form sources values key value).next field.key =
      some (defaultFor field sources (cascadeChange form sources values key value).next) := by
  obtain ⟨before, after, hsplit, hfollows⟩ :=
    cascadeChange_turn hacyclic hfield hparent hempty hchanged
  obtain ⟨hmem, hnodup, -⟩ := fieldsInOrder_spec hacyclic
  have hrest : ∀ other ∈ field :: after, other ∈ form.fields := fun other hother =>
    (hmem other).mp (hsplit ▸ List.mem_append_right _ hother)
  rw [hsplit] at hnodup hreads
  have hreached : Reached form key (startChange values key value)
      (before.foldl (Cascade.step sources) (startChange values key value)) :=
    (reached_start form values key value).foldl sources fun other hother =>
      (hmem other).mp (hsplit ▸ List.mem_append_left _ hother)
  have hall : Reached form key (startChange values key value)
      (cascadeChange form sources values key value) := cascadeChange_reached hacyclic
  have hrun : cascadeChange form sources values key value = (field :: after).foldl
      (Cascade.step sources) (before.foldl (Cascade.step sources)
        (startChange values key value)) := by
    rw [cascadeChange, hsplit, List.foldl_append]
    rfl
  generalize hstate : before.foldl (Cascade.step sources) (startChange values key value) = state
    at hreached hrun hfollows
  have hreads_eq : ∀ read ∈ readKeys field sources, state.next read =
      (cascadeChange form sources values key value).next read := by
    intro read hread
    by_cases hin : read ∈ (field :: after).map RuntimeFormV2Field.key
    · by_cases hreach : Follows form key read
      · obtain ⟨other, hother, rfl⟩ := List.mem_map.mp hin
        have hbefore := (hreads other (hrest other hother) hread hreach).mem_of_split hnodup
        exact absurd hin (key_notMem_rest hnodup hbefore)
      · rw [hreached.next read hreach, hall.next read hreach]
    · rw [hrun, foldl_step_next _ _ hin]
  have hafter : field.key ∉ after.map RuntimeFormV2Field.key := by
    rw [List.map_append, List.map_cons, List.nodup_append, List.nodup_cons] at hnodup
    exact hnodup.2.1.1
  rw [← defaultFor_congr hreads_eq, hrun, List.foldl_cons, foldl_step_next _ _ hafter,
    Cascade.step, if_pos hfollows]
  exact Function.update_self _ _ _

end Settles

/-! ## The reset of connection-owned fields -/

section Reset

variable {sources : RuntimeFormV2Sources}

theorem foldl_resetOwned_of_notMem (fields : List RuntimeFormV2Field) (next : RuntimeFormV2Values)
    {key : JsString} (h : ∀ field ∈ fields, field.connectionOwned = true → field.key ≠ key) :
    fields.foldl (resetOwned sources) next key = next key := by
  induction fields generalizing next with
  | nil => rfl
  | cons field fields ih =>
      rw [List.foldl_cons, ih _ fun other hother => h other (List.mem_cons_of_mem _ hother),
        resetOwned]
      split_ifs with howned
      · exact Function.update_of_ne (h field List.mem_cons_self howned).symm _ _
      · rfl

/-- The reset writes back the default an owned field already holds, as long as that reads no
owned field. -/
theorem foldl_resetOwned_of_default (fields : List RuntimeFormV2Field)
    {next : RuntimeFormV2Values} {field : RuntimeFormV2Field}
    (hdefault : next field.key = some (defaultFor field sources next))
    (hself : ∀ other ∈ fields, other.key = field.key → other = field)
    (hreads : ∀ other ∈ fields, other.connectionOwned = true →
      other.key ∉ readKeys field sources) :
    fields.foldl (resetOwned sources) next field.key = next field.key := by
  induction fields generalizing next with
  | nil => rfl
  | cons other fields ih =>
      have hrest := fun next hnext => @ih next hnext
        (fun rest hin => hself rest (List.mem_cons_of_mem _ hin))
        (fun rest hin => hreads rest (List.mem_cons_of_mem _ hin))
      rw [List.foldl_cons, resetOwned]
      split_ifs with howned
      · by_cases hkey : other.key = field.key
        · obtain rfl := hself other List.mem_cons_self hkey
          rw [← hdefault, Function.update_eq_self]
          exact hrest next hdefault
        · have hfield : Function.update next other.key (some (defaultFor other sources next))
              field.key = next field.key := Function.update_of_ne (Ne.symm hkey) _ _
          rw [hrest _ ?_, hfield]
          rw [hfield, hdefault]
          refine congrArg some (defaultFor_congr fun read hread => ?_)
          refine (Function.update_of_ne ?_ _ _).symm
          rintro rfl
          exact hreads other List.mem_cons_self howned hread
      · exact hrest next hdefault

/-- An owned field is reset to its default, if each owned field that reads stands before it or
is written back as it was. -/
theorem resetOwned_settles {form : ParsedRuntimeFormV2} {next : RuntimeFormV2Values}
    {field : RuntimeFormV2Field} (hfield : field ∈ form.fields)
    (howned : field.connectionOwned = true)
    (hreads : ∀ other ∈ form.fields, other.connectionOwned = true →
      other.key ∈ readKeys field sources → Before form.fields other field ∨
        ∀ fields ⊆ form.fields, fields.foldl (resetOwned sources) next other.key =
          next other.key) :
    form.fields.foldl (resetOwned sources) next field.key =
      some (defaultFor field sources (form.fields.foldl (resetOwned sources) next)) := by
  obtain ⟨before, after, hsplit⟩ := List.append_of_mem hfield
  have hnodup := form.keys_nodup
  have hbefore_form : before ⊆ form.fields := by
    rw [hsplit]
    exact List.subset_append_left before (field :: after)
  have hreads_eq : ∀ read ∈ readKeys field sources,
      before.foldl (resetOwned sources) next read =
        form.fields.foldl (resetOwned sources) next read := by
    intro read hread
    by_cases hsteady : ∀ fields ⊆ form.fields,
        fields.foldl (resetOwned sources) next read = next read
    · rw [hsteady before hbefore_form, hsteady form.fields (List.Subset.refl _)]
    · rw [hsplit, List.foldl_append]
      refine (foldl_resetOwned_of_notMem _ _ ?_).symm
      rintro other hother hother_owned rfl
      rw [hsplit] at hnodup hreads hsteady
      have hbefore := ((hreads other (List.mem_append_right _ hother) hother_owned
        hread).resolve_right hsteady).mem_of_split hnodup
      exact key_notMem_rest hnodup hbefore (List.mem_map_of_mem hother)
  rw [hsplit] at hnodup
  have hafter : field.key ∉ after.map RuntimeFormV2Field.key := by
    rw [List.map_append, List.map_cons, List.nodup_append, List.nodup_cons] at hnodup
    exact hnodup.2.1.1
  have hlater : ∀ other ∈ after, other.connectionOwned = true → other.key ≠ field.key := by
    intro other hother _ hkey
    exact hafter (List.mem_map.mpr ⟨other, hother, hkey⟩)
  rw [← defaultFor_congr hreads_eq, hsplit, List.foldl_append, List.foldl_cons,
    foldl_resetOwned_of_notMem after _ hlater, resetOwned, if_pos howned]
  exact Function.update_self _ _ _

end Reset

/-! ## Both loops -/

section Change

variable (form : ParsedRuntimeFormV2) (sources : RuntimeFormV2Sources)
  (values : RuntimeFormV2Values) (key : JsString) (value : RuntimeFormV2Value)

/-- No field but the changed one keeps its value when its parent's value changes. -/
def CascadesCompletely : Prop :=
  ∀ field ∈ form.fields, field.key ≠ key → ∀ parent, field.parent = some parent →
    applyRuntimeFormV2Change form sources values key value parent ≠ values parent →
      applyRuntimeFormV2Change form sources values key value field.key =
        some (defaultFor field sources (applyRuntimeFormV2Change form sources values key value))

def Owned (parent : JsString) : Prop :=
  ∃ field ∈ form.fields, field.key = parent ∧ field.connectionOwned = true

/-- An owned field the reset leaves as it is: its default reads no owned field, and the first
loop settled it or reaches neither it, at its default, nor what that reads. -/
structure Spared (field : RuntimeFormV2Field) : Prop where
  other : field.key ≠ key
  reads : ∀ read ∈ readKeys field sources, ¬ Owned form read
  settled : Follows form key field.key ∨
    values field.key = some (defaultFor field sources values) ∧
      ∀ read ∈ readKeys field sources, read ≠ key ∧ ¬ Follows form key read

def Moves (parent : JsString) : Prop :=
  ∃ field ∈ form.fields, field.key = parent ∧ field.connectionOwned = true ∧
    ¬ Spared form sources values key field

/-- The inputs on which neither loop leaves a follower behind. -/
structure NothingLeftBehind : Prop where
  /-- A change of the field with the empty key resets nothing that is derived from it. -/
  named : ∀ field ∈ form.fields, field.key ≠ key → field.parent = some [] →
    key ≠ [] ∧ ¬ Follows form key []
  /-- What a follower's default reads comes before it in the dependency order. -/
  ordered : ∀ field ∈ form.fields, field.key ≠ key → Follows form key field.key →
    ∀ other ∈ form.fields, other.key ∈ readKeys field sources → Follows form key other.key →
      Before (fieldsInOrder form.fields) other field
  /-- Where the connection fields are reset, a follower of one that moves is owned too. -/
  owned : connectionSwitches form sources values key value = true →
    ∀ field ∈ form.fields, field.key ≠ key → ∀ parent, field.parent = some parent →
      Moves form sources values key parent → field.connectionOwned = true
  /-- And whatever moving owned field a follower's default reads is reset before it. -/
  reset : connectionSwitches form sources values key value = true →
    ∀ field ∈ form.fields, field.key ≠ key → ∀ parent, field.parent = some parent →
      (Follows form key field.key ∨ Moves form sources values key parent) →
        ∀ other ∈ form.fields, other.connectionOwned = true → other.key ∈ readKeys field sources →
          Spared form sources values key other ∨
            (field.connectionOwned = true ∧ Before form.fields other field)

variable {form sources values key value}

theorem Spared.default_of_ordered (hacyclic : form.AcyclicDependencies)
    (h : NothingLeftBehind form sources values key value) {field : RuntimeFormV2Field}
    (hfield : field ∈ form.fields) (hspared : Spared form sources values key field) :
    (cascadeChange form sources values key value).next field.key =
      some (defaultFor field sources (cascadeChange form sources values key value).next) := by
  by_cases hfollows : Follows form key field.key
  · obtain ⟨parent, hparent, hempty, child, hchild, hkey, hchild_parent⟩ :
        ∃ parent, parent ∈ (cascadeChange form sources values key value).changed ∧
          parent ≠ [] ∧ ∃ child ∈ form.fields, child.key = field.key ∧
            child.parent = some parent := by
      cases hfollows with
      | single hstep =>
          exact ⟨key, mem_changed_foldl_step _ (Finset.mem_singleton_self key), hstep⟩
      | tail hreach hstep => exact ⟨_, mem_changed_of_follows hacyclic hreach, hstep⟩
    obtain rfl := form.eq_of_key hchild hfield hkey
    exact cascadeChange_settles hacyclic hfield hchild_parent hempty hparent
      (h.ordered child hfield hspared.other hfollows)
  · obtain ⟨hdefault, hreads⟩ := hspared.settled.resolve_left hfollows
    have hsame : ∀ other, other ≠ key → ¬ Follows form key other →
        (cascadeChange form sources values key value).next other = values other := by
      intro other hne hreach
      refine cascadeChange_unchanged fun hin => ?_
      rcases (cascadeChange_reached hacyclic).changed other hin with heq | hother
      · exact hne heq
      · exact hreach hother
    rw [hsame field.key hspared.other hfollows, hdefault]
    exact congrArg some (defaultFor_congr fun read hread =>
      (hsame read (hreads read hread).1 (hreads read hread).2).symm)

theorem Spared.foldl_resetOwned (hacyclic : form.AcyclicDependencies)
    (h : NothingLeftBehind form sources values key value) {field : RuntimeFormV2Field}
    (hfield : field ∈ form.fields) (hspared : Spared form sources values key field)
    {fields : List RuntimeFormV2Field} (hfields : fields ⊆ form.fields) :
    fields.foldl (resetOwned sources) (cascadeChange form sources values key value).next
        field.key =
      (cascadeChange form sources values key value).next field.key := by
  refine foldl_resetOwned_of_default fields (hspared.default_of_ordered hacyclic h hfield) ?_ ?_
  · exact fun other hother hkey => form.eq_of_key (hfields hother) hfield hkey
  · exact fun other hother howned hread =>
      hspared.reads other.key hread ⟨other, hfields hother, rfl, howned⟩

theorem applyRuntimeFormV2Change_of_not_moves (hacyclic : form.AcyclicDependencies)
    (h : NothingLeftBehind form sources values key value) {other : JsString}
    (hother : ¬ Moves form sources values key other) :
    applyRuntimeFormV2Change form sources values key value other =
      (cascadeChange form sources values key value).next other := by
  rw [applyRuntimeFormV2Change]
  split_ifs
  · by_cases howned : Owned form other
    · obtain ⟨field, hfield, rfl, howned⟩ := howned
      have hspared : Spared form sources values key field :=
        by_contra fun hnot => hother ⟨field, hfield, rfl, howned, hnot⟩
      exact hspared.foldl_resetOwned hacyclic h hfield (List.Subset.refl _)
    · exact foldl_resetOwned_of_notMem _ _ fun field hfield hin hkey =>
        howned ⟨field, hfield, hkey, hin⟩
  · rfl

end Change

/-! ### A region left behind by the reset of its gateway -/

def gatewayDefinition : JsValue :=
  .object [(js "protocolVersion", .number (.ofNat 2)),
    (js "dataSchema", .object [(js "properties", .object
      [(js "provider", .object
          [(js "type", .string (js "string")), (js "x-optionSource", .string (js "provider"))]),
        (js "gateway", .object
          [(js "type", .string (js "string")), (js "x-connectionOwned", .boolean true)]),
        (js "region", .object
          [(js "type", .string (js "string")), (js "x-optionSource", .string (js "region"))])])]),
    (js "optionSources", .object
      [(js "provider", .object
          [(js "kind", .string (js "select")), (js "pointer", .string (js "/provider"))]),
        (js "region", .object
          [(js "kind", .string (js "dependent_select")), (js "pointer", .string (js "/region")),
            (js "dependsOn", .string (js "/gateway"))])])]

def gatewayForm : ParsedRuntimeFormV2 := (parseRuntimeFormV2 gatewayDefinition).get (by decide)

def gatewaySources : RuntimeFormV2Sources :=
  (InsertionMap.empty.set (js "provider")
    { pointer := js "/provider"
      dependsOn := none
      options := some
        [{ value := js "direct", properties := [] },
          { value := js "connection:a", properties := [(js "connectionId", .string (js "a"))] }]
      defaultValue := some (js "direct")
      optionsByValue := fun _ => none
      defaultValueByValue := fun _ => none
      customValueAllowedByValue := fun _ => none }).set (js "region")
    { pointer := js "/region"
      dependsOn := some (js "/gateway")
      options := none
      defaultValue := none
      optionsByValue := fun _ => none
      defaultValueByValue := fun gateway => if gateway = js "eu" then some (js "paris") else none
      customValueAllowedByValue := fun _ => none }

def gatewayValues : RuntimeFormV2Values := fun key =>
  if key = js "provider" then some (.text (js "direct"))
  else if key = js "gateway" then some (.text (js "eu"))
  else if key = js "region" then some (.text (js "paris"))
  else none

theorem gatewayForm_acyclic : gatewayForm.AcyclicDependencies := by
  refine acyclic_of_rank (fun field => if field.key = js "region" then 1 else 0)
    (fun _ _ _ hparent => (parentField_eq_some hparent).1) ?_
  decide

def fieldSchema (source : List (JsString × JsValue)) (connectionOwned : Bool) : JsValue :=
  .object ([(js "type", .string (js "string")),
    (js "x-connectionOwned", .boolean connectionOwned)] ++ source)

def dependentField (key : JsString) (connectionOwned : Bool) : JsString × JsValue :=
  (key, fieldSchema [(js "x-optionSource", .string key)] connectionOwned)

def dependentRef (key parent : JsString) : JsString × JsValue :=
  (key, .object [(js "kind", .string (js "dependent_select")),
    (js "pointer", .string (js "/" ++ key)), (js "dependsOn", .string (js "/" ++ parent))])

/-- An owned region behind its owned gateway, a rack in a zone of the provider, a plan of an
account. -/
def connectionDefinition : JsValue :=
  .object [(js "protocolVersion", .number (.ofNat 2)),
    (js "dataSchema", .object [(js "properties", .object
      [dependentField (js "provider") false, (js "gateway", fieldSchema [] true),
        dependentField (js "region") true, dependentField (js "zone") true,
        dependentField (js "rack") false, (js "account", fieldSchema [] true),
        dependentField (js "plan") false])]),
    (js "optionSources", .object
      [(js "provider", .object
          [(js "kind", .string (js "select")), (js "pointer", .string (js "/provider"))]),
        dependentRef (js "region") (js "gateway"), dependentRef (js "zone") (js "provider"),
        dependentRef (js "rack") (js "zone"), dependentRef (js "plan") (js "account")])]

def connectionForm : ParsedRuntimeFormV2 :=
  (parseRuntimeFormV2 connectionDefinition).get (by decide +kernel)

def dependentSource (key parent whenParent default : JsString) : RuntimeFormV2OptionSource :=
  { pointer := js "/" ++ key
    dependsOn := some (js "/" ++ parent)
    options := none
    defaultValue := none
    optionsByValue := fun _ => none
    defaultValueByValue := fun value => if value = whenParent then some default else none
    customValueAllowedByValue := fun _ => none }

def connectionSources : RuntimeFormV2Sources :=
  (((gatewaySources.set (js "region")
    (dependentSource (js "region") (js "gateway") (js "eu") (js "paris"))).set (js "zone")
      (dependentSource (js "zone") (js "provider") (js "connection:a") (js "z1"))).set (js "rack")
        (dependentSource (js "rack") (js "zone") (js "z1") (js "r1"))).set (js "plan")
          (dependentSource (js "plan") (js "account") (js "own") (js "free"))

def connectionValues : RuntimeFormV2Values := fun key =>
  if key = js "zone" then some (.text (js "z0"))
  else if key = js "rack" then some (.text (js "r0"))
  else if key = js "account" then some (.text [])
  else if key = js "plan" then some (.text (js "free"))
  else gatewayValues key

theorem connectionForm_acyclic : connectionForm.AcyclicDependencies := by
  refine acyclic_of_rank (fun field => if field.key = js "rack" then 2
    else if field.parent = none then 0 else 1)
    (fun _ _ _ hparent => (parentField_eq_some hparent).1) ?_
  decide +kernel

/-- The zone is settled by the first loop, the account stays empty. -/
theorem connectionForm_spared {field : RuntimeFormV2Field} (hfield : field ∈ connectionForm.fields)
    (h : field.key = js "zone" ∨ field.key = js "account") :
    Spared connectionForm connectionSources connectionValues (js "provider") field := by
  have hreads : ∀ field ∈ connectionForm.fields,
      (field.key = js "zone" ∨ field.key = js "account") →
        ∀ other ∈ connectionForm.fields, other.connectionOwned = true →
          other.key ∉ readKeys field connectionSources := by decide +kernel
  have hzone : ∀ field ∈ connectionForm.fields, field.key = js "zone" →
      field.parent = some (js "provider") := by decide +kernel
  have haccount : ∀ field ∈ connectionForm.fields, field.key = js "account" →
      connectionValues field.key = some (defaultFor field connectionSources connectionValues) ∧
        readKeys field connectionSources = [] := by decide +kernel
  refine ⟨?_, ?_, ?_⟩
  · rcases h with hkey | hkey <;> rw [hkey] <;> decide
  · rintro read hread ⟨other, hother, rfl, howned⟩
    exact hreads field hfield h other hother howned hread
  · rcases h with hkey | hkey
    · exact Or.inl (.single ⟨by decide, field, hfield, rfl, hzone field hfield hkey⟩)
    · obtain ⟨hdefault, hnone⟩ := haccount field hfield hkey
      refine Or.inr ⟨hdefault, ?_⟩
      rw [hnone]
      exact fun read hread => absurd hread List.not_mem_nil

end Raft.RuntimeForm
