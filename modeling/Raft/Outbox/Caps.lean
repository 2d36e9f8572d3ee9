import Mathlib.Data.Finset.Card
import Mathlib.Data.List.Perm.Subperm
import Raft.Outbox.Delivery

/-!
# The caps of the queue

Every append keeps the caps on normal entries, gaps, instances with gaps and
cross entries, and no two markers share an id as long as fresh ids are fresh.
-/

namespace Raft.Outbox

open Raft.Foundation AgentOutboxState

universe u

variable {φ : Type u} {crossId gapId : JsString} {state : AgentOutboxState φ}

def gapInstances (shapes : List Shape) : List JsString := shapes.filterMap Shape.gapInstance

def gapIds (shapes : List Shape) : List JsString := shapes.filterMap Shape.gapId

structure WithinCaps (used : List JsString) (shapes : List Shape) : Prop where
  normals : shapes.countP Shape.isNormal ≤ OUTBOX_NORMAL_CAP
  gaps : ∀ daemonInstanceId,
    (gapInstances shapes).count daemonInstanceId ≤ OUTBOX_GAPS_PER_INSTANCE_MAX
  instances : (gapInstances shapes).toFinset.card ≤ OUTBOX_GAP_INSTANCES_MAX
  crosses : shapes.countP Shape.isCross ≤ OUTBOX_CROSS_MAX
  distinct : (gapIds shapes).Nodup
  used : ∀ id ∈ gapIds shapes, id ∈ used

theorem WithinCaps.subperm {used : List JsString} {kept shapes : List Shape}
    (h : WithinCaps used shapes) (hkept : kept.Subperm shapes) : WithinCaps used kept := by
  obtain ⟨between, hperm, hsublist⟩ := id hkept
  have hinstances : (gapInstances kept).Subperm (gapInstances shapes) :=
    ⟨_, hperm.filterMap _, hsublist.filterMap _⟩
  have hids : (gapIds kept).Subperm (gapIds shapes) :=
    ⟨_, hperm.filterMap _, hsublist.filterMap _⟩
  refine ⟨(hkept.countP_le _).trans h.normals, fun id => (hinstances.count_le _).trans (h.gaps id),
    ?_, (hkept.countP_le _).trans h.crosses, ?_, fun id hid => h.used id (hids.subset hid)⟩
  · refine (Finset.card_le_card fun id hid => ?_).trans h.instances
    exact List.mem_toFinset.mpr (hinstances.subset (List.mem_toFinset.mp hid))
  · exact (hperm.filterMap _).nodup_iff.mp (h.distinct.sublist (hsublist.filterMap _))

theorem WithinCaps.used_mono {used more : List JsString} {shapes : List Shape}
    (h : WithinCaps used shapes) (hmore : used ⊆ more) : WithinCaps more shapes :=
  { h with used := fun id hid => hmore (h.used id hid) }

theorem WithinCaps.consGap {used : List JsString} {shapes : List Shape} {gap : GapEntry}
    (h : WithinCaps used shapes) (hid : gap.gapId = gapId) (hfresh : gapId ∉ used)
    (hgaps : (gapInstances shapes).count gap.daemonInstanceId < OUTBOX_GAPS_PER_INSTANCE_MAX)
    (hinstances : gap.daemonInstanceId ∈ gapInstances shapes ∨
      (gapInstances shapes).toFinset.card < OUTBOX_GAP_INSTANCES_MAX) :
    WithinCaps (gapId :: used) (shape (.gap gap : OutboxEntry φ) :: shapes) := by
  have heq : gapInstances (shape (.gap gap : OutboxEntry φ) :: shapes) =
      gap.daemonInstanceId :: gapInstances shapes := rfl
  have hids : gapIds (shape (.gap gap : OutboxEntry φ) :: shapes) = gapId :: gapIds shapes :=
    hid ▸ rfl
  refine ⟨?_, fun id => ?_, ?_, ?_, ?_, fun id hid => ?_⟩
  · rw [List.countP_cons_of_neg (by simp [shape, OutboxEntry.isNormal, OutboxEntry.crossOf])]
    exact h.normals
  · rw [heq, List.count_cons]
    split
    · next hsame =>
        obtain rfl : gap.daemonInstanceId = id := by simpa using hsame
        exact hgaps
    · exact h.gaps id
  · rw [heq, List.toFinset_cons]
    rcases hinstances with hmem | hlt
    · rw [Finset.insert_eq_of_mem (List.mem_toFinset.mpr hmem)]
      exact h.instances
    · exact (Finset.card_insert_le _ _).trans hlt
  · rw [List.countP_cons_of_neg (by simp [shape, OutboxEntry.isNormal, OutboxEntry.crossOf])]
    exact h.crosses
  · rw [hids, List.nodup_cons]
    exact ⟨fun hmem => hfresh (h.used _ hmem), h.distinct⟩
  · rw [hids] at hid
    exact List.cons_subset_cons _ h.used hid

theorem WithinCaps.consCross {used : List JsString} {shapes : List Shape} {cross : CrossEntry}
    (h : WithinCaps used shapes) (hid : cross.gapId = crossId) (hfresh : crossId ∉ used)
    (hcrosses : shapes.countP Shape.isCross < OUTBOX_CROSS_MAX) :
    WithinCaps (crossId :: used) (shape (.cross cross : OutboxEntry φ) :: shapes) := by
  have hids : gapIds (shape (.cross cross : OutboxEntry φ) :: shapes) =
      crossId :: gapIds shapes := hid ▸ rfl
  refine ⟨?_, h.gaps, h.instances, ?_, ?_, fun id hid => ?_⟩
  · rw [List.countP_cons_of_neg (by simp [shape, OutboxEntry.isNormal, OutboxEntry.crossOf])]
    exact h.normals
  · rw [List.countP_cons_of_pos rfl]
    exact hcrosses
  · rw [hids, List.nodup_cons]
    exact ⟨fun hmem => hfresh (h.used _ hmem), h.distinct⟩
  · rw [hids] at hid
    exact List.cons_subset_cons _ h.used hid

theorem WithinCaps.consNormal {used : List JsString} {shapes : List Shape}
    {entry : NormalEntry φ} (h : WithinCaps used shapes)
    (hroom : shapes.countP Shape.isNormal < OUTBOX_NORMAL_CAP) :
    WithinCaps used (shape (.normal entry) :: shapes) := by
  refine ⟨?_, h.gaps, h.instances, ?_, h.distinct, h.used⟩
  · rw [List.countP_cons_of_pos rfl]
    exact hroom
  · rw [List.countP_cons_of_neg (by simp [shape, OutboxEntry.isNormal, OutboxEntry.crossOf])]
    exact h.crosses

/-! ## What the queue counts -/

theorem normalCount_eq_countP :
    state.normalCount = (shapes state.entries).countP Shape.isNormal := by
  rw [normalCount, shapes, List.countP_map]
  rfl

theorem length_gapsOf (daemonInstanceId : JsString) : (state.gapsOf daemonInstanceId).length =
    (gapInstances (shapes state.entries)).count daemonInstanceId := by
  rw [gapsOf]
  induction state.entries with
  | nil => rfl
  | cons entry rest ih =>
      cases entry with
      | normal entry => exact ih
      | cross cross => exact ih
      | gap gap =>
          have heq : gapInstances (shapes (.gap gap :: rest : List (OutboxEntry φ))) =
              gap.daemonInstanceId :: gapInstances (shapes rest) := rfl
          rw [heq, List.count_cons, ← ih, List.filterMap_cons, OutboxEntry.gapOf]
          by_cases hsame : gap.daemonInstanceId = daemonInstanceId
          · simp [hsame]
          · simp [hsame]

theorem toFinset_foldl_insert (ids seen : List JsString) :
    (ids.foldl (fun seen id => if id ∈ seen then seen else seen ++ [id]) seen).toFinset =
      seen.toFinset ∪ ids.toFinset := by
  ext id
  rw [List.mem_toFinset, mem_foldl_insert, Finset.mem_union, List.mem_toFinset, List.mem_toFinset]

theorem nodup_foldl_insert (ids : List JsString) {seen : List JsString} (hseen : seen.Nodup) :
    (ids.foldl (fun seen id => if id ∈ seen then seen else seen ++ [id]) seen).Nodup := by
  induction ids generalizing seen with
  | nil => exact hseen
  | cons id ids ih =>
      refine ih ?_
      dsimp only
      split
      · exact hseen
      · next hnew =>
          rw [List.nodup_append]
          exact ⟨hseen, List.nodup_singleton id, fun first hfirst second hsecond heq =>
            hnew (List.mem_singleton.mp hsecond ▸ heq ▸ hfirst)⟩

theorem length_instancesWithGaps : state.instancesWithGaps.length =
    (gapInstances (shapes state.entries)).toFinset.card := by
  have heq : gapInstances (shapes state.entries) =
      state.entries.filterMap OutboxEntry.gapInstance := by
    rw [gapInstances, shapes, List.filterMap_map]
    rfl
  rw [instancesWithGaps, ← List.toFinset_card_of_nodup (nodup_foldl_insert _ List.nodup_nil),
    toFinset_foldl_insert, heq, List.toFinset_nil, Finset.empty_union]

/-! ## Appending within the caps -/

inductive Reshaped (crossId gapId : JsString) (state : AgentOutboxState φ)
    (daemonInstanceId : JsString) (rest : List Shape) : List Shape → Prop
  | counted {next : List Shape} (hperm : next.Perm rest) :
      Reshaped crossId gapId state daemonInstanceId rest next
  | gap {next : List Shape} {gap : GapEntry} (hid : gap.gapId = gapId)
      (hinstance : gap.daemonInstanceId = daemonInstanceId)
      (hperm : next.Perm (shape (.gap gap : OutboxEntry φ) :: rest))
      (hgaps : (state.gapsOf daemonInstanceId).length < OUTBOX_GAPS_PER_INSTANCE_MAX)
      (hinstances : (state.gapsOf daemonInstanceId).length > 0 ∨
        state.instancesWithGaps.length < OUTBOX_GAP_INSTANCES_MAX) :
      Reshaped crossId gapId state daemonInstanceId rest next
  | cross {next : List Shape} {cross : CrossEntry} (hid : cross.gapId = crossId)
      (hperm : next.Perm (shape (.cross cross : OutboxEntry φ) :: rest))
      (hclosed : state.openCross.isSome = false)
      (hcrosses : state.crossEntries.length < OUTBOX_CROSS_MAX) :
      Reshaped crossId gapId state daemonInstanceId rest next

theorem Consume.reshaped {entry : NormalEntry φ} {next : AgentOutboxState φ}
    (h : Consume crossId gapId state entry next) :
    ∃ rest, (shapes state.entries).Perm (shape (.normal entry) :: rest) ∧
      Reshaped crossId gapId state entry.daemonInstanceId rest (shapes next.entries) := by
  have hsplit : ∀ {pre post : List (OutboxEntry φ)}, state.waiting = pre ++ .normal entry :: post →
      (shapes state.entries).Perm
        (shape (.normal entry) :: (shapes state.flight ++ shapes (pre ++ post))) := by
    intro pre post hwaiting
    rw [shapes_entries, hwaiting, shapes_append, shapes_append, shapes_cons, ← List.append_assoc,
      ← List.append_assoc]
    exact List.perm_middle
  have hmarker : ∀ {marker : OutboxEntry φ} {pre post : List (OutboxEntry φ)},
      (shapes (state.withWaiting (pre ++ marker :: post)).entries).Perm
        (shape marker :: (shapes state.flight ++ shapes (pre ++ post))) := by
    intro marker pre post
    rw [shapes_withWaiting, shapes_append, shapes_append, shapes_cons, ← List.append_assoc,
      ← List.append_assoc]
    exact List.perm_middle
  cases h with
  | countInGap hwaiting hothers hepoch hgap hopen =>
      refine ⟨_, hsplit hwaiting, .counted ?_⟩
      rw [hothers, shapes_withWaiting]
      simp
  | newGap hwaiting hepoch hgaps hinstances =>
      exact ⟨_, hsplit hwaiting, .gap rfl rfl hmarker hgaps hinstances⟩
  | countInCross hwaiting hothers hepoch hopen =>
      refine ⟨_, hsplit hwaiting, .counted ?_⟩
      rw [hothers, shapes_withWaiting]
      simp
  | newCross hwaiting hepoch hclosed hcross =>
      exact ⟨_, hsplit hwaiting, .cross rfl hmarker hclosed hcross⟩
  | dropCompleted hwaiting hkind =>
      refine ⟨_, hsplit hwaiting, .counted ?_⟩
      rw [shapes_withWaiting]

theorem Consume.withinCaps {entry : NormalEntry φ} {next : AgentOutboxState φ}
    {used : List JsString} (hconsume : Consume crossId gapId state entry next)
    (h : WithinCaps used (shapes state.entries)) (hgapId : gapId ∉ used)
    (hcrossId : state.openCross.isSome = false → crossId ∉ used) :
    WithinCaps (crossId :: gapId :: used) (shapes next.entries) ∧
      (shapes next.entries).countP Shape.isNormal < OUTBOX_NORMAL_CAP := by
  obtain ⟨rest, hbefore, hreshaped⟩ := hconsume.reshaped
  have hrest : WithinCaps used rest :=
    h.subperm ((List.sublist_cons_self _ _).subperm.trans hbefore.symm.subperm)
  have hroom : rest.countP Shape.isNormal < OUTBOX_NORMAL_CAP := by
    have hnormals := h.normals
    rw [hbefore.countP_eq, List.countP_cons_of_pos rfl] at hnormals
    exact hnormals
  cases hreshaped with
  | counted hperm =>
      exact ⟨(hrest.used_mono (by simp)).subperm hperm.subperm, by rwa [hperm.countP_eq]⟩
  | @gap gap hid hinstance hperm hgaps hinstances =>
      have hsame : (gapInstances (shapes state.entries)).Perm (gapInstances rest) :=
        hbefore.filterMap _
      rw [length_gapsOf, hsame.count_eq, ← hinstance] at hgaps
      rw [length_gapsOf, hsame.count_eq, length_instancesWithGaps,
        List.toFinset_eq_of_perm _ _ hsame, gt_iff_lt, List.count_pos_iff, ← hinstance]
        at hinstances
      have hconsed : WithinCaps (gapId :: used) (shape (.gap gap : OutboxEntry φ) :: rest) :=
        hrest.consGap hid hgapId hgaps hinstances
      refine ⟨(hconsed.used_mono (by simp)).subperm hperm.subperm, ?_⟩
      rw [hperm.countP_eq, List.countP_cons_of_neg (by simp [shape, OutboxEntry.isNormal])]
      exact hroom
  | @cross cross hid hperm hclosed hcrosses =>
      have hcount : rest.countP Shape.isCross < OUTBOX_CROSS_MAX := by
        rw [crossEntries, length_filterMap_crossOf, hbefore.countP_eq,
          List.countP_cons_of_neg (by simp [shape, OutboxEntry.crossOf])] at hcrosses
        exact hcrosses
      have hconsed : WithinCaps (crossId :: used) (shape (.cross cross : OutboxEntry φ) :: rest) :=
        hrest.consCross hid (hcrossId hclosed) hcount
      refine ⟨(hconsed.used_mono (by simp)).subperm hperm.subperm, ?_⟩
      rw [hperm.countP_eq, List.countP_cons_of_neg (by simp [shape, OutboxEntry.isNormal])]
      exact hroom

theorem Merge.withinCaps {next : AgentOutboxState φ} {used : List JsString}
    (hmerge : Merge crossId state next) (h : WithinCaps used (shapes state.entries))
    (hcrossId : crossId ∉ used) : WithinCaps (crossId :: used) (shapes next.entries) := by
  cases hmerge with
  | intoCross hwaiting hopen hsome hgaps =>
      refine (h.used_mono (by simp)).subperm (List.Sublist.subperm ?_)
      rw [shapes_withWaiting, shapes_entries, hwaiting]
      refine ((List.filter_sublist.map _).append_left _).trans ?_
      change (_ ++ shapes _).Sublist _
      simp
  | @intoNewCross daemonInstanceId before after hwaiting hepoch hsome hcross hgaps =>
      rw [crossEntries, length_filterMap_crossOf] at hcross
      have hconsed : WithinCaps (crossId :: used)
          (shape (.cross ((state.newCross crossId).absorb daemonInstanceId
            (totalCounts (state.gapsOf daemonInstanceId))) : OutboxEntry φ) ::
              shapes state.entries) := h.consCross rfl hcrossId hcross
      refine hconsed.subperm ?_
      rw [shapes_withWaiting, shapes_entries, hwaiting]
      refine ((List.filter_sublist.map _).append_left _).subperm.trans ?_
      change (shapes state.flight ++ shapes (before ++ _ :: after)).Subperm _
      rw [shapes_append, shapes_append, shapes_cons, ← List.append_assoc, ← List.append_assoc]
      exact List.perm_middle.subperm

theorem Appended.withinCaps {entry : NormalEntry φ} {next : AgentOutboxState φ}
    {result : AppendResult} {used : List JsString}
    (happended : Appended crossId gapId state entry next result)
    (h : WithinCaps used (shapes state.entries)) (hcrossId : crossId ∉ used)
    (hgapId : gapId ∉ used) (hdistinct : gapId ≠ crossId) :
    WithinCaps (crossId :: gapId :: used) (shapes next.entries) := by
  have hpushed : ∀ {used : List JsString} {state : AgentOutboxState φ} (entry : NormalEntry φ),
      WithinCaps used (shapes state.entries) →
      (shapes state.entries).countP Shape.isNormal < OUTBOX_NORMAL_CAP →
      WithinCaps used (shapes (state.push entry).entries) := by
    intro used state entry h hroom
    have hcons : WithinCaps used (shape (.normal entry) :: shapes state.entries) :=
      h.consNormal hroom
    refine hcons.subperm ?_
    rw [push, shapes_append]
    exact (List.perm_append_singleton _ _).subperm
  cases happended with
  | appended hroom =>
      rw [normalCount_eq_countP] at hroom
      exact hpushed entry (h.used_mono (by simp)) hroom
  | ignored hkind => exact h.used_mono (by simp)
  | no_room => exact h.used_mono (by simp)
  | madeRoom hprepared hconsumed hresult =>
      rcases hprepared with rfl | hmerge
      · obtain ⟨hcaps, hroom⟩ := hconsumed.withinCaps h hgapId fun _ => hcrossId
        exact hpushed entry hcaps hroom
      · have hmerged := hmerge.withinCaps h hcrossId
        have hopen := hmerge.openCross
        obtain ⟨hcaps, hroom⟩ := hconsumed.withinCaps hmerged (by simp [hgapId, hdistinct])
          fun hclosed => by simp [hopen] at hclosed
        exact hpushed entry (hcaps.used_mono (by simp)) hroom

end Raft.Outbox
