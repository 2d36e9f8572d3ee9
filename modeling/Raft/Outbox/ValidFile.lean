import Raft.Outbox.Admission
import Raft.Outbox.QueueFile

/-!
# Every reachable queue is a valid file

Appends, adoptions, sends and acks keep what the check of the file asks for, so
a written queue is read back as it was.
-/

namespace Raft.Outbox

open Raft.Foundation JsValue AgentOutboxState

variable {agentId crossId gapId : JsString} {state : AgentOutboxState OutboxFrame}

/-! ## Entries that fit -/

def Held (agentId : JsString) (entry : OutboxEntry OutboxFrame) : Prop :=
  0 ≤ entry.takeoverEpoch ∧ EntryFits agentId entry

theorem held_sealed {entry : OutboxEntry OutboxFrame} :
    Held agentId entry.sealed ↔ Held agentId entry := by
  rw [Held, Held, takeoverEpoch_sealed]
  refine and_congr_right fun _ => ?_
  cases entry with
  | normal entry => exact Iff.rfl
  | gap gap => exact ⟨fun h => { h with }, fun h => { h with }⟩
  | cross cross => exact ⟨fun h => { h with }, fun h => { h with }⟩

theorem held_map_sealed {entries : List (OutboxEntry OutboxFrame)} :
    (∀ entry ∈ entries.map OutboxEntry.sealed, Held agentId entry) ↔
      ∀ entry ∈ entries, Held agentId entry := by
  simp [held_sealed]

theorem GapEntry.Fits.count {gap : GapEntry} (h : gap.Fits) {entry : NormalEntry OutboxFrame}
    (hseq : entry.clientSeq ≤ maxSafeInteger) : (gap.count entry).Fits where
  gapId := h.gapId
  daemonInstanceId := h.daemonInstanceId
  range := (min_le_right _ _).trans (le_max_right _ _)
  toSeq := max_le h.toSeq hseq

theorem CrossEntry.Fits.absorb {cross : CrossEntry} (h : cross.Fits) {daemonInstanceId : JsString}
    (hinstance : daemonInstanceId ≠ []) (counts : GapCounts) :
    (cross.absorb daemonInstanceId counts).Fits := by
  rw [CrossEntry.absorb]
  split
  · exact ⟨h.gapId, h.instances, h.named, h.distinct⟩
  · next hnew =>
      refine ⟨h.gapId, by simp, ?_, ?_⟩
      · simpa [h.named] using hinstance.symm
      · rw [List.nodup_append]
        exact ⟨h.distinct, List.nodup_singleton _, fun first hfirst second hsecond heq =>
          hnew (List.mem_singleton.mp hsecond ▸ heq ▸ hfirst)⟩

theorem fits_newCross_absorb (hcrossId : crossId ≠ []) {daemonInstanceId : JsString}
    (hinstance : daemonInstanceId ≠ []) (counts : GapCounts) :
    ((state.newCross crossId).absorb daemonInstanceId counts).Fits where
  gapId := hcrossId
  instances := by simp [CrossEntry.absorb, newCross]
  named := by simpa [CrossEntry.absorb, newCross] using hinstance.symm
  distinct := by simp [CrossEntry.absorb, newCross]

theorem NormalEntry.Carries.daemonInstanceId_ne {entry : NormalEntry OutboxFrame}
    (h : entry.Carries agentId) : entry.daemonInstanceId ≠ [] :=
  h.daemonInstanceId ▸ h.wellFormed.daemonInstanceId

theorem NormalEntry.Carries.clientSeq_le {entry : NormalEntry OutboxFrame}
    (h : entry.Carries agentId) : entry.clientSeq ≤ maxSafeInteger :=
  h.clientSeq ▸ h.wellFormed.clientSeq

theorem held_withWaiting (h : ∀ entry ∈ state.entries, Held agentId entry)
    {entries : List (OutboxEntry OutboxFrame)} (hentries : ∀ entry ∈ entries, Held agentId entry) :
    ∀ entry ∈ (state.withWaiting entries).entries, Held agentId entry := by
  intro entry hentry
  rcases List.mem_append.mp hentry with hflight | hwaiting
  · refine h entry ?_
    rw [← flight_append_waiting]
    exact List.mem_append_left _ hflight
  · exact hentries entry hwaiting

theorem held_insert {before after : List (OutboxEntry OutboxFrame)}
    {entry : OutboxEntry OutboxFrame} (hothers : ∀ other ∈ before ++ after, Held agentId other)
    (hentry : Held agentId entry) : ∀ other ∈ before ++ entry :: after, Held agentId other := by
  intro other hother
  rcases List.mem_append.mp hother with hbefore | hafter
  · exact hothers other (List.mem_append_left _ hbefore)
  · rcases List.mem_cons.mp hafter with rfl | hafter
    · exact hentry
    · exact hothers other (List.mem_append_right _ hafter)

theorem held_remove {before after : List (OutboxEntry OutboxFrame)}
    {entry : OutboxEntry OutboxFrame} (h : ∀ other ∈ before ++ entry :: after, Held agentId other) :
    Held agentId entry ∧ ∀ other ∈ before ++ after, Held agentId other := by
  refine ⟨h entry (by simp), fun other hother => h other ?_⟩
  exact ((List.sublist_cons_self _ _).append_left _).subset hother

theorem Consume.held {entry : NormalEntry OutboxFrame} {next : AgentOutboxState OutboxFrame}
    (hconsume : Consume crossId gapId state entry next)
    (h : ∀ entry ∈ state.entries, Held agentId entry) (hepoch : 0 ≤ state.takeoverEpoch)
    (hcrossId : crossId ≠ []) (hgapId : gapId ≠ []) :
    ∀ entry ∈ next.entries, Held agentId entry := by
  have hwaits : ∀ entry ∈ state.waiting, Held agentId entry :=
    fun entry hentry => h entry (mem_entries_of_waiting hentry)
  cases hconsume with
  | countInGap hwaiting hothers hsame hgap hopen =>
      rw [hwaiting] at hwaits
      obtain ⟨⟨-, hcarries⟩, hrest⟩ := held_remove hwaits
      rw [hothers] at hrest
      obtain ⟨⟨hnonneg, hfits⟩, hkept⟩ := held_remove hrest
      exact held_withWaiting h (held_insert hkept
        ⟨hnonneg, GapEntry.Fits.count hfits hcarries.clientSeq_le⟩)
  | newGap hwaiting hsame hgaps hinstances =>
      rw [hwaiting] at hwaits
      obtain ⟨⟨-, hcarries⟩, hrest⟩ := held_remove hwaits
      refine held_withWaiting h (held_insert hrest ⟨hepoch, ?_⟩)
      exact ⟨hgapId, hcarries.daemonInstanceId_ne, by simp [GapEntry.count],
        max_le hcarries.clientSeq_le hcarries.clientSeq_le⟩
  | countInCross hwaiting hothers hsame hopen =>
      rw [hwaiting] at hwaits
      obtain ⟨⟨-, hcarries⟩, hrest⟩ := held_remove hwaits
      rw [hothers] at hrest
      obtain ⟨⟨hnonneg, hfits⟩, hkept⟩ := held_remove hrest
      exact held_withWaiting h (held_insert hkept
        ⟨hnonneg, CrossEntry.Fits.absorb hfits hcarries.daemonInstanceId_ne _⟩)
  | newCross hwaiting hsame hclosed hcross =>
      rw [hwaiting] at hwaits
      obtain ⟨⟨-, hcarries⟩, hrest⟩ := held_remove hwaits
      exact held_withWaiting h (held_insert hrest
        ⟨hepoch, fits_newCross_absorb hcrossId hcarries.daemonInstanceId_ne _⟩)
  | dropCompleted hwaiting hkind =>
      rw [hwaiting] at hwaits
      exact held_withWaiting h (held_remove hwaits).2

theorem Merge.held {next : AgentOutboxState OutboxFrame} (hmerge : Merge crossId state next)
    (h : ∀ entry ∈ state.entries, Held agentId entry) (hepoch : 0 ≤ state.takeoverEpoch)
    (hcrossId : crossId ≠ []) : ∀ entry ∈ next.entries, Held agentId entry := by
  have hwaits : ∀ entry ∈ state.waiting, Held agentId entry :=
    fun entry hentry => h entry (mem_entries_of_waiting hentry)
  have hinstance : ∀ {daemonInstanceId}, state.gapsOf daemonInstanceId ≠ [] →
      daemonInstanceId ≠ [] := by
    intro daemonInstanceId hsome
    obtain ⟨gap, hgap⟩ := List.exists_mem_of_ne_nil _ hsome
    obtain ⟨hmem, rfl⟩ := mem_gapsOf.mp hgap
    exact (h _ hmem).2.daemonInstanceId
  cases hmerge with
  | @intoCross daemonInstanceId before after cross hwaiting hopen hsome hgaps =>
      rw [hwaiting] at hwaits
      obtain ⟨⟨hnonneg, hfits⟩, hkept⟩ := held_remove hwaits
      have hmarker : ∀ other ∈ before ++ .cross (cross.absorb daemonInstanceId
          (totalCounts (state.gapsOf daemonInstanceId))) :: after, Held agentId other :=
        held_insert hkept ⟨hnonneg, CrossEntry.Fits.absorb hfits (hinstance hsome) _⟩
      exact held_withWaiting h fun entry hentry => hmarker entry (List.mem_of_mem_filter hentry)
  | @intoNewCross daemonInstanceId before after hwaiting hhead hsome hcross hgaps =>
      rw [hwaiting] at hwaits
      have hmarker : ∀ other ∈ before ++ .cross ((state.newCross crossId).absorb daemonInstanceId
          (totalCounts (state.gapsOf daemonInstanceId))) :: after, Held agentId other :=
        held_insert hwaits ⟨hepoch, fits_newCross_absorb hcrossId (hinstance hsome) _⟩
      exact held_withWaiting h fun entry hentry => hmarker entry (List.mem_of_mem_filter hentry)

theorem Appended.held {entry : NormalEntry OutboxFrame} {next : AgentOutboxState OutboxFrame}
    {result : AppendResult} (happended : Appended crossId gapId state entry next result)
    (h : ∀ entry ∈ state.entries, Held agentId entry) (hepoch : 0 ≤ state.takeoverEpoch)
    (hcrossId : crossId ≠ []) (hgapId : gapId ≠ []) (hentry : Held agentId (.normal entry)) :
    ∀ entry ∈ next.entries, Held agentId entry := by
  have hpushed : ∀ {roomy : AgentOutboxState OutboxFrame},
      (∀ other ∈ roomy.entries, Held agentId other) →
      ∀ other ∈ (roomy.push entry).entries, Held agentId other := by
    intro roomy hroomy other hother
    rcases List.mem_append.mp hother with hold | hnew
    · exact hroomy other hold
    · obtain rfl := List.mem_singleton.mp hnew
      exact hentry
  cases happended with
  | appended hroom => exact hpushed h
  | ignored hkind => exact h
  | no_room => exact h
  | madeRoom hprepared hconsumed hresult =>
      rcases hprepared with rfl | hmerge
      · exact hpushed (hconsumed.held h hepoch hcrossId hgapId)
      · have hmerged := hmerge.held h hepoch hcrossId
        exact hpushed (hconsumed.held hmerged (hmerge.takeoverEpoch ▸ hepoch) hcrossId hgapId)

/-! ## Sealing and the caps -/

theorem withinCaps_sealed {used : List JsString} {entries : List (OutboxEntry OutboxFrame)} :
    WithinCaps used (shapes (entries.map OutboxEntry.sealed)) ↔
      WithinCaps used (shapes entries) := by
  have hnormals : (shapes (entries.map OutboxEntry.sealed)).countP Shape.isNormal =
      (shapes entries).countP Shape.isNormal := by
    rw [shapes, shapes, List.countP_map, List.countP_map, List.countP_map]
    refine List.countP_congr fun entry _ => ?_
    cases entry <;> exact Iff.rfl
  have hcrosses : (shapes (entries.map OutboxEntry.sealed)).countP Shape.isCross =
      (shapes entries).countP Shape.isCross := by
    rw [shapes, shapes, List.countP_map, List.countP_map, List.countP_map]
    refine List.countP_congr fun entry _ => ?_
    cases entry <;> exact Iff.rfl
  have hinstances : gapInstances (shapes (entries.map OutboxEntry.sealed)) =
      gapInstances (shapes entries) := by
    rw [gapInstances, gapInstances, shapes, shapes, List.filterMap_map, List.filterMap_map,
      List.filterMap_map]
    refine List.filterMap_congr fun entry _ => ?_
    cases entry <;> rfl
  have hids : gapIds (shapes (entries.map OutboxEntry.sealed)) = gapIds (shapes entries) := by
    rw [gapIds, gapIds, shapes, shapes, List.filterMap_map, List.filterMap_map,
      List.filterMap_map]
    refine List.filterMap_congr fun entry _ => ?_
    cases entry <;> rfl
  constructor
  · rintro ⟨h₁, h₂, h₃, h₄, h₅, h₆⟩
    exact ⟨hnormals ▸ h₁, hinstances ▸ h₂, hinstances ▸ h₃, hcrosses ▸ h₄, hids ▸ h₅, hids ▸ h₆⟩
  · rintro ⟨h₁, h₂, h₃, h₄, h₅, h₆⟩
    exact ⟨hnormals ▸ h₁, hinstances ▸ h₂, hinstances ▸ h₃, hcrosses ▸ h₄, hids ▸ h₅, hids ▸ h₆⟩

/-! ## Runs -/

/-- What the callers promise: frames as they are enqueued, and epochs that count. -/
def OutboxEvent.Fits (agentId : JsString) : OutboxEvent OutboxFrame → Prop
  | .append entry _ crossId gapId => entry.Carries agentId ∧ crossId ≠ [] ∧ gapId ≠ []
  | .adoptTakeoverEpoch epoch => epoch ≤ maxSafeInteger
  | .humanStart epoch => 0 ≤ epoch ∧ epoch ≤ maxSafeInteger
  | .sendOldest | .ack _ => True

def OutboxEvent.freshIds : OutboxEvent OutboxFrame → List JsString
  | .append _ _ crossId gapId => [crossId, gapId]
  | .adoptTakeoverEpoch _ | .sendOldest | .ack _ | .humanStart _ => []

def OutboxEvent.identity : OutboxEvent OutboxFrame → Option (JsString × Nat)
  | .append entry _ _ _ => some entry.identity
  | .adoptTakeoverEpoch _ | .sendOldest | .ack _ | .humanStart _ => none

def appendedIdentities (events : List (OutboxEvent OutboxFrame)) : List (JsString × Nat) :=
  events.filterMap OutboxEvent.identity

structure Fitting (agentId : JsString) (events : List (OutboxEvent OutboxFrame))
    (state : AgentOutboxState OutboxFrame) : Prop where
  agent : state.agentId = agentId
  epochs : EpochOrdered state
  held : ∀ entry ∈ state.entries, Held agentId entry
  takeoverEpoch : 0 ≤ state.takeoverEpoch ∧ state.takeoverEpoch ≤ maxSafeInteger
  human : ∀ epoch ∈ state.humanTakeoverEpoch, 0 ≤ epoch ∧ epoch ≤ state.takeoverEpoch
  caps : WithinCaps (events.flatMap OutboxEvent.freshIds) (shapes state.entries)
  frames : ∃ frames, Accounts state.entries frames ∧
    frames.card ≤ (appendedIdentities events).length
  identities : ((normals state.entries).map NormalEntry.identity).Sublist
    (appendedIdentities events)

theorem fitting_fresh (agentId : JsString) :
    Fitting agentId [] (freshOutboxState agentId) where
  agent := rfl
  epochs := epochOrdered_fresh agentId
  held _ h := absurd h List.not_mem_nil
  takeoverEpoch := by simp [freshOutboxState, maxSafeInteger]
  human _ h := by cases h
  caps := ⟨Nat.zero_le _, fun _ => Nat.zero_le _, Nat.zero_le _, Nat.zero_le _, List.nodup_nil,
    fun _ h => absurd h List.not_mem_nil⟩
  frames := ⟨0, .nil, le_rfl⟩
  identities := List.Sublist.refl _

theorem Consume.unchanged {entry : NormalEntry OutboxFrame} {next : AgentOutboxState OutboxFrame}
    (h : Consume crossId gapId state entry next) :
    next.agentId = state.agentId ∧ next.humanTakeoverEpoch = state.humanTakeoverEpoch := by
  cases h <;> exact ⟨rfl, rfl⟩

theorem Appended.unchanged {entry : NormalEntry OutboxFrame}
    {next : AgentOutboxState OutboxFrame} {result : AppendResult}
    (h : Appended crossId gapId state entry next result) :
    next.agentId = state.agentId ∧ next.humanTakeoverEpoch = state.humanTakeoverEpoch := by
  cases h with
  | appended hroom => exact ⟨rfl, rfl⟩
  | ignored hkind => exact ⟨rfl, rfl⟩
  | no_room => exact ⟨rfl, rfl⟩
  | madeRoom hprepared hconsumed hresult =>
      rcases hprepared with rfl | hmerge
      · exact hconsumed.unchanged
      · cases hmerge <;> exact hconsumed.unchanged

theorem Appended.normals {entry : NormalEntry OutboxFrame}
    {next : AgentOutboxState OutboxFrame} {result : AppendResult}
    (h : Appended crossId gapId state entry next result) (hsettled : state.FlightSettled) :
    (normals next.entries).Sublist (normals state.entries ++ [entry]) := by
  have hsplit : state.flight ++ state.waiting = state.entries := flight_append_waiting
  rw [← flight_append_waiting, normals_append, (h.flightSettled hsettled).2, ← hsplit,
    normals_append, List.append_assoc]
  refine ((h.normals_waiting hsettled).trans ?_).append_left _
  split <;> simp

theorem Appended.frames {entry : NormalEntry OutboxFrame}
    {next : AgentOutboxState OutboxFrame} {result : AppendResult}
    {frames : Multiset (NormalEntry OutboxFrame)}
    (h : Appended crossId gapId state entry next result) (hsettled : state.FlightSettled)
    (hframes : Accounts state.entries frames) :
    ∃ kept, Accounts next.entries kept ∧ kept.card ≤ frames.card + 1 := by
  obtain ⟨kept, dropped, hkept, hsum, -⟩ := h.attributed hsettled hframes
  refine ⟨kept, hkept, ?_⟩
  have hcard := congrArg Multiset.card hsum
  rw [Multiset.card_add, Multiset.card_add] at hcard
  have hadded : (if result = .no_room then (0 : Multiset (NormalEntry OutboxFrame))
      else {entry}).card ≤ 1 := by
    split <;> simp
  omega

theorem Fitting.append {events : List (OutboxEvent OutboxFrame)}
    {entry : NormalEntry OutboxFrame} {evict : Bool} (h : Fitting agentId events state)
    (hfits : (OutboxEvent.append entry evict crossId gapId).Fits agentId)
    (hids : ((events ++ [OutboxEvent.append entry evict crossId gapId]).flatMap
      OutboxEvent.freshIds).Nodup) :
    Fitting agentId (events ++ [OutboxEvent.append entry evict crossId gapId])
      (enqueuingStep state (.append entry evict crossId gapId)) := by
  obtain ⟨hcarries, hcrossId, hgapId⟩ := hfits
  have happended := appendToOutbox_cases h.epochs.settled crossId gapId
    { entry with takeoverEpoch := state.takeoverEpoch } evict
  have hflat : (events ++ [OutboxEvent.append entry evict crossId gapId]).flatMap
    OutboxEvent.freshIds =
      events.flatMap OutboxEvent.freshIds ++ [crossId, gapId] := by
    rw [List.flatMap_append]
    rfl
  have hlist : appendedIdentities (events ++ [OutboxEvent.append entry evict crossId gapId]) =
      appendedIdentities events ++ [entry.identity] := List.filterMap_append ..
  rw [hflat, List.nodup_append] at hids
  obtain ⟨-, hpair, hfresh⟩ := hids
  have hcross : crossId ∉ events.flatMap OutboxEvent.freshIds :=
    fun hmem => hfresh _ hmem _ (by simp) rfl
  have hgap : gapId ∉ events.flatMap OutboxEvent.freshIds :=
    fun hmem => hfresh _ hmem _ (by simp) rfl
  have hdistinct : gapId ≠ crossId := by
    rintro rfl
    simp at hpair
  obtain ⟨frames, hframes, hcard⟩ := h.frames
  obtain ⟨kept, hkept, hless⟩ := happended.frames h.epochs.settled hframes
  have hunchanged := happended.unchanged
  refine ⟨hunchanged.1.trans h.agent, epochOrdered_step h.epochs _,
    happended.held h.held h.takeoverEpoch.1 hcrossId hgapId
      ⟨h.takeoverEpoch.1, { hcarries with }⟩, ?_, ?_, ?_, ⟨kept, hkept, ?_⟩, ?_⟩
  · rw [enqueuingStep, OutboxEvent.stamped, outboxStep, happended.takeoverEpoch]
    exact h.takeoverEpoch
  · rw [enqueuingStep, OutboxEvent.stamped, outboxStep, happended.takeoverEpoch, hunchanged.2]
    exact h.human
  · rw [hflat]
    refine (happended.withinCaps h.caps hcross hgap hdistinct).used_mono fun id hid => ?_
    simpa [or_comm, or_assoc, or_left_comm] using hid
  · rw [hlist, List.length_append, List.length_singleton]
    omega
  · rw [hlist]
    refine ((happended.normals h.epochs.settled).map _).trans ?_
    rw [List.map_append]
    exact h.identities.append_right _

theorem Fitting.lessened {events : List (OutboxEvent OutboxFrame)}
    {event : OutboxEvent OutboxFrame} (h : Fitting agentId events state)
    (hids : event.freshIds = []) (hidentity : event.identity = none)
    (hagent : (enqueuingStep state event).agentId = state.agentId)
    (hentries : ((enqueuingStep state event).entries.map OutboxEntry.sealed).Sublist
      (state.entries.map OutboxEntry.sealed))
    (hframes : ∀ frames, Accounts state.entries frames →
      ∃ kept, Accounts (enqueuingStep state event).entries kept ∧ kept.card ≤ frames.card)
    (hepoch : 0 ≤ (enqueuingStep state event).takeoverEpoch ∧
      (enqueuingStep state event).takeoverEpoch ≤ maxSafeInteger)
    (hhuman : ∀ epoch ∈ (enqueuingStep state event).humanTakeoverEpoch,
      0 ≤ epoch ∧ epoch ≤ (enqueuingStep state event).takeoverEpoch) :
    Fitting agentId (events ++ [event]) (enqueuingStep state event) := by
  have hflat : (events ++ [event]).flatMap OutboxEvent.freshIds =
      events.flatMap OutboxEvent.freshIds := by
    simp [hids]
  have hlist : appendedIdentities (events ++ [event]) = appendedIdentities events := by
    simp [appendedIdentities, hidentity]
  obtain ⟨frames, hstands, hcard⟩ := h.frames
  obtain ⟨kept, hkept, hless⟩ := hframes frames hstands
  refine ⟨hagent.trans h.agent, epochOrdered_step h.epochs _, ?_, hepoch, hhuman, ?_,
    ⟨kept, hkept, ?_⟩, ?_⟩
  · rw [← held_map_sealed]
    have hsealed := held_map_sealed.mpr h.held
    exact fun entry hentry => hsealed entry (hentries.subset hentry)
  · rw [hflat, ← withinCaps_sealed]
    exact (withinCaps_sealed.mpr h.caps).subperm (hentries.map _).subperm
  · rw [hlist]
    exact hless.trans hcard
  · rw [hlist]
    have hnormals : (normals ((enqueuingStep state event).entries.map OutboxEntry.sealed)).Sublist
        (normals (state.entries.map OutboxEntry.sealed)) := hentries.filterMap _
    rw [normals_map_sealed, normals_map_sealed] at hnormals
    exact (hnormals.map _).trans h.identities

theorem Fitting.humanTakeover {events : List (OutboxEvent OutboxFrame)} {epoch : Int}
    (h : Fitting agentId events state) (hnonneg : 0 ≤ epoch) :
    ∀ human ∈ (enqueuingStep state (.humanStart epoch)).humanTakeoverEpoch,
      0 ≤ human ∧ human ≤ (enqueuingStep state (.humanStart epoch)).takeoverEpoch := by
  have hadopted : epoch ≤ (state.adoptTakeoverEpoch epoch).takeoverEpoch := by
    rw [adoptTakeoverEpoch]
    split <;> simp_all
  have hgrows := takeoverEpoch_le_adopt state epoch
  have hhuman : (state.adoptTakeoverEpoch epoch).humanTakeoverEpoch =
      state.humanTakeoverEpoch := by
    rw [adoptTakeoverEpoch]
    split <;> rfl
  rw [enqueuingStep, OutboxEvent.stamped, outboxStep, recordHumanTakeover]
  split
  · rw [hhuman]
    exact fun human hmem => (h.human human hmem).imp_right fun hle => hle.trans hgrows
  · rintro human ⟨⟩
    exact ⟨hnonneg, hadopted⟩

theorem Fitting.step {events : List (OutboxEvent OutboxFrame)}
    {event : OutboxEvent OutboxFrame} (h : Fitting agentId events state)
    (hfits : event.Fits agentId)
    (hids : ((events ++ [event]).flatMap OutboxEvent.freshIds).Nodup) :
    Fitting agentId (events ++ [event]) (enqueuingStep state event) := by
  have hadopt : ∀ epoch, ((state.adoptTakeoverEpoch epoch).entries.map OutboxEntry.sealed).Sublist
      (state.entries.map OutboxEntry.sealed) := by
    intro epoch
    rw [adoptTakeoverEpoch]
    split
    · have hsame : (OutboxEntry.sealed ∘ OutboxEntry.sealed : OutboxEntry OutboxFrame → _) =
          OutboxEntry.sealed := funext fun entry => by cases entry <;> rfl
      simp [hsame]
    · exact List.Sublist.refl _
  have hepoch : ∀ epoch : Int, epoch ≤ maxSafeInteger →
      0 ≤ (state.adoptTakeoverEpoch epoch).takeoverEpoch ∧
        (state.adoptTakeoverEpoch epoch).takeoverEpoch ≤ maxSafeInteger := by
    intro epoch hsafe
    refine ⟨h.takeoverEpoch.1.trans (takeoverEpoch_le_adopt state epoch), ?_⟩
    rw [adoptTakeoverEpoch]
    split
    · exact hsafe
    · exact h.takeoverEpoch.2
  cases event with
  | append entry evict crossId gapId => exact h.append hfits hids
  | adoptTakeoverEpoch epoch =>
      refine h.lessened rfl rfl ?_ (hadopt epoch) (fun frames hframes =>
        ⟨frames, accounts_adoptTakeoverEpoch hframes epoch, le_rfl⟩) (hepoch epoch hfits) ?_
      · rw [enqueuingStep, OutboxEvent.stamped, outboxStep, adoptTakeoverEpoch]
        split <;> rfl
      · have hgrows := takeoverEpoch_le_adopt state epoch
        have hhuman : (state.adoptTakeoverEpoch epoch).humanTakeoverEpoch =
            state.humanTakeoverEpoch := by
          rw [adoptTakeoverEpoch]
          split <;> rfl
        rw [enqueuingStep, OutboxEvent.stamped, outboxStep, hhuman]
        exact fun human hmem => (h.human human hmem).imp_right fun hle => hle.trans hgrows
  | sendOldest =>
      have hunchanged : state.markInFlight.agentId = state.agentId ∧
          state.markInFlight.humanTakeoverEpoch = state.humanTakeoverEpoch := by
        rw [markInFlight]
        split
        · exact ⟨rfl, rfl⟩
        · split <;> exact ⟨rfl, rfl⟩
      refine h.lessened rfl rfl hunchanged.1 ?_ (fun frames hframes =>
        ⟨frames, accounts_markInFlight hframes, le_rfl⟩) ?_ ?_
      · rw [enqueuingStep, OutboxEvent.stamped, outboxStep, map_sealed_markInFlight]
      · exact takeoverEpoch_markInFlight.symm ▸ h.takeoverEpoch
      · rw [enqueuingStep, OutboxEvent.stamped, outboxStep, takeoverEpoch_markInFlight,
          hunchanged.2]
        exact h.human
  | ack received =>
      have hunchanged : (state.applyOutboxAck received).agentId = state.agentId ∧
          (state.applyOutboxAck received).takeoverEpoch = state.takeoverEpoch ∧
          (state.applyOutboxAck received).humanTakeoverEpoch = state.humanTakeoverEpoch ∧
          (state.applyOutboxAck received).entries.Sublist state.entries := by
        rw [applyOutboxAck]
        split
        · exact ⟨rfl, rfl, rfl, List.Sublist.refl _⟩
        · exact ⟨rfl, rfl, rfl, List.eraseIdx_sublist _ _⟩
      obtain ⟨hagent, hsame, hhuman, hsublist⟩ := hunchanged
      refine h.lessened rfl rfl hagent (hsublist.map _) (fun frames hframes => ?_) ?_ ?_
      · obtain ⟨kept, removed, hkept, -, hsum⟩ :=
          @accounts_applyOutboxAck _ state received .empty frames 0 hframes .nil
        refine ⟨kept, hkept, ?_⟩
        have hcard := congrArg Multiset.card hsum
        simp only [add_zero, Multiset.card_add] at hcard
        omega
      · rw [enqueuingStep, OutboxEvent.stamped, outboxStep, hsame]
        exact h.takeoverEpoch
      · rw [enqueuingStep, OutboxEvent.stamped, outboxStep, hsame, hhuman]
        exact h.human
  | humanStart epoch =>
      have hrecord : ∀ other : AgentOutboxState OutboxFrame,
          (other.recordHumanTakeover epoch).agentId = other.agentId ∧
            (other.recordHumanTakeover epoch).entries = other.entries ∧
            (other.recordHumanTakeover epoch).takeoverEpoch = other.takeoverEpoch := by
        intro other
        rw [recordHumanTakeover]
        split <;> exact ⟨rfl, rfl, rfl⟩
      obtain ⟨hagent, hentries, hsame⟩ := hrecord (state.adoptTakeoverEpoch epoch)
      refine h.lessened rfl rfl ?_ ?_ (fun frames hframes => ⟨frames, ?_, le_rfl⟩) ?_
        (h.humanTakeover hfits.1)
      · rw [enqueuingStep, OutboxEvent.stamped, outboxStep, hagent, adoptTakeoverEpoch]
        split <;> rfl
      · rw [enqueuingStep, OutboxEvent.stamped, outboxStep, hentries]
        exact hadopt epoch
      · rw [enqueuingStep, OutboxEvent.stamped, outboxStep, hentries]
        exact accounts_adoptTakeoverEpoch hframes epoch
      · rw [enqueuingStep, OutboxEvent.stamped, outboxStep, hsame]
        exact hepoch epoch hfits.2

theorem fitting_enqueuingRun (agentId : JsString) (events : List (OutboxEvent OutboxFrame))
    (hfits : ∀ event ∈ events, event.Fits agentId)
    (hids : (events.flatMap OutboxEvent.freshIds).Nodup) :
    Fitting agentId events (enqueuingRun agentId events) := by
  induction events using List.reverseRecOn with
  | nil => exact fitting_fresh agentId
  | append_singleton events event ih =>
      have hearlier : (events.flatMap OutboxEvent.freshIds).Nodup := by
        rw [List.flatMap_append] at hids
        exact (List.nodup_append.mp hids).1
      have hbefore := ih (fun event hmem => hfits event (by simp [hmem])) hearlier
      rw [enqueuingRun, run_concat, ← enqueuingRun]
      exact hbefore.step (hfits event (by simp)) hids

theorem Fitting.queueFits {events : List (OutboxEvent OutboxFrame)}
    (h : Fitting agentId events state) (hidentities : (appendedIdentities events).Nodup)
    (hcount : (appendedIdentities events).length ≤ maxSafeInteger) :
    QueueFits agentId state where
  agent := h.agent
  epochs := h.epochs
  nonneg entry hentry := (h.held entry hentry).1
  takeoverEpoch := h.takeoverEpoch
  human := h.human
  caps := ⟨_, h.caps⟩
  fits entry hentry := (h.held entry hentry).2
  counts entry hentry kind := by
    obtain ⟨frames, hstands, hcard⟩ := h.frames
    have hheld : entry.kindCount kind ≤ heldCount kind state.entries :=
      List.single_le_sum (fun _ _ => Nat.zero_le _) _ (List.mem_map_of_mem hentry)
    rw [hstands.heldCount] at hheld
    exact hheld.trans ((Multiset.countP_le_card _ _).trans (hcard.trans hcount))
  identities := hidentities.sublist h.identities

/-- A valid file, its bounds spelled out, and what loading it gives. -/
structure ValidFile (agentId : JsString) (state : AgentOutboxState OutboxFrame) : Prop where
  normals : state.normalCount ≤ OUTBOX_NORMAL_CAP
  instances : state.instancesWithGaps.length ≤ OUTBOX_GAP_INSTANCES_MAX
  gaps : ∀ id, (state.gapsOf id).length ≤ OUTBOX_GAPS_PER_INSTANCE_MAX
  crosses : state.crossEntries.length ≤ OUTBOX_CROSS_MAX
  total : state.entries.length ≤ OUTBOX_HARD_TOTAL
  identities : ((Outbox.normals state.entries).map NormalEntry.identity).Nodup
  markers : (state.entries.filterMap OutboxEntry.gapId).Nodup
  epochs : ∀ entry ∈ state.entries, entry.takeoverEpoch ≤ state.takeoverEpoch
  human : ∀ epoch ∈ state.humanTakeoverEpoch, epoch ≤ state.takeoverEpoch
  crossInstances : ∀ cross ∈ state.crossEntries, cross.instances ≠ [] ∧ cross.instances.Nodup
  valid : isValidState (jsonCopy (.object (stateToJs state))) agentId = true
  loaded : loadState (jsonCopy (.object (stateToJs state))) agentId = some state

theorem reachable_queue_is_valid_file (agentId : JsString)
    (events : List (OutboxEvent OutboxFrame)) (hfits : ∀ event ∈ events, event.Fits agentId)
    (hids : (events.flatMap OutboxEvent.freshIds).Nodup)
    (hidentities : (appendedIdentities events).Nodup)
    (hcount : (appendedIdentities events).length ≤ maxSafeInteger) :
    ValidFile agentId (enqueuingRun agentId events) := by
  have hfitting := fitting_enqueuingRun agentId events hfits hids
  have hqueue := hfitting.queueFits hidentities hcount
  have hvalid := hqueue.isValidState
  have hmarkers : (enqueuingRun agentId events).entries.filterMap OutboxEntry.gapId =
      gapIds (shapes (enqueuingRun agentId events).entries) := by
    rw [gapIds, shapes, List.filterMap_map]
    rfl
  refine ⟨?_, ?_, fun id => ?_, ?_, hfitting.caps.length_le, hqueue.identities, ?_, ?_, ?_, ?_,
    hvalid, ?_⟩
  · rw [normalCount_eq_countP]
    exact hfitting.caps.normals
  · rw [length_instancesWithGaps]
    exact hfitting.caps.instances
  · rw [length_gapsOf]
    exact hfitting.caps.gaps id
  · rw [crossEntries, length_filterMap_crossOf]
    exact hfitting.caps.crosses
  · rw [hmarkers]
    exact hfitting.caps.distinct
  · exact fun entry hentry => hfitting.epochs.bounded _ (List.mem_map_of_mem hentry)
  · exact fun epoch hepoch => (hfitting.human epoch hepoch).2
  · intro cross hcross
    have hfits := hqueue.fits _ (mem_crossEntries.mp hcross)
    exact ⟨hfits.instances, hfits.distinct⟩
  · rw [loadState, if_pos hvalid, stateOfJs_toJs]

def failedFrame (daemonInstanceId : JsString) (clientSeq : Nat) : OutboxFrame where
  agentId := js "agent"
  daemonInstanceId := daemonInstanceId
  launchId := js "launch"
  clientSeq := clientSeq
  generation := none
  body := .runtimeOutcome none 0 none (.terminal_failure (js "kind") (js "print") (js "class"))

def enqueueFailed (daemonInstanceId : JsString) (clientSeq : Nat) (crossId gapId : JsString) :
    OutboxEvent OutboxFrame :=
  .append ⟨.e1, daemonInstanceId, clientSeq, 0, failedFrame daemonInstanceId clientSeq⟩ true
    crossId gapId

theorem enqueueFailed_fits {daemonInstanceId crossId gapId : JsString} {clientSeq : Nat}
    (hinstance : daemonInstanceId ≠ []) (hseq : clientSeq ≤ maxSafeInteger)
    (hcrossId : crossId ≠ []) (hgapId : gapId ≠ []) :
    (enqueueFailed daemonInstanceId clientSeq crossId gapId).Fits (js "agent") :=
  ⟨⟨rfl, rfl, rfl, rfl, hinstance, (nofun : js "launch" ≠ []), hseq, nofun, le_rfl,
    by decide, by decide, by decide⟩, hcrossId, hgapId⟩

/-- Failures of one daemon instance after the other, each with every safe sequence number. -/
def failures (count : Nat) : List (OutboxEvent OutboxFrame) :=
  (List.range count).map fun n =>
    enqueueFailed (decimalText (n / (maxSafeInteger + 1))) (n % (maxSafeInteger + 1))
      (decimalText (2 * n)) (decimalText (2 * n + 1))

theorem decimalText_ne_nil (n : Nat) : decimalText n ≠ [] := by
  intro hnil
  have hcanonical := isCanonicalDecimal_decimalText n
  simp [hnil, isCanonicalDecimal] at hcanonical

theorem failures_fit {count : Nat} : ∀ event ∈ failures count, event.Fits (js "agent") := by
  intro event hevent
  obtain ⟨n, -, rfl⟩ := List.mem_map.mp hevent
  exact enqueueFailed_fits (decimalText_ne_nil _)
    (Nat.le_of_lt_succ (Nat.mod_lt _ (Nat.succ_pos _))) (decimalText_ne_nil _)
    (decimalText_ne_nil _)

theorem failures_ids (count : Nat) : ((failures count).flatMap OutboxEvent.freshIds).Nodup := by
  have heq : (failures count).flatMap OutboxEvent.freshIds =
      (List.range (2 * count)).map decimalText := by
    rw [failures, List.flatMap_map]
    induction count with
    | zero => rfl
    | succ count ih =>
        rw [List.range_succ, List.flatMap_append, ih, Nat.mul_succ, List.range_succ,
          List.range_succ]
        simp [enqueueFailed, OutboxEvent.freshIds]
  rw [heq]
  exact List.nodup_range.map decimalText_injective

theorem appendedIdentities_failures (count : Nat) : appendedIdentities (failures count) =
    (List.range count).map fun n =>
      (decimalText (n / (maxSafeInteger + 1)), n % (maxSafeInteger + 1)) := by
  rw [appendedIdentities, failures, List.filterMap_map]
  rw [← List.filterMap_eq_map]
  rfl

theorem failures_identities (count : Nat) : (appendedIdentities (failures count)).Nodup := by
  rw [appendedIdentities_failures]
  refine List.nodup_range.map fun first second heq => ?_
  obtain ⟨hquotient, hremainder⟩ := Prod.mk.inj heq
  have hsame := decimalText_injective hquotient
  rw [← Nat.div_add_mod first (maxSafeInteger + 1), hsame, hremainder, Nat.div_add_mod]

def foldedAndAcked : List (OutboxEvent OutboxFrame) :=
  failures 130 ++ [.sendOldest, .ack ⟨none, none, some (decimalText 257)⟩, .sendOldest,
    .ack ⟨some (decimalText 0), some 2, none⟩, .humanStart 4]

theorem reachable_queue_is_valid_file_folded :
    (enqueuingRun (js "agent") (failures 130)).entries.length = 129 ∧
      (enqueuingRun (js "agent") foldedAndAcked).entries.length = 127 ∧
      ValidFile (js "agent") (enqueuingRun (js "agent") foldedAndAcked) := by
  have hids : foldedAndAcked.flatMap OutboxEvent.freshIds =
      (failures 130).flatMap OutboxEvent.freshIds := by
    rw [foldedAndAcked, List.flatMap_append]
    exact List.append_nil _
  have hidentities : appendedIdentities foldedAndAcked = appendedIdentities (failures 130) := by
    rw [foldedAndAcked, appendedIdentities, List.filterMap_append]
    exact List.append_nil _
  refine ⟨by decide +kernel, by decide +kernel,
    reachable_queue_is_valid_file _ _ (fun event hevent => ?_) (hids ▸ failures_ids 130)
      (hidentities ▸ failures_identities 130) ?_⟩
  · rcases List.mem_append.mp hevent with hfailure | hrest
    · exact failures_fit event hfailure
    · simp only [List.mem_cons, List.not_mem_nil, or_false] at hrest
      rcases hrest with rfl | rfl | rfl | rfl | rfl
      · trivial
      · trivial
      · trivial
      · trivial
      · exact ⟨by decide, by simp [maxSafeInteger]⟩
  · rw [hidentities, appendedIdentities_failures, List.length_map, List.length_range]
    simp [maxSafeInteger]

/-! ## Where the file is rejected -/

theorem le_of_isCount_count {n : Nat} (h : isCount (jsonCopy (JsCodec.count.toJs n)) = true) :
    n ≤ maxSafeInteger := by
  change (JsNumber.ofNat n).isUnsignedSafeInteger = true at h
  simp only [JsNumber.ofNat, JsNumber.isUnsignedSafeInteger, Bool.and_eq_true,
    decide_eq_true_eq, Rat.num_natCast] at h
  exact_mod_cast of_decide_eq_true h.2

theorem isValidContent_of_isValidState (h : isValidState (jsonCopy (.object (stateToJs state)))
    agentId = true) : ∀ entry ∈ state.entries,
      isValidContent (jsonCopy (.object (entryToJs entry))) agentId = true := by
  have hitems : ((jsonCopy (.object (stateToJs state))).read (js "entries")).arrayItems =
      state.entries.map fun entry => jsonCopy (.object (entryToJs entry)) := by
    rw [read_jsonCopy (nodup_stateToJs state)]
    change (jsonCopy (.array
      (state.entries.map fun entry => .object (entryToJs entry)))).arrayItems = _
    rw [jsonCopy_array _ _ fun _ => rfl]
    rfl
  simp only [isValidState, Bool.and_eq_true, hitems] at h
  have hall := h.1.1.1.1.1.1.2
  intro entry hentry
  have hvalid := List.all_eq_true.mp hall _ (List.mem_map_of_mem hentry)
  rw [isValidEntry, Bool.and_eq_true] at hvalid
  exact hvalid.2

theorem kindCount_le_of_isValidContent {entry : OutboxEntry OutboxFrame}
    (h : isValidContent (jsonCopy (.object (entryToJs entry))) agentId = true) :
    entry.kindCount .e1 ≤ maxSafeInteger := by
  have hcounts : ∀ counts : GapCounts,
      isValidCounts (jsonCopy (.object (countsToJs counts))) = true →
        counts.e1 ≤ maxSafeInteger := by
    intro counts hvalid
    rw [isValidCounts, Bool.and_eq_true] at hvalid
    have hkey := List.all_eq_true.mp hvalid.2 (js "e1") (by decide)
    rw [read_jsonCopy (nodup_countsToJs counts)] at hkey
    exact le_of_isCount_count hkey
  have hread := read_jsonCopy (nodup_entryToJs entry)
  cases entry with
  | normal entry =>
      have hone : (OutboxEntry.normal entry).kindCount .e1 ≤ 1 := by
        rw [OutboxEntry.kindCount]
        split <;> simp
      exact hone.trans (by decide)
  | gap gap =>
      simp only [isValidContent, hread] at h
      refine hcounts gap.counts ?_
      change (_ && isValidCounts (jsonCopy (.object (countsToJs gap.counts))) && true) = true at h
      simp_all
  | cross cross =>
      simp only [isValidContent, hread] at h
      refine hcounts cross.counts ?_
      change (_ && isValidCounts (jsonCopy (.object (countsToJs cross.counts))) && true) = true at h
      simp_all

theorem frameCount_failures (count : Nat) :
    (enqueuingRun (js "agent") (failures count)).takeoverEpoch = 0 ∧
      ∃ frames, Accounts (enqueuingRun (js "agent") (failures count)).entries frames ∧
        frameCount .e1 frames = count := by
  induction count with
  | zero => exact ⟨rfl, 0, .nil, rfl⟩
  | succ count ih =>
      obtain ⟨hepoch, frames, hframes, hcount⟩ := ih
      have hadmits : (freshOutboxState (js "agent") : AgentOutboxState OutboxFrame).canAdmitStart
          [] = true := by decide
      have hfresh := @epochOrdered_fresh OutboxFrame (js "agent")
      obtain ⟨hordered, hreserve⟩ :=
        (hasReserve_of_canAdmitStart hfresh hadmits).run hfresh hepoch
      have hsucc : failures (count + 1) = failures count ++
          [enqueueFailed (decimalText (count / (maxSafeInteger + 1)))
            (count % (maxSafeInteger + 1)) (decimalText (2 * count))
            (decimalText (2 * count + 1))] := by
        rw [failures, List.range_succ, List.map_append]
        rfl
      rw [hsucc, enqueuingRun, run_concat, ← enqueuingRun]
      change EpochOrdered (enqueuingRun (js "agent") (failures count)) at hordered
      change HasReserve (enqueuingRun (js "agent") (failures count)) at hreserve
      generalize enqueuingRun (js "agent") (failures count) = state at *
      rw [enqueueFailed, enqueuingStep, OutboxEvent.stamped, outboxStep]
      generalize decimalText (count / (maxSafeInteger + 1)) = daemonInstanceId at *
      have happended := appendToOutbox_cases hordered.settled (decimalText (2 * count))
        (decimalText (2 * count + 1))
        ⟨.e1, daemonInstanceId, count % (maxSafeInteger + 1), state.takeoverEpoch,
          failedFrame daemonInstanceId (count % (maxSafeInteger + 1))⟩ true
      have hroom := @HasReserve.appended _ _ hreserve hordered (decimalText (2 * count))
        (decimalText (2 * count + 1))
        ⟨.e1, daemonInstanceId, count % (maxSafeInteger + 1), state.takeoverEpoch,
          failedFrame daemonInstanceId (count % (maxSafeInteger + 1))⟩ (by simp)
      refine ⟨happended.takeoverEpoch.trans hepoch, ?_⟩
      obtain ⟨kept, dropped, hkept, hsum, hdropped⟩ :=
        happended.attributed hordered.settled hframes
      have hnone : frameCount .e1 dropped = 0 :=
        Multiset.countP_eq_zero.mpr fun frame hframe heq => by
          simp [hdropped frame hframe] at heq
      have hcounts := congrArg (frameCount .e1) hsum
      rw [if_neg hroom, frameCount_add, frameCount_add, frameCount_singleton, hnone, hcount]
        at hcounts
      exact ⟨kept, hkept, by simpa using hcounts.symm⟩

theorem not_length_le {counts : List Nat} {total bound : Nat} (h : ∀ count ∈ counts, count ≤ bound)
    (hsum : counts.sum = total * bound + 1) : ¬ counts.length ≤ total := by
  intro hle
  have hproduct := Nat.mul_le_mul_right bound hle
  have hcounts := List.sum_le_card_nsmul counts bound h
  rw [hsum, nsmul_eq_mul, Nat.cast_id] at hcounts
  omega

/-- A human start with a negative epoch, and a marker that counts past the safe integers. -/
theorem reachable_queue_rejected :
    isValidState (jsonCopy (.object (stateToJs
      (enqueuingRun (js "agent") [.humanStart (-1)])))) (js "agent") = false ∧
    ∃ events : List (OutboxEvent OutboxFrame), (∀ event ∈ events, event.Fits (js "agent")) ∧
      (events.flatMap OutboxEvent.freshIds).Nodup ∧ (appendedIdentities events).Nodup ∧
      isValidState (jsonCopy (.object (stateToJs (enqueuingRun (js "agent") events))))
        (js "agent") = false := by
  refine ⟨by decide +kernel, failures (OUTBOX_HARD_TOTAL * maxSafeInteger + 1), failures_fit,
    failures_ids _, failures_identities _, ?_⟩
  obtain ⟨-, frames, hframes, hcount⟩ :=
    frameCount_failures (OUTBOX_HARD_TOTAL * maxSafeInteger + 1)
  have hcaps := (fitting_enqueuingRun _ _
    (@failures_fit (OUTBOX_HARD_TOTAL * maxSafeInteger + 1)) (failures_ids _)).caps
  generalize enqueuingRun (js "agent")
    (failures (OUTBOX_HARD_TOTAL * maxSafeInteger + 1)) = state at *
  rw [← hframes.heldCount, heldCount] at hcount
  by_contra hvalid
  have hcontent := isValidContent_of_isValidState (Bool.eq_true_of_not_eq_false hvalid)
  have hbound : ∀ held ∈ state.entries.map (OutboxEntry.kindCount .e1), held ≤ maxSafeInteger := by
    intro held hheld
    obtain ⟨entry, hentry, rfl⟩ := List.mem_map.mp hheld
    exact kindCount_le_of_isValidContent (hcontent entry hentry)
  refine @not_length_le _ OUTBOX_HARD_TOTAL maxSafeInteger hbound hcount ?_
  rw [List.length_map]
  exact hcaps.length_le

end Raft.Outbox
