import Raft.Foundation.MaxRegister
import Raft.Foundation.Run
import Raft.ReactionReadModels.Store

/-!
# The versioned viewer overlay

Per message the versioned snapshots of a run are offers to a register that
keeps the greatest version.  The store shows what that register holds as long
as no plain snapshot of a versioned message brings another list: rosters ask
for the version of a message first, plain snapshots do not.
-/

namespace Raft.ReactionReadModels

open Raft.Foundation

/-! ## What one write shows -/

theorem get_deleteMatching (remove : JsString → Bool) (keys : List JsString)
    (map : InsertionMap JsString Bool) (key : JsString) :
    (keys.foldl (fun map key => if remove key then map.delete key else map) map).get key =
      if key ∈ keys ∧ remove key = true then none else map.get key := by
  induction keys generalizing map with
  | nil => simp
  | cons first keys ih =>
      rw [List.foldl_cons, ih]
      by_cases hfirst : remove first = true
      · rw [if_pos hfirst, InsertionMap.get_delete]
        by_cases hkey : key = first
        · simp [hkey, hfirst]
        · simp [hkey]
      · rw [if_neg hfirst]
        by_cases hkey : key = first
        · simp [hkey, hfirst]
        · simp [hkey]

theorem get_setEmojis (keyOf : JsString → JsString) (emojis : List JsString)
    (map : InsertionMap JsString Bool) (key : JsString) :
    (emojis.foldl (fun map emoji => map.set (keyOf emoji) true) map).get key =
      if ∃ emoji ∈ emojis, keyOf emoji = key then some true else map.get key := by
  induction emojis generalizing map with
  | nil => simp
  | cons emoji emojis ih =>
      rw [List.foldl_cons, ih, InsertionMap.get_set]
      by_cases hlater : ∃ emoji ∈ emojis, keyOf emoji = key
      · obtain ⟨later, hmem, hkey⟩ := hlater
        rw [if_pos ⟨later, hmem, hkey⟩, if_pos ⟨later, List.mem_cons_of_mem _ hmem, hkey⟩]
      · rw [if_neg hlater]
        by_cases hkey : key = keyOf emoji
        · rw [if_pos hkey, if_pos ⟨emoji, List.mem_cons_self, hkey.symm⟩]
        · rw [if_neg hkey, if_neg]
          rintro ⟨other, hmem, hother⟩
          rcases List.mem_cons.mp hmem with rfl | hmem
          · exact hkey hother.symm
          · exact hlater ⟨other, hmem, hother⟩

theorem get_replaceMessageOverlay (principalId serverId messageId serverId' messageId' : JsString)
    (emojis : List JsString) (overlay : InsertionMap JsString Bool) (emoji : JsString) :
    (replaceMessageOverlay principalId serverId messageId emojis overlay).get
        (viewerOverlayKey principalId serverId' messageId' emoji) =
      if serverId' = serverId ∧ messageId' = messageId then
        if emoji ∈ emojis then some true else none
      else overlay.get (viewerOverlayKey principalId serverId' messageId' emoji) := by
  have hmatches := overlayKeyMatchesMessage_viewerOverlayKey principalId serverId' messageId'
    emoji principalId serverId messageId
  rw [replaceMessageOverlay, get_setEmojis, get_deleteMatching]
  simp only [hmatches, viewerOverlayKey_inj, true_and]
  by_cases hmessage : serverId' = serverId ∧ messageId' = messageId
  · obtain ⟨rfl, rfl⟩ := hmessage
    simp only [true_and, exists_eq_right, and_self, and_true, if_true]
    by_cases hkey : viewerOverlayKey principalId serverId' messageId' emoji ∈ overlay.keys
    · rw [if_pos hkey]
    · rw [if_neg hkey, (overlay.get_eq_none_iff _).mpr hkey]
  · rw [if_neg hmessage, if_neg, if_neg]
    · exact fun h => hmessage h.2
    · rintro ⟨other, -, hserver, hid, -⟩
      exact hmessage ⟨hserver.symm, hid.symm⟩

/-- The overlay of a message is exactly a list of emojis, it is complete, and the list is the
one remembered. -/
def Shows (principalId serverId messageId : JsString) (emojis : List JsString)
    (state : ReactionReadModelData) : Prop :=
  (∀ emoji, state.viewerOverlay.get (viewerOverlayKey principalId serverId messageId emoji) =
      if emoji ∈ emojis then some true else none) ∧
    viewerMessageKey principalId serverId messageId ∈ state.viewerCompleteMessages ∧
    state.viewerSnapshotEmojis.get (viewerMessageKey principalId serverId messageId) = some emojis

structure Written (principalId serverId messageId : JsString) (emojis : List JsString)
    (state next : ReactionReadModelData) : Prop where
  overlay : next.viewerOverlay =
    replaceMessageOverlay principalId serverId messageId emojis state.viewerOverlay
  complete : next.viewerCompleteMessages =
    insert (viewerMessageKey principalId serverId messageId) state.viewerCompleteMessages
  emojis : next.viewerSnapshotEmojis =
    state.viewerSnapshotEmojis.set (viewerMessageKey principalId serverId messageId) emojis

section

variable {principalId serverId messageId : JsString} {emojis : List JsString}
  {state next : ReactionReadModelData}

theorem Written.shows (h : Written principalId serverId messageId emojis state next) :
    Shows principalId serverId messageId emojis next := by
  obtain ⟨hoverlay, hcomplete, hemojis⟩ := h
  refine ⟨fun emoji => ?_, ?_, ?_⟩
  · rw [hoverlay, get_replaceMessageOverlay, if_pos ⟨rfl, rfl⟩]
  · rw [hcomplete]
    exact Finset.mem_insert_self _ _
  · rw [hemojis, InsertionMap.get_set_self]

theorem Written.shows_other (h : Written principalId serverId messageId emojis state next)
    {serverId' messageId' : JsString} (hother : ¬ (serverId' = serverId ∧ messageId' = messageId))
    {shown : List JsString} (hshows : Shows principalId serverId' messageId' shown state) :
    Shows principalId serverId' messageId' shown next := by
  obtain ⟨hoverlay, hcomplete, hemojis⟩ := h
  have hkey : viewerMessageKey principalId serverId' messageId' ≠
      viewerMessageKey principalId serverId messageId := by
    rw [Ne, viewerMessageKey_inj]
    exact fun heq => hother heq.2
  refine ⟨fun emoji => ?_, ?_, ?_⟩
  · rw [hoverlay, get_replaceMessageOverlay, if_neg hother]
    exact hshows.1 emoji
  · rw [hcomplete]
    exact Finset.mem_insert_of_mem hshows.2.1
  · rw [hemojis, InsertionMap.get_set_of_ne _ _ hkey]
    exact hshows.2.2

end

/-! ## Writers that leave versioned messages alone -/

structure KeepsVersioned (principalId : JsString) (state next : ReactionReadModelData) : Prop where
  active : next.activePrincipalId = state.activePrincipalId
  versions : next.viewerVersions = state.viewerVersions
  shows : ∀ serverId messageId emojis,
    (state.viewerVersions.get (viewerMessageKey principalId serverId messageId)).isSome = true →
      Shows principalId serverId messageId emojis state →
        Shows principalId serverId messageId emojis next

namespace KeepsVersioned

variable {principalId : JsString}

theorem refl (state : ReactionReadModelData) : KeepsVersioned principalId state state :=
  ⟨rfl, rfl, fun _ _ _ _ h => h⟩

theorem trans {first second third : ReactionReadModelData}
    (h : KeepsVersioned principalId first second) (h' : KeepsVersioned principalId second third) :
    KeepsVersioned principalId first third := by
  refine ⟨h'.active.trans h.active, h'.versions.trans h.versions, ?_⟩
  intro serverId messageId emojis hversion hshows
  exact h'.shows _ _ _ (by rwa [h.versions]) (h.shows _ _ _ hversion hshows)

theorem of_eq {state next : ReactionReadModelData}
    (hactive : next.activePrincipalId = state.activePrincipalId)
    (hoverlay : next.viewerOverlay = state.viewerOverlay)
    (hcomplete : next.viewerCompleteMessages = state.viewerCompleteMessages)
    (hversions : next.viewerVersions = state.viewerVersions)
    (hemojis : next.viewerSnapshotEmojis = state.viewerSnapshotEmojis) :
    KeepsVersioned principalId state next := by
  refine ⟨hactive, hversions, fun serverId messageId emojis _ hshows => ?_⟩
  rwa [Shows, hoverlay, hcomplete, hemojis]

theorem foldl {α : Type} {f : ReactionReadModelData → α → ReactionReadModelData}
    (hstep : ∀ state item, KeepsVersioned principalId state (f state item)) (items : List α)
    (state : ReactionReadModelData) : KeepsVersioned principalId state (items.foldl f state) := by
  induction items generalizing state with
  | nil => exact refl state
  | cons item items ih => exact (hstep state item).trans (ih _)

end KeepsVersioned

theorem applyRosterOverlay_written {principalId : JsString} {state : ReactionReadModelData}
    {snapshot : ReactionViewerOverlaySnapshot}
    (hversion : ¬ (state.viewerVersions.get
      (viewerMessageKey principalId snapshot.serverId snapshot.messageId)).isSome = true) :
    Written principalId snapshot.serverId snapshot.messageId snapshot.reactedEmojis state
      (applyRosterOverlay principalId state snapshot) := by
  rw [applyRosterOverlay, if_neg hversion]
  exact ⟨rfl, rfl, rfl⟩

theorem applyRosterOverlay_keeps (principalId : JsString) (state : ReactionReadModelData)
    (snapshot : ReactionViewerOverlaySnapshot) :
    KeepsVersioned principalId state (applyRosterOverlay principalId state snapshot) := by
  by_cases hversion : (state.viewerVersions.get
      (viewerMessageKey principalId snapshot.serverId snapshot.messageId)).isSome = true
  · rw [applyRosterOverlay, if_pos hversion]
    exact .refl state
  · have hwritten := applyRosterOverlay_written hversion
    rw [applyRosterOverlay, if_neg hversion] at hwritten ⊢
    refine ⟨rfl, rfl, fun serverId messageId emojis hsome hshows => ?_⟩
    refine hwritten.shows_other ?_ hshows
    rintro ⟨rfl, rfl⟩
    exact hversion hsome

theorem applyStaged_keeps (principalId : JsString) (state : ReactionReadModelData)
    (staged : StagedLegacyReactionIngress) :
    KeepsVersioned principalId state (applyStaged principalId state staged) := by
  have hseeds : ∀ state seed, KeepsVersioned principalId state
    (seedActors principalId state seed) :=
    fun _ _ => .of_eq rfl rfl rfl rfl rfl
  have hviolations : KeepsVersioned principalId state { state with
      normalizationViolations := state.normalizationViolations ++ staged.normalized.violations } :=
    .of_eq rfl rfl rfl rfl rfl
  rw [applyStaged]
  refine hviolations.trans (.trans ?_ (.foldl hseeds _ _))
  cases staged.normalized.viewerOverlay with
  | none => exact .refl _
  | some snapshot => exact applyRosterOverlay_keeps principalId _ snapshot

theorem evict_keeps (principalId : JsString) (capacity : Nat) (cacheOrder : List JsString)
    (state : ReactionReadModelData) :
    KeepsVersioned principalId state (evict capacity cacheOrder state) := by
  induction cacheOrder generalizing state with
  | nil => exact .of_eq rfl rfl rfl rfl rfl
  | cons evictedKey rest ih =>
      rw [evict]
      split
      · exact .of_eq rfl rfl rfl rfl rfl
      · split
        · exact .of_eq rfl rfl rfl rfl rfl
        · refine KeepsVersioned.trans ?_ (ih _)
          exact .of_eq rfl rfl rfl rfl rfl

theorem batch_keeps (principalId : JsString) (capacity : Nat)
    (stagedBatch : List StagedLegacyReactionIngress) {state : ReactionReadModelData}
    (hactive : state.activePrincipalId = some principalId) :
    KeepsVersioned principalId state
      (step capacity state (.applyStagedLegacyIngressBatch stagedBatch)) := by
  rw [step]
  cases hresult : applyStagedLegacyIngressBatch capacity stagedBatch state with
  | error message => exact .refl state
  | ok next =>
      rcases applyBatch_cases hresult with ⟨-, rfl⟩ | ⟨owner, howner, -, rfl⟩
      · exact .refl next
      · obtain rfl := Option.some_inj.mp (hactive.symm.trans howner)
        refine KeepsVersioned.trans ?_ (evict_keeps principalId capacity _ _)
        refine KeepsVersioned.trans ?_ (.foldl (applyStaged_keeps principalId) _ _)
        exact .of_eq rfl rfl rfl rfl rfl

/-! ## Runs of one viewer -/

/-- Rosters, plain snapshots and versioned snapshots of the viewer; no optimistic patches. -/
def OfViewer (principalId : JsString) : Operation → Prop
  | .applyStagedLegacyIngressBatch _ => True
  | .applyViewerOverlaySnapshot owner _ => owner = principalId
  | .applyVersionedViewerOverlaySnapshot owner _ => owner = principalId
  | _ => False

def isVersioned : Operation → Bool
  | .applyVersionedViewerOverlaySnapshot _ _ => true
  | _ => false

/-- The well-formed versioned snapshot that an operation brings. -/
def versionedSnapshot : Operation → Option CanonicalViewerSnapshot
  | .applyVersionedViewerOverlaySnapshot _ raw => canonicalSnapshot raw
  | _ => none

/-- Equal message and version imply equal emoji lists. -/
def ConsistentVersions (operations : List Operation) : Prop :=
  ∀ first ∈ operations.filterMap versionedSnapshot,
    ∀ second ∈ operations.filterMap versionedSnapshot,
      first.serverId = second.serverId → first.messageId = second.messageId →
        first.viewerVersion = second.viewerVersion → first.reactedEmojis = second.reactedEmojis

instance (operations : List Operation) : Decidable (ConsistentVersions operations) :=
  inferInstanceAs (Decidable (∀ first ∈ operations.filterMap versionedSnapshot,
    ∀ second ∈ operations.filterMap versionedSnapshot, _ → _ → _ → _))

def initialData (principalId : JsString) : ReactionReadModelData :=
  activatePrincipal (some principalId) emptyData

def viewerState (capacity : Nat) (principalId : JsString) (operations : List Operation) :
    ReactionReadModelData :=
  run (step capacity) (initialData principalId) operations

def noteApplied (state : ReactionReadModelData) (applied : List CanonicalViewerSnapshot)
    (operation : Operation) : List CanonicalViewerSnapshot :=
  match operation with
  | .applyVersionedViewerOverlaySnapshot principalId raw =>
      if (applyVersionedViewerOverlaySnapshot principalId raw state).2 = .applied then
        applied ++ (canonicalSnapshot raw).toList
      else applied
  | _ => applied

/-- The versioned snapshots that were answered `applied`, in order. -/
def appliedSnapshots (capacity : Nat) (principalId : JsString) (operations : List Operation) :
    List CanonicalViewerSnapshot :=
  (run (instrument (step capacity) noteApplied) (initialData principalId, []) operations).2

def OfMessage (serverId messageId : JsString) (snapshot : CanonicalViewerSnapshot) : Prop :=
  snapshot.serverId = serverId ∧ snapshot.messageId = messageId

instance (serverId messageId : JsString) : DecidablePred (OfMessage serverId messageId) :=
  fun _ => inferInstanceAs (Decidable (_ ∧ _))

def appliedTo (capacity : Nat) (principalId serverId messageId : JsString)
    (operations : List Operation) : List CanonicalViewerSnapshot :=
  (appliedSnapshots capacity principalId operations).filter (OfMessage serverId messageId)

/-- From the first applied snapshot of a message on, the message shows the emojis of the largest
version applied, replays of what arrived are stale or duplicates, and the last operation changed
nothing of it when it was a roster batch or a plain snapshot. -/
def ViewerRegister (capacity : Nat) (principalId : JsString) (operations : List Operation) :
    Prop :=
  ∀ serverId messageId,
    (appliedTo capacity principalId serverId messageId operations ≠ [] →
      ∃ latest ∈ appliedTo capacity principalId serverId messageId operations,
        (∀ other ∈ appliedTo capacity principalId serverId messageId operations,
          other.viewerVersion ≤ latest.viewerVersion) ∧
        Shows principalId serverId messageId latest.reactedEmojis
          (viewerState capacity principalId operations) ∧
        ∀ raw snapshot,
          .applyVersionedViewerOverlaySnapshot principalId raw ∈ operations →
            canonicalSnapshot raw = some snapshot → OfMessage serverId messageId snapshot →
              (applyVersionedViewerOverlaySnapshot principalId raw
                (viewerState capacity principalId operations)).2 ∈
                  ([.stale, .duplicate] : List VersionedReactionViewerSnapshotOutcome)) ∧
    ∀ before operation, operations = before ++ [operation] → isVersioned operation = false →
      appliedTo capacity principalId serverId messageId before ≠ [] →
        (∀ emoji,
          (viewerState capacity principalId operations).viewerOverlay.get
              (viewerOverlayKey principalId serverId messageId emoji) =
            (viewerState capacity principalId before).viewerOverlay.get
              (viewerOverlayKey principalId serverId messageId emoji)) ∧
        (viewerMessageKey principalId serverId messageId ∈
            (viewerState capacity principalId operations).viewerCompleteMessages ↔
          viewerMessageKey principalId serverId messageId ∈
            (viewerState capacity principalId before).viewerCompleteMessages) ∧
        (viewerState capacity principalId operations).viewerSnapshotEmojis.get
            (viewerMessageKey principalId serverId messageId) =
          (viewerState capacity principalId before).viewerSnapshotEmojis.get
            (viewerMessageKey principalId serverId messageId)

/-- A plain snapshot of a message that has a version brings the list that is remembered. -/
def Respects (principalId : JsString) (state : ReactionReadModelData) : Operation → Prop
  | .applyViewerOverlaySnapshot _ snapshot =>
      (state.viewerVersions.get
          (viewerMessageKey principalId snapshot.serverId snapshot.messageId)).isSome = true →
        state.viewerSnapshotEmojis.get
            (viewerMessageKey principalId snapshot.serverId snapshot.messageId) =
          some snapshot.reactedEmojis
  | _ => True

theorem viewerState_concat (capacity : Nat) (principalId : JsString) (operations : List Operation)
    (operation : Operation) :
    viewerState capacity principalId (operations ++ [operation]) =
      step capacity (viewerState capacity principalId operations) operation :=
  run_concat _ _ _ _

theorem appliedSnapshots_concat (capacity : Nat) (principalId : JsString)
    (operations : List Operation) (operation : Operation) :
    appliedSnapshots capacity principalId (operations ++ [operation]) =
      noteApplied (viewerState capacity principalId operations)
        (appliedSnapshots capacity principalId operations) operation := by
  rw [appliedSnapshots, run_concat, instrument, run_instrument_fst]
  rfl

/-! ## One step of a register -/

def Holds (principalId serverId messageId : JsString) (offered : List CanonicalViewerSnapshot)
    (state : ReactionReadModelData) : (latest : Option CanonicalViewerSnapshot) → Prop
  | none =>
      state.viewerVersions.get (viewerMessageKey principalId serverId messageId) = none ∧
        ∀ snapshot ∈ offered, ¬ OfMessage serverId messageId snapshot
  | some latest =>
      state.viewerVersions.get (viewerMessageKey principalId serverId messageId) =
          some latest.viewerVersion ∧
        Shows principalId serverId messageId latest.reactedEmojis state ∧ latest ∈ offered ∧
        OfMessage serverId messageId latest ∧
        ∀ snapshot ∈ offered, OfMessage serverId messageId snapshot →
          snapshot.viewerVersion ≤ latest.viewerVersion

section

variable {principalId serverId messageId : JsString} {offered : List CanonicalViewerSnapshot}
  {state next : ReactionReadModelData} {latest : Option CanonicalViewerSnapshot}

theorem Holds.keeps (h : Holds principalId serverId messageId offered state latest)
    (hkeeps : KeepsVersioned principalId state next) :
    Holds principalId serverId messageId offered next latest := by
  cases latest with
  | none => exact ⟨by rw [hkeeps.versions]; exact h.1, h.2⟩
  | some latest =>
      obtain ⟨hversion, hshows, hrest⟩ := h
      refine ⟨by rw [hkeeps.versions]; exact hversion, ?_, hrest⟩
      exact hkeeps.shows _ _ _ (by rw [hversion]; rfl) hshows

theorem Holds.offered_more (h : Holds principalId serverId messageId offered state latest)
    {snapshot : CanonicalViewerSnapshot}
    (hsmall : OfMessage serverId messageId snapshot →
      ∃ current, state.viewerVersions.get (viewerMessageKey principalId serverId messageId) =
        some current ∧ snapshot.viewerVersion ≤ current) :
    Holds principalId serverId messageId (offered ++ [snapshot]) state latest := by
  cases latest with
  | none =>
      refine ⟨h.1, ?_⟩
      rw [List.forall_mem_append, List.forall_mem_singleton]
      refine ⟨h.2, fun hmessage => ?_⟩
      obtain ⟨current, hcurrent, -⟩ := hsmall hmessage
      rw [h.1] at hcurrent
      cases hcurrent
  | some latest =>
      obtain ⟨hversion, hshows, hmem, hlatest, hmax⟩ := h
      refine ⟨hversion, hshows, List.mem_append_left _ hmem, hlatest, ?_⟩
      rw [List.forall_mem_append, List.forall_mem_singleton]
      refine ⟨hmax, fun hmessage => ?_⟩
      obtain ⟨current, hcurrent, hle⟩ := hsmall hmessage
      rw [hversion] at hcurrent
      exact hle.trans (Option.some_inj.mp hcurrent).ge

theorem writeVersionedSnapshot_written (principalId : JsString)
    (snapshot : CanonicalViewerSnapshot) (state : ReactionReadModelData) :
    Written principalId snapshot.serverId snapshot.messageId snapshot.reactedEmojis state
      (writeVersionedSnapshot principalId snapshot state) :=
  ⟨rfl, rfl, rfl⟩

theorem Holds.written (h : Holds principalId serverId messageId offered state latest)
    {snapshot : CanonicalViewerSnapshot}
    (hgreater : ∀ current,
      state.viewerVersions.get
          (viewerMessageKey principalId snapshot.serverId snapshot.messageId) = some current →
        current < snapshot.viewerVersion) :
    Holds principalId serverId messageId (offered ++ [snapshot])
      (writeVersionedSnapshot principalId snapshot state)
      (if OfMessage serverId messageId snapshot then
        offer CanonicalViewerSnapshot.viewerVersion latest snapshot else latest) := by
  have hwritten := writeVersionedSnapshot_written principalId snapshot state
  by_cases hmessage : OfMessage serverId messageId snapshot
  · rw [if_pos hmessage]
    obtain ⟨rfl, rfl⟩ := hmessage
    have hgreatest : ∀ other ∈ offered, OfMessage snapshot.serverId snapshot.messageId other →
        other.viewerVersion ≤ snapshot.viewerVersion := by
      intro other hmem hother
      cases latest with
      | none => exact absurd hother (h.2 other hmem)
      | some latest =>
          obtain ⟨hversion, -, -, -, hmax⟩ := h
          exact (hmax other hmem hother).trans (hgreater _ hversion).le
    have hoffer : offer CanonicalViewerSnapshot.viewerVersion latest snapshot = some snapshot := by
      cases latest with
      | none => rfl
      | some latest => exact offer_of_lt _ (hgreater _ h.1)
    rw [hoffer]
    refine ⟨InsertionMap.get_set_self _ _ _, hwritten.shows,
      List.mem_append_right _ (List.mem_singleton_self _), ⟨rfl, rfl⟩, ?_⟩
    rw [List.forall_mem_append, List.forall_mem_singleton]
    exact ⟨hgreatest, fun _ => Nat.le_refl _⟩
  · rw [if_neg hmessage]
    have hother : ¬ (serverId = snapshot.serverId ∧ messageId = snapshot.messageId) :=
      fun heq => hmessage ⟨heq.1.symm, heq.2.symm⟩
    have hkey : viewerMessageKey principalId serverId messageId ≠
        viewerMessageKey principalId snapshot.serverId snapshot.messageId := by
      rw [Ne, viewerMessageKey_inj]
      exact fun heq => hother heq.2
    have hversions : (writeVersionedSnapshot principalId snapshot state).viewerVersions.get
        (viewerMessageKey principalId serverId messageId) =
          state.viewerVersions.get (viewerMessageKey principalId serverId messageId) :=
      InsertionMap.get_set_of_ne _ _ hkey
    have hmore : Holds principalId serverId messageId (offered ++ [snapshot]) state latest :=
      h.offered_more fun heq => absurd heq hmessage
    cases latest with
    | none => exact ⟨hversions.trans hmore.1, hmore.2⟩
    | some latest =>
        exact ⟨hversions.trans hmore.1, hwritten.shows_other hother hmore.2.1, hmore.2.2⟩

end

/-- A well-formed snapshot of the active principal is written under a greater version, or it
changes nothing that is shown. -/
theorem applyVersioned_cases {principalId : JsString} {raw : VersionedReactionViewerSnapshot}
    {snapshot : CanonicalViewerSnapshot} {state : ReactionReadModelData}
    (hactive : state.activePrincipalId = some principalId)
    (hcanonical : canonicalSnapshot raw = some snapshot) :
    (applyVersionedViewerOverlaySnapshot principalId raw state =
        (writeVersionedSnapshot principalId snapshot state, .applied) ∧
      ∀ current, state.viewerVersions.get
          (viewerMessageKey principalId snapshot.serverId snapshot.messageId) = some current →
        current < snapshot.viewerVersion) ∨
    ((applyVersionedViewerOverlaySnapshot principalId raw state).2 ≠ .applied ∧
      KeepsVersioned principalId state
        (applyVersionedViewerOverlaySnapshot principalId raw state).1 ∧
      ∃ current, state.viewerVersions.get
          (viewerMessageKey principalId snapshot.serverId snapshot.messageId) = some current ∧
        snapshot.viewerVersion ≤ current) := by
  simp only [applyVersionedViewerOverlaySnapshot, hcanonical, hactive, ne_eq, not_true, if_false]
  cases hcurrent : state.viewerVersions.get
      (viewerMessageKey principalId snapshot.serverId snapshot.messageId) with
  | none => exact .inl ⟨rfl, by simp⟩
  | some current =>
      simp only [Option.some_inj, forall_eq', exists_eq_left']
      rcases Nat.lt_trichotomy snapshot.viewerVersion current with hlt | heq | hgt
      · rw [if_pos hlt]
        exact .inr ⟨by simp, .refl state, hlt.le⟩
      · rw [if_neg heq.not_lt, if_pos heq.symm]
        refine .inr ⟨?_, ?_, heq.le⟩
        · split <;> simp
        · split
          · exact .refl state
          · exact .of_eq rfl rfl rfl rfl rfl
      · rw [if_neg hgt.not_gt, if_neg hgt.ne]
        exact .inl ⟨rfl, hgt⟩

theorem snapshot_keeps {principalId : JsString} {snapshot : ReactionViewerOverlaySnapshot}
    {state : ReactionReadModelData}
    (hrespects : (state.viewerVersions.get
        (viewerMessageKey principalId snapshot.serverId snapshot.messageId)).isSome = true →
      state.viewerSnapshotEmojis.get
          (viewerMessageKey principalId snapshot.serverId snapshot.messageId) =
        some snapshot.reactedEmojis) :
    KeepsVersioned principalId state (applyViewerOverlaySnapshot principalId snapshot state) := by
  by_cases hactive : state.activePrincipalId ≠ some principalId
  · rw [applyViewerOverlaySnapshot, if_pos hactive]
    exact .refl state
  · have hwritten : Written principalId snapshot.serverId snapshot.messageId
        snapshot.reactedEmojis state (applyViewerOverlaySnapshot principalId snapshot state) := by
      rw [applyViewerOverlaySnapshot, if_neg hactive]
      exact ⟨rfl, rfl, rfl⟩
    refine ⟨?_, ?_, fun serverId messageId emojis hsome hshows => ?_⟩
    · rw [applyViewerOverlaySnapshot, if_neg hactive]
    · rw [applyViewerOverlaySnapshot, if_neg hactive]
    · by_cases hmessage : serverId = snapshot.serverId ∧ messageId = snapshot.messageId
      · obtain ⟨rfl, rfl⟩ := hmessage
        have hsame := hshows.2.2.symm.trans (hrespects hsome)
        rw [Option.some_inj.mp hsame]
        exact hwritten.shows
      · exact hwritten.shows_other hmessage hshows

theorem step_keeps {capacity : Nat} {principalId : JsString} {state : ReactionReadModelData}
    {operation : Operation} (hactive : state.activePrincipalId = some principalId)
    (hviewer : OfViewer principalId operation) (hrespects : Respects principalId state operation)
    (hplain : isVersioned operation = false) :
    KeepsVersioned principalId state (step capacity state operation) := by
  cases operation with
  | applyStagedLegacyIngressBatch stagedBatch =>
      exact batch_keeps principalId capacity stagedBatch hactive
  | applyViewerOverlaySnapshot owner snapshot =>
      obtain rfl := hviewer
      exact snapshot_keeps hrespects
  | applyVersionedViewerOverlaySnapshot owner raw => cases hplain
  | activatePrincipal owner => exact hviewer.elim
  | applyViewerReactionPatch owner serverId messageId emoji reactedByMe => exact hviewer.elim
  | clearViewerReactionPatch owner serverId messageId emoji => exact hviewer.elim
  | clearParentScope owner parentScopeKey => exact hviewer.elim
  | reset => exact hviewer.elim

/-! ## Whole runs -/

def registerOf (capacity : Nat) (principalId serverId messageId : JsString)
    (operations : List Operation) : Option CanonicalViewerSnapshot :=
  offerAll CanonicalViewerSnapshot.viewerVersion none
    (appliedTo capacity principalId serverId messageId operations)

structure Agrees (capacity : Nat) (principalId : JsString) (operations : List Operation) :
    Prop where
  active : (viewerState capacity principalId operations).activePrincipalId = some principalId
  holds : ∀ serverId messageId, Holds principalId serverId messageId
    (operations.filterMap versionedSnapshot) (viewerState capacity principalId operations)
    (registerOf capacity principalId serverId messageId operations)

section

variable {capacity : Nat} {principalId : JsString} {operations : List Operation}

theorem agrees_nil : Agrees capacity principalId [] :=
  ⟨rfl, fun _ _ => ⟨rfl, by simp⟩⟩

theorem Agrees.keeps (h : Agrees capacity principalId operations) {operation : Operation}
    (hkeeps : KeepsVersioned principalId (viewerState capacity principalId operations)
      (step capacity (viewerState capacity principalId operations) operation))
    (happlied : noteApplied (viewerState capacity principalId operations)
      (appliedSnapshots capacity principalId operations) operation =
        appliedSnapshots capacity principalId operations)
    (hoffered : ∀ snapshot, versionedSnapshot operation = some snapshot → ∃ current,
      (viewerState capacity principalId operations).viewerVersions.get
          (viewerMessageKey principalId snapshot.serverId snapshot.messageId) = some current ∧
        snapshot.viewerVersion ≤ current) :
    Agrees capacity principalId (operations ++ [operation]) := by
  refine ⟨?_, fun serverId messageId => ?_⟩
  · rw [viewerState_concat, hkeeps.active, h.active]
  · have hregister : registerOf capacity principalId serverId messageId
        (operations ++ [operation]) = registerOf capacity principalId serverId messageId
          operations := by
      rw [registerOf, appliedTo, appliedSnapshots_concat, happlied]
      rfl
    rw [hregister, viewerState_concat, List.filterMap_append]
    cases hsnapshot : versionedSnapshot operation with
    | none => simpa [hsnapshot] using (h.holds serverId messageId).keeps hkeeps
    | some snapshot =>
        rw [show [operation].filterMap versionedSnapshot = [snapshot] by simp [hsnapshot]]
        refine ((h.holds serverId messageId).offered_more ?_).keeps hkeeps
        rintro ⟨rfl, rfl⟩
        exact hoffered snapshot hsnapshot

theorem Agrees.written (h : Agrees capacity principalId operations)
    {raw : VersionedReactionViewerSnapshot} {snapshot : CanonicalViewerSnapshot}
    (hcanonical : canonicalSnapshot raw = some snapshot)
    (hwritten : applyVersionedViewerOverlaySnapshot principalId raw
        (viewerState capacity principalId operations) =
      (writeVersionedSnapshot principalId snapshot (viewerState capacity principalId operations),
        .applied))
    (hgreater : ∀ current, (viewerState capacity principalId operations).viewerVersions.get
        (viewerMessageKey principalId snapshot.serverId snapshot.messageId) = some current →
      current < snapshot.viewerVersion) :
    Agrees capacity principalId
      (operations ++ [.applyVersionedViewerOverlaySnapshot principalId raw]) := by
  have hstep : viewerState capacity principalId
      (operations ++ [.applyVersionedViewerOverlaySnapshot principalId raw]) =
        writeVersionedSnapshot principalId snapshot
          (viewerState capacity principalId operations) := by
    rw [viewerState_concat, step, hwritten]
  have happlied : appliedSnapshots capacity principalId
      (operations ++ [.applyVersionedViewerOverlaySnapshot principalId raw]) =
        appliedSnapshots capacity principalId operations ++ [snapshot] := by
    rw [appliedSnapshots_concat, noteApplied, hwritten, hcanonical]
    rfl
  refine ⟨?_, fun serverId messageId => ?_⟩
  · rw [hstep]
    exact h.active
  · have hregister : registerOf capacity principalId serverId messageId
        (operations ++ [.applyVersionedViewerOverlaySnapshot principalId raw]) =
          if OfMessage serverId messageId snapshot then
            offer CanonicalViewerSnapshot.viewerVersion
              (registerOf capacity principalId serverId messageId operations) snapshot
          else registerOf capacity principalId serverId messageId operations := by
      rw [registerOf, appliedTo, happlied, List.filter_append]
      by_cases hmessage : OfMessage serverId messageId snapshot
      · rw [if_pos hmessage, List.filter_cons_of_pos (by simpa using hmessage), List.filter_nil,
          offerAll, List.foldl_append]
        rfl
      · rw [if_neg hmessage, List.filter_cons_of_neg (by simpa using hmessage), List.filter_nil,
          List.append_nil]
        rfl
    rw [hregister, hstep, List.filterMap_append]
    rw [show [Operation.applyVersionedViewerOverlaySnapshot principalId raw].filterMap
      versionedSnapshot = [snapshot] by simp [versionedSnapshot, hcanonical]]
    exact (h.holds serverId messageId).written hgreater

theorem Agrees.step (h : Agrees capacity principalId operations) {operation : Operation}
    (hviewer : OfViewer principalId operation)
    (hrespects : Respects principalId (viewerState capacity principalId operations) operation) :
    Agrees capacity principalId (operations ++ [operation]) := by
  cases hplain : isVersioned operation with
  | false =>
      refine h.keeps (step_keeps h.active hviewer hrespects hplain) ?_ ?_
      · cases operation <;> first | rfl | cases hplain
      · intro snapshot hsnapshot
        cases operation <;> first | cases hsnapshot | cases hplain
  | true =>
      cases operation with
      | applyVersionedViewerOverlaySnapshot owner raw =>
          obtain rfl := hviewer
          cases hcanonical : canonicalSnapshot raw with
          | none =>
              have hmalformed : applyVersionedViewerOverlaySnapshot owner raw
                  (viewerState capacity owner operations) =
                    (recordConflict owner raw .malformed (viewerState capacity owner operations),
                      .conflict .malformed) := by
                rw [applyVersionedViewerOverlaySnapshot, hcanonical]
              refine h.keeps ?_ ?_ ?_
              · rw [ReactionReadModels.step, hmalformed]
                exact .of_eq rfl rfl rfl rfl rfl
              · rw [noteApplied, hmalformed, if_neg nofun]
              · simp [versionedSnapshot, hcanonical]
          | some snapshot =>
              rcases applyVersioned_cases h.active hcanonical with
                ⟨hwritten, hgreater⟩ | ⟨hanswer, hkeeps, hcurrent⟩
              · exact h.written hcanonical hwritten hgreater
              · refine h.keeps hkeeps ?_ ?_
                · rw [noteApplied, if_neg hanswer]
                · rintro other hother
                  rw [versionedSnapshot, hcanonical, Option.some_inj] at hother
                  rwa [← hother]
      | _ => cases hplain

theorem agrees_of_admitted (hviewer : ∀ operation ∈ operations, OfViewer principalId operation)
    (hrespects : Admitted (ReactionReadModels.step capacity) (Respects principalId)
      (initialData principalId) operations) :
    Agrees capacity principalId operations := by
  induction operations using List.reverseRecOn with
  | nil => exact agrees_nil
  | append_singleton operations operation ih =>
      rw [List.forall_mem_append, List.forall_mem_singleton] at hviewer
      obtain ⟨hbefore, hlast⟩ := admitted_concat.mp hrespects
      exact (ih hviewer.1 hbefore).step hviewer.2 hlast

theorem Agrees.latest (h : Agrees capacity principalId operations) {serverId messageId : JsString}
    (happlied : appliedTo capacity principalId serverId messageId operations ≠ []) :
    ∃ latest, registerOf capacity principalId serverId messageId operations = some latest ∧
      Holds principalId serverId messageId (operations.filterMap versionedSnapshot)
        (viewerState capacity principalId operations) (some latest) := by
  obtain ⟨latest, hlatest⟩ :=
    offerAll_isSome CanonicalViewerSnapshot.viewerVersion none (.inr happlied)
  have hholds := h.holds serverId messageId
  rw [registerOf, hlatest] at hholds
  exact ⟨latest, hlatest, hholds⟩

theorem Agrees.replay (h : Agrees capacity principalId operations)
    (hconsistent : ConsistentVersions operations) {raw : VersionedReactionViewerSnapshot}
    (hraw : .applyVersionedViewerOverlaySnapshot principalId raw ∈ operations)
    {snapshot latest : CanonicalViewerSnapshot} (hcanonical : canonicalSnapshot raw = some snapshot)
    (hlatest : Holds principalId snapshot.serverId snapshot.messageId
      (operations.filterMap versionedSnapshot) (viewerState capacity principalId operations)
      (some latest)) :
    (applyVersionedViewerOverlaySnapshot principalId raw
      (viewerState capacity principalId operations)).2 ∈
        ([.stale, .duplicate] : List VersionedReactionViewerSnapshotOutcome) := by
  obtain ⟨hversion, hshows, hmem, hmessage, hmax⟩ := hlatest
  have hoffered : snapshot ∈ operations.filterMap versionedSnapshot :=
    List.mem_filterMap.mpr ⟨_, hraw, hcanonical⟩
  rw [applyVersionedViewerOverlaySnapshot, hcanonical]
  simp only [h.active, ne_eq, not_true, if_false, hversion]
  rcases Nat.lt_or_eq_of_le (hmax snapshot hoffered ⟨rfl, rfl⟩) with hlt | heq
  · rw [if_pos hlt]
    exact List.mem_cons_self
  · have hemojis := hconsistent snapshot hoffered latest hmem hmessage.1.symm hmessage.2.symm heq
    rw [if_neg heq.not_lt, if_pos heq.symm, hshows.2.2, hemojis, Option.getD_some, if_pos rfl]
    exact List.mem_cons_of_mem _ List.mem_cons_self

/-- Runs in which no plain snapshot brings another list to a versioned message. -/
theorem viewerRegister_of_respects
    (hviewer : ∀ operation ∈ operations, OfViewer principalId operation)
    (hconsistent : ConsistentVersions operations)
    (hrespects : Admitted (ReactionReadModels.step capacity) (Respects principalId)
      (initialData principalId) operations) :
    ViewerRegister capacity principalId operations := by
  have hagrees := agrees_of_admitted hviewer hrespects
  intro serverId messageId
  constructor
  · intro happlied
    obtain ⟨latest, hlatest, hholds⟩ := hagrees.latest happlied
    obtain ⟨hmem, -, hmax⟩ := offerAll_spec _ hlatest
    refine ⟨latest, hmem.resolve_left nofun, hmax, hholds.2.1, ?_⟩
    rintro raw snapshot hraw hcanonical ⟨rfl, rfl⟩
    exact hagrees.replay hconsistent hraw hcanonical hholds
  · rintro before operation rfl hplain happlied
    obtain ⟨hbefore, hlast⟩ := admitted_concat.mp hrespects
    rw [List.forall_mem_append, List.forall_mem_singleton] at hviewer
    have hagreesBefore := agrees_of_admitted hviewer.1 hbefore
    obtain ⟨latest, -, hversion, hshows, -⟩ := hagreesBefore.latest happlied
    have hkeeps := @step_keeps capacity _ _ _ hagreesBefore.active hviewer.2 hlast hplain
    have hafter := hkeeps.shows _ _ _ (by rw [hversion]; rfl) hshows
    rw [viewerState_concat]
    refine ⟨fun emoji => ?_, iff_of_true hafter.2.1 hshows.2.1, ?_⟩
    · rw [hafter.1, hshows.1]
    · rw [hafter.2.2, hshows.2.2]

end

def versionedOf (version : Nat) (emojis : List JsString) : Operation :=
  .applyVersionedViewerOverlaySnapshot (js "ann")
    { serverId := .string (js "s")
      messageId := .string (js "m")
      viewerVersion := .number (.ofNat version)
      reactedEmojis := .array (emojis.map .string) }

def plainOf (emojis : List JsString) : Operation :=
  .applyViewerOverlaySnapshot (js "ann") ⟨js "s", js "m", emojis⟩

/-- A plain snapshot that brings the list of the greatest version, between two versions. -/
theorem viewerRegister_plainBetweenVersions :
    ViewerRegister 1 (js "ann")
      [versionedOf 1 [js "+"], plainOf [js "+"], versionedOf 2 [], versionedOf 1 [js "+"]] :=
  viewerRegister_of_respects (by simp [versionedOf, plainOf, OfViewer]) (by decide)
    ⟨trivial, fun _ => by decide, trivial, trivial, trivial⟩

/-- A plain snapshot with no emoji empties the overlay of a versioned message. -/
theorem not_viewerRegister_plainOverVersion :
    ¬ ∀ capacity principalId operations, 1 ≤ capacity →
      (∀ operation ∈ operations, OfViewer principalId operation) →
        ConsistentVersions operations → ViewerRegister capacity principalId operations := by
  intro h
  have hregister := h 1 (js "ann") [versionedOf 1 [js "+"], plainOf []] (Nat.le_refl 1)
    (by simp [versionedOf, plainOf, OfViewer]) (by decide)
  obtain ⟨latest, hmem, -, ⟨hoverlay, -⟩, -⟩ := (hregister (js "s") (js "m")).1 (by decide)
  have hlatest : latest = ⟨js "s", js "m", 1, [js "+"]⟩ := List.mem_singleton.mp hmem
  have hshown := hoverlay (js "+")
  rw [hlatest] at hshown
  exact absurd hshown (by decide)

end Raft.ReactionReadModels
