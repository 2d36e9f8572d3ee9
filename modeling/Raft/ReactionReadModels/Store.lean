import Mathlib.Data.Finset.Basic
import Mathlib.Data.Finset.Sort
import Raft.Foundation.InsertionMap
import Raft.Foundation.JsComparison
import Raft.Foundation.JsonKeys
import Raft.Foundation.JsText

/-!
# The reaction read models

What a client keeps about reactions next to the messages: the viewer's own
reactions, written by legacy rosters, by plain snapshots and by versioned ones,
and a bounded cache of who reacted, indexed by the parent scope of a message.
-/

namespace Raft.ReactionReadModels

open Raft.Foundation

structure SyncScopeKey where
  serverId : JsString
  scopeKind : JsString
  scopeId : JsString
  deriving DecidableEq

structure MessageRef where
  serverId : JsString
  id : JsString
  deriving DecidableEq

structure MessageReactionActorsDiscussion where
  root : MessageRef
  emoji : JsString
  parentScopeKey : SyncScopeKey
  deriving DecidableEq

structure ReactionActorRef where
  id : JsString
  displayName : JsString
  deriving DecidableEq

inductive CacheSource where
  | legacyRoster
  | readPort
  deriving DecidableEq

structure ReactionActorsCacheEntry where
  principalId : JsString
  discussion : MessageReactionActorsDiscussion
  actors : List ReactionActorRef
  discussionVersion : Option JsString
  nextPageCursor : Option JsString
  source : CacheSource
  deriving DecidableEq

structure ReactionViewerOverlaySnapshot where
  serverId : JsString
  messageId : JsString
  reactedEmojis : List JsString
  deriving DecidableEq

structure ReactionActorsReadCacheSeed where
  parentScopeKey : SyncScopeKey
  messageId : JsString
  emoji : JsString
  actors : List ReactionActorRef
  deriving DecidableEq

inductive ReactionNormalizationViolationKind where
  | duplicateEmoji
  | emptyEmoji
  | invalidCount
  | parallelRosterLengthMismatch
  | emptyActorId
  | duplicateActorId
  | emptyActorDisplayName
  | actorCountMismatch
  deriving DecidableEq

structure ReactionNormalizationViolation where
  kind : ReactionNormalizationViolationKind
  emoji : JsString
  deriving DecidableEq

structure NormalizeLegacyReactionRosterResult where
  viewerOverlay : Option ReactionViewerOverlaySnapshot
  readCacheSeed : List ReactionActorsReadCacheSeed
  violations : List ReactionNormalizationViolation
  deriving DecidableEq

structure StagedLegacyReactionIngress where
  principalId : JsString
  messageId : JsString
  normalized : NormalizeLegacyReactionRosterResult
  deriving DecidableEq

/-- A versioned snapshot as it arrives, its fields not yet looked at. -/
structure VersionedReactionViewerSnapshot where
  serverId : JsValue
  messageId : JsValue
  viewerVersion : JsValue
  reactedEmojis : JsValue

inductive ConflictReason where
  | malformed
  | equalVersionDifferentPayload
  | principalMismatch
  deriving DecidableEq

inductive VersionedReactionViewerSnapshotOutcome where
  | applied
  | duplicate
  | stale
  | conflict (reason : ConflictReason)
  deriving DecidableEq

structure ReactionViewerSnapshotConflict where
  principalId : JsString
  snapshot : VersionedReactionViewerSnapshot
  reason : ConflictReason

structure ReactionReadModelData where
  activePrincipalId : Option JsString
  viewerOverlay : InsertionMap JsString Bool
  viewerCompleteMessages : Finset JsString
  viewerVersions : InsertionMap JsString Nat
  viewerSnapshotEmojis : InsertionMap JsString (List JsString)
  actorCache : InsertionMap JsString ReactionActorsCacheEntry
  cacheOrder : List JsString
  parentIndex : InsertionMap JsString (Finset JsString)
  normalizationViolations : List ReactionNormalizationViolation
  viewerSnapshotConflicts : List ReactionViewerSnapshotConflict

def emptyData : ReactionReadModelData where
  activePrincipalId := none
  viewerOverlay := .empty
  viewerCompleteMessages := ∅
  viewerVersions := .empty
  viewerSnapshotEmojis := .empty
  actorCache := .empty
  cacheOrder := []
  parentIndex := .empty
  normalizationViolations := []
  viewerSnapshotConflicts := []

/-! ## Keys -/

def viewerOverlayKey (principalId serverId messageId emoji : JsString) : JsString :=
  jsonStrings [principalId, serverId, messageId, emoji]

def viewerMessageKey (principalId serverId messageId : JsString) : JsString :=
  jsonStrings [principalId, serverId, messageId]

def overlayKeyMatchesMessage (key principalId serverId messageId : JsString) : Bool :=
  match readStrings key with
  | some (first :: second :: third :: _) =>
      first = principalId && second = serverId && third = messageId
  | _ => false

def reactionActorsDiscussionKey (discussion : MessageReactionActorsDiscussion) : JsString :=
  jsonStrings [discussion.root.serverId, discussion.parentScopeKey.scopeKind,
    discussion.parentScopeKey.scopeId, discussion.root.id, js "reaction-actors",
    discussion.emoji]

def syncScopeKeyString (key : SyncScopeKey) : JsString :=
  jsonStrings [key.serverId, key.scopeKind, key.scopeId]

def actorCacheKey (principalId : JsString) (discussion : MessageReactionActorsDiscussion) :
    JsString :=
  jsonStrings [principalId, reactionActorsDiscussionKey discussion]

def parentIndexKey (principalId : JsString) (parentScopeKey : SyncScopeKey) : JsString :=
  jsonStrings [principalId, syncScopeKeyString parentScopeKey]

theorem viewerOverlayKey_inj {principalId serverId messageId emoji principalId' serverId'
    messageId' emoji' : JsString} :
    viewerOverlayKey principalId serverId messageId emoji =
        viewerOverlayKey principalId' serverId' messageId' emoji' ↔
      principalId = principalId' ∧ serverId = serverId' ∧ messageId = messageId' ∧
        emoji = emoji' := by
  simp [viewerOverlayKey, jsonStrings_injective.eq_iff]

theorem viewerMessageKey_inj {principalId serverId messageId principalId' serverId'
    messageId' : JsString} :
    viewerMessageKey principalId serverId messageId =
        viewerMessageKey principalId' serverId' messageId' ↔
      principalId = principalId' ∧ serverId = serverId' ∧ messageId = messageId' := by
  simp [viewerMessageKey, jsonStrings_injective.eq_iff]

theorem overlayKeyMatchesMessage_viewerOverlayKey (principalId serverId messageId emoji
    principalId' serverId' messageId' : JsString) :
    overlayKeyMatchesMessage (viewerOverlayKey principalId serverId messageId emoji) principalId'
        serverId' messageId' = true ↔
      principalId = principalId' ∧ serverId = serverId' ∧ messageId = messageId' := by
  simp [overlayKeyMatchesMessage, viewerOverlayKey, readStrings_jsonStrings, and_assoc]

theorem parentIndexKey_inj {principalId principalId' : JsString} {scope scope' : SyncScopeKey} :
    parentIndexKey principalId scope = parentIndexKey principalId' scope' ↔
      principalId = principalId' ∧ scope = scope' := by
  cases scope
  cases scope'
  simp [parentIndexKey, syncScopeKeyString, jsonStrings_injective.eq_iff]

/-! ## The viewer's reactions -/

/-- The entries of the message give way to the emojis of a snapshot. -/
def replaceMessageOverlay (principalId serverId messageId : JsString)
    (reactedEmojis : List JsString) (viewerOverlay : InsertionMap JsString Bool) :
    InsertionMap JsString Bool :=
  let cleared := viewerOverlay.keys.foldl (fun overlay key =>
    if overlayKeyMatchesMessage key principalId serverId messageId then overlay.delete key
    else overlay) viewerOverlay
  reactedEmojis.foldl (fun overlay emoji =>
    overlay.set (viewerOverlayKey principalId serverId messageId emoji) true) cleared

def applyViewerOverlaySnapshot (principalId : JsString)
    (snapshot : ReactionViewerOverlaySnapshot) (state : ReactionReadModelData) :
    ReactionReadModelData :=
  if state.activePrincipalId ≠ some principalId then state
  else
    let messageKey := viewerMessageKey principalId snapshot.serverId snapshot.messageId
    { state with
      viewerOverlay := replaceMessageOverlay principalId snapshot.serverId snapshot.messageId
        snapshot.reactedEmojis state.viewerOverlay
      viewerCompleteMessages := insert messageKey state.viewerCompleteMessages
      viewerSnapshotEmojis := state.viewerSnapshotEmojis.set messageKey snapshot.reactedEmojis }

structure CanonicalViewerSnapshot where
  serverId : JsString
  messageId : JsString
  viewerVersion : Nat
  reactedEmojis : List JsString
  deriving DecidableEq

def canonicalText : JsValue → Option JsString
  | .string text => if trim text = text ∧ text ≠ [] then some text else none
  | _ => none

def canonicalVersion : JsValue → Option Nat
  | .number value => value.safeNat
  | _ => none

def canonicalEmojis : (previous : Option JsString) → List JsValue → Option (List JsString)
  | _, [] => some []
  | previous, item :: items => do
      let emoji ← canonicalText item
      if previous.all (· < emoji) then
        let emojis ← canonicalEmojis (some emoji) items
        some (emoji :: emojis)
      else none

/-- The snapshot, when it passes every check of its form. -/
def canonicalSnapshot (snapshot : VersionedReactionViewerSnapshot) :
    Option CanonicalViewerSnapshot := do
  let items ← match snapshot.reactedEmojis with
    | .array items => some items
    | _ => none
  let serverId ← canonicalText snapshot.serverId
  let messageId ← canonicalText snapshot.messageId
  let viewerVersion ← canonicalVersion snapshot.viewerVersion
  let reactedEmojis ← canonicalEmojis none items
  some { serverId, messageId, viewerVersion, reactedEmojis }

def recordConflict (principalId : JsString) (snapshot : VersionedReactionViewerSnapshot)
    (reason : ConflictReason) (state : ReactionReadModelData) : ReactionReadModelData :=
  { state with
    viewerSnapshotConflicts := state.viewerSnapshotConflicts ++ [⟨principalId, snapshot, reason⟩] }

def writeVersionedSnapshot (principalId : JsString) (snapshot : CanonicalViewerSnapshot)
    (state : ReactionReadModelData) : ReactionReadModelData :=
  let messageKey := viewerMessageKey principalId snapshot.serverId snapshot.messageId
  { state with
    viewerOverlay := replaceMessageOverlay principalId snapshot.serverId snapshot.messageId
      snapshot.reactedEmojis state.viewerOverlay
    viewerCompleteMessages := insert messageKey state.viewerCompleteMessages
    viewerVersions := state.viewerVersions.set messageKey snapshot.viewerVersion
    viewerSnapshotEmojis := state.viewerSnapshotEmojis.set messageKey snapshot.reactedEmojis }

def applyVersionedViewerOverlaySnapshot (principalId : JsString)
    (raw : VersionedReactionViewerSnapshot) (state : ReactionReadModelData) :
    ReactionReadModelData × VersionedReactionViewerSnapshotOutcome :=
  match canonicalSnapshot raw with
  | none => (recordConflict principalId raw .malformed state, .conflict .malformed)
  | some snapshot =>
      if state.activePrincipalId ≠ some principalId then (state, .conflict .principalMismatch)
      else
        let messageKey := viewerMessageKey principalId snapshot.serverId snapshot.messageId
        match state.viewerVersions.get messageKey with
        | none => (writeVersionedSnapshot principalId snapshot state, .applied)
        | some currentVersion =>
            if snapshot.viewerVersion < currentVersion then (state, .stale)
            else if currentVersion = snapshot.viewerVersion then
              let currentEmojis := (state.viewerSnapshotEmojis.get messageKey).getD []
              if jsonStrings currentEmojis = jsonStrings snapshot.reactedEmojis then
                (state, .duplicate)
              else
                (recordConflict principalId raw .equalVersionDifferentPayload state,
                  .conflict .equalVersionDifferentPayload)
            else (writeVersionedSnapshot principalId snapshot state, .applied)

def applyViewerReactionPatch (principalId serverId messageId emoji : JsString)
    (reactedByMe : Bool) (state : ReactionReadModelData) : ReactionReadModelData :=
  if state.activePrincipalId ≠ some principalId then state
  else { state with
    viewerOverlay := state.viewerOverlay.set
      (viewerOverlayKey principalId serverId messageId emoji) reactedByMe }

def clearViewerReactionPatch (principalId serverId messageId emoji : JsString)
    (state : ReactionReadModelData) : ReactionReadModelData :=
  if state.activePrincipalId ≠ some principalId then state
  else { state with
    viewerOverlay := state.viewerOverlay.delete
      (viewerOverlayKey principalId serverId messageId emoji) }

/-! ## The actor cache -/

def removeFromParentIndex (parentIndex : InsertionMap JsString (Finset JsString))
    (entry : Option ReactionActorsCacheEntry) (cacheKey : JsString) :
    InsertionMap JsString (Finset JsString) :=
  match entry with
  | none => parentIndex
  | some entry =>
      let parentKey := parentIndexKey entry.principalId entry.discussion.parentScopeKey
      let indexed := ((parentIndex.get parentKey).getD ∅).erase cacheKey
      if indexed = ∅ then parentIndex.delete parentKey else parentIndex.set parentKey indexed

def seedDiscussion (seed : ReactionActorsReadCacheSeed) : MessageReactionActorsDiscussion where
  root := ⟨seed.parentScopeKey.serverId, seed.messageId⟩
  emoji := seed.emoji
  parentScopeKey := seed.parentScopeKey

def seedActors (principalId : JsString) (state : ReactionReadModelData)
    (seed : ReactionActorsReadCacheSeed) : ReactionReadModelData :=
  let discussion := seedDiscussion seed
  let cacheKey := actorCacheKey principalId discussion
  let parentIndex :=
    removeFromParentIndex state.parentIndex (state.actorCache.get cacheKey) cacheKey
  let parentKey := parentIndexKey principalId seed.parentScopeKey
  { state with
    actorCache := state.actorCache.set cacheKey
      { principalId, discussion, actors := seed.actors, discussionVersion := none,
        nextPageCursor := none, source := .legacyRoster }
    cacheOrder := state.cacheOrder.filter (· ≠ cacheKey) ++ [cacheKey]
    parentIndex := parentIndex.set parentKey
      (insert cacheKey ((parentIndex.get parentKey).getD ∅)) }

/-- A roster's snapshot is written only while the message has no version. -/
def applyRosterOverlay (principalId : JsString) (state : ReactionReadModelData)
    (snapshot : ReactionViewerOverlaySnapshot) : ReactionReadModelData :=
  let versionKey := viewerMessageKey principalId snapshot.serverId snapshot.messageId
  if (state.viewerVersions.get versionKey).isSome then state
  else { state with
    viewerOverlay := replaceMessageOverlay principalId snapshot.serverId snapshot.messageId
      snapshot.reactedEmojis state.viewerOverlay
    viewerCompleteMessages := insert versionKey state.viewerCompleteMessages
    viewerSnapshotEmojis := state.viewerSnapshotEmojis.set versionKey snapshot.reactedEmojis }

def applyStaged (principalId : JsString) (state : ReactionReadModelData)
    (staged : StagedLegacyReactionIngress) : ReactionReadModelData :=
  let state := { state with
    normalizationViolations := state.normalizationViolations ++ staged.normalized.violations }
  let state := staged.normalized.viewerOverlay.elim state (applyRosterOverlay principalId state)
  staged.normalized.readCacheSeed.foldl (seedActors principalId) state

def evict (capacity : Nat) : (cacheOrder : List JsString) → ReactionReadModelData →
    ReactionReadModelData
  | [], state => { state with cacheOrder := [] }
  | evictedKey :: rest, state =>
      if (evictedKey :: rest).length ≤ capacity then
        { state with cacheOrder := evictedKey :: rest }
      else if evictedKey = [] then { state with cacheOrder := rest }
      else evict capacity rest { state with
        actorCache := state.actorCache.delete evictedKey
        parentIndex := removeFromParentIndex state.parentIndex (state.actorCache.get evictedKey)
          evictedKey }

def applyStagedLegacyIngressBatch (capacity : Nat)
    (stagedBatch : List StagedLegacyReactionIngress) (state : ReactionReadModelData) :
    Except JsString ReactionReadModelData :=
  match stagedBatch with
  | [] => .ok state
  | first :: _ =>
      if stagedBatch.any (·.principalId ≠ first.principalId) then
        .error (js "reaction ingress batch must belong to one principal")
      else if state.activePrincipalId ≠ some first.principalId then
        .error (js "reaction ingress principal mismatch")
      else
        let state := stagedBatch.foldl (applyStaged first.principalId)
          { state with normalizationViolations := [] }
        .ok (evict capacity state.cacheOrder state)

theorem applyBatch_cases {capacity : Nat} {stagedBatch : List StagedLegacyReactionIngress}
    {state next : ReactionReadModelData}
    (h : applyStagedLegacyIngressBatch capacity stagedBatch state = .ok next) :
    (stagedBatch = [] ∧ next = state) ∨
      ∃ principalId, state.activePrincipalId = some principalId ∧
        (∀ staged ∈ stagedBatch, staged.principalId = principalId) ∧
        next = evict capacity
          (stagedBatch.foldl (applyStaged principalId)
            { state with normalizationViolations := [] }).cacheOrder
          (stagedBatch.foldl (applyStaged principalId)
            { state with normalizationViolations := [] }) := by
  rw [applyStagedLegacyIngressBatch.eq_def] at h
  split at h
  · exact .inl ⟨rfl, (Except.ok.inj h).symm⟩
  · next first rest =>
      split at h
      · cases h
      · next hmixed =>
          split at h
          · cases h
          · next hactive =>
              exact .inr ⟨first.principalId, not_not.mp hactive, by simpa using hmixed,
                (Except.ok.inj h).symm⟩

def clearParentScope (principalId : JsString) (parentScopeKey : SyncScopeKey)
    (state : ReactionReadModelData) : ReactionReadModelData :=
  let parentKey := parentIndexKey principalId parentScopeKey
  match state.parentIndex.get parentKey with
  | none => state
  | some indexed =>
      { state with
        actorCache := state.actorCache.filterKeys (· ∉ indexed)
        parentIndex := state.parentIndex.delete parentKey
        cacheOrder := state.cacheOrder.filter (· ∉ indexed) }

/-! ## Operations -/

def activatePrincipal (principalId : Option JsString) (state : ReactionReadModelData) :
    ReactionReadModelData :=
  if state.activePrincipalId = principalId then state
  else { emptyData with activePrincipalId := principalId }

inductive Operation where
  | activatePrincipal (principalId : Option JsString)
  | applyStagedLegacyIngressBatch (stagedBatch : List StagedLegacyReactionIngress)
  | applyViewerOverlaySnapshot (principalId : JsString)
      (snapshot : ReactionViewerOverlaySnapshot)
  | applyVersionedViewerOverlaySnapshot (principalId : JsString)
      (snapshot : VersionedReactionViewerSnapshot)
  | applyViewerReactionPatch (principalId serverId messageId emoji : JsString)
      (reactedByMe : Bool)
  | clearViewerReactionPatch (principalId serverId messageId emoji : JsString)
  | clearParentScope (principalId : JsString) (parentScopeKey : SyncScopeKey)
  | reset

/-- A batch that is refused leaves the state as it was. -/
def step (capacity : Nat) (state : ReactionReadModelData) : Operation → ReactionReadModelData
  | .activatePrincipal principalId => activatePrincipal principalId state
  | .applyStagedLegacyIngressBatch stagedBatch =>
      (applyStagedLegacyIngressBatch capacity stagedBatch state).toOption.getD state
  | .applyViewerOverlaySnapshot principalId snapshot =>
      applyViewerOverlaySnapshot principalId snapshot state
  | .applyVersionedViewerOverlaySnapshot principalId snapshot =>
      (applyVersionedViewerOverlaySnapshot principalId snapshot state).1
  | .applyViewerReactionPatch principalId serverId messageId emoji reactedByMe =>
      applyViewerReactionPatch principalId serverId messageId emoji reactedByMe state
  | .clearViewerReactionPatch principalId serverId messageId emoji =>
      clearViewerReactionPatch principalId serverId messageId emoji state
  | .clearParentScope principalId parentScopeKey =>
      clearParentScope principalId parentScopeKey state
  | .reset => emptyData

end Raft.ReactionReadModels
