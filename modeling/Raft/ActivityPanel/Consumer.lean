import Raft.Activity.Fingerprint
import Raft.ActivityPanel.Ingress
import Raft.Sync.Requests

/-!
# The Activity consumer

The one sync core of the panel, and the correlation of responses with the
requests they answer.  The consumer chooses the entry point of the core that a
payload takes; a response that answers no outstanding request takes none.
-/

namespace Raft.ActivityPanel

open Raft.Foundation Raft.Activity Raft.Sync

/-! ## The core -/

def ACTIVITY_DOMAIN : SyncDomainName := js "activity"

abbrev ActivitySyncCore := SyncCore ActivityDomainState JsValue JsValue

section

-- `JSON.stringify` of a number
variable (numberText : JsNumber → JsString)

def createActivityDomain : SyncDomainConfig ActivityDomainState JsValue JsValue where
  name := ACTIVITY_DOMAIN
  density := .contiguous
  initialState := initialActivityState
  eventFingerprint := some (fingerprintActivityEvent numberText)
  fold := fun state event _ => foldActivityEvent state event
  fromSnapshot := fun snapshot => stateFromSnapshot snapshot.state
  acceptSameWatermarkSnapshot := none

def createActivitySyncCore : ActivitySyncCore := soleDomainCore (createActivityDomain numberText)

end

/-! ## Window authority -/

inductive WindowAuthorityDenial where
  | gateClosed
  | scopeAbsent
  | repairPending
  | noBaseline
  | rowMissingLatestActivitySeq
  deriving DecidableEq

structure CoreAuthoritativeWindow where
  rows : List ActivityRow
  nextCursor : Option JsString
  hasMore : Bool
  complete : Bool
  totalCount : JsNumber
  totalUnreadCount : JsNumber
  activityVersion : UInt64String

inductive ActivityWindowAuthority where
  | core (window : CoreAuthoritativeWindow)
  | legacy (reason : WindowAuthorityDenial)

def rowsCarryCanonicalFrontier (rows : List ActivityRow) : Bool :=
  rows.all fun row => isUInt64String (JsObject.read row.fields (js "latestActivitySeq"))

def decideActivityWindowAuthority (state : Option ActivityDomainState)
    (repairPending : Option Bool) : ActivityWindowAuthority :=
  match state with
  | none => .legacy .scopeAbsent
  | some state =>
      if repairPending = some true then .legacy .repairPending
      else
        match state.activityVersion with
        | none => .legacy .noBaseline
        | some activityVersion =>
            if rowsCarryCanonicalFrontier state.rows then
              .core {
                rows := state.rows
                nextCursor := state.nextCursor
                hasMore := state.hasMore
                complete := state.complete
                totalCount := state.totalCount
                totalUnreadCount := state.totalUnreadCount
                activityVersion }
            else .legacy .rowMissingLatestActivitySeq

/-! ## The consumer -/

inductive Uncorrelated where
  | unsolicited
  | superseded
  deriving DecidableEq

inductive ActivityIngestReport where
  | snapshot (outcome : SyncIngestOutcome)
  | difference (outcome : SyncIngestOutcome)
  | notModified (outcome : SyncIngestOutcome)
  | push (outcome : SyncIngestOutcome)
  | snapshotRequired (outcome : SyncIngestOutcome)
  | ignoredUncorrelated (requestId : JsString) (reason : Uncorrelated)

inductive ConsumerError where
  | ingress (error : PushError)
  | core (message : JsString)

structure ActivityConsumer where
  core : ActivitySyncCore
  outstanding : InsertionMap SyncScopeId JsString := InsertionMap.empty

abbrev Accepted := Except ConsumerError (ActivityIngestReport × ActivityConsumer)

namespace ActivityConsumer

variable (consumer : ActivityConsumer)

def issueRequest (scopeId : SyncScopeId) (requestId : JsString) : ActivityConsumer :=
  { consumer with outstanding := consumer.outstanding.set scopeId requestId }

/-- `none` where the response answers the request issued last for its scope. -/
def correlate (scopeId : SyncScopeId) (requestId : JsString) : Option Uncorrelated :=
  match consumer.outstanding.get scopeId with
  | none => some .unsolicited
  | some expected => if expected ≠ requestId then some .superseded else none

def ingest (report : SyncIngestOutcome → ActivityIngestReport)
    (input : SyncHarnessInput JsValue JsValue) : Accepted := do
  let (outcome, core) ← (ingestSyncHarnessInput consumer.core input).mapError .core
  return (report outcome, { consumer with core })

def settle (scopeId : SyncScopeId) (requestId : JsString)
    (report : SyncIngestOutcome → ActivityIngestReport)
    (input : SyncHarnessInput JsValue JsValue) : Accepted :=
  match consumer.correlate scopeId requestId with
  | some reason => return (.ignoredUncorrelated requestId reason, consumer)
  | none =>
      ingest { consumer with outstanding := consumer.outstanding.delete scopeId } report input

def acceptSnapshot (raw : JsValue) : Accepted := do
  let snapshot ← (snapshotFromResponse raw).mapError fun error => .ingress (.ingress error)
  consumer.settle snapshot.scopeId snapshot.requestId .snapshot
    (.snapshot ACTIVITY_DOMAIN snapshot.toSyncSnapshot)

def heldEpoch (scopeId : SyncScopeId) : Option SyncEpoch :=
  (consumer.core.scopeSyncState ACTIVITY_DOMAIN scopeId).bind (·.epoch)

/-- The 409 goes back into the core under the held epoch: under the server's own the core would
report a mismatch before it clears the requests of the scope. -/
def acceptDifference (raw : JsValue) : Accepted :=
  match differenceFromResponse raw with
  | .error (.snapshotRequired scopeId epoch watermark requestId) =>
      consumer.settle scopeId requestId .snapshotRequired (.difference ACTIVITY_DOMAIN {
        scopeId
        epoch := some ((consumer.heldEpoch scopeId).getD epoch)
        fromSeq := watermark
        toSeq := watermark
        events := []
        snapshotRequired := true })
  | .error error => throw (.ingress (.ingress error))
  | .ok (.notModified requestId scopeId epoch watermark _) =>
      consumer.settle scopeId requestId .notModified (.difference ACTIVITY_DOMAIN {
        scopeId
        epoch := some epoch
        fromSeq := watermark
        toSeq := watermark
        events := [] })
  | .ok (.difference requestId response) =>
      consumer.settle response.scopeId requestId .difference
        (.difference ACTIVITY_DOMAIN response)

def acceptPush (raw : JsValue) : Accepted := do
  let frame ← (frameFromPushEvent raw).mapError .ingress
  consumer.ingest .push (.frame ACTIVITY_DOMAIN frame)

def pendingRequests : List SyncRequestDescription := consumer.core.pendingRequests

def windowAuthority (scopeId : SyncScopeId) : ActivityWindowAuthority :=
  decideActivityWindowAuthority (consumer.core.state ACTIVITY_DOMAIN scopeId)
    ((consumer.core.scopeSyncState ACTIVITY_DOMAIN scopeId).map (·.repairPending))

end ActivityConsumer

def createActivityConsumer (numberText : JsNumber → JsString) : ActivityConsumer where
  core := createActivitySyncCore numberText

/-! ## Correlation -/

namespace ActivityConsumer

variable {consumer : ActivityConsumer} {scopeId : SyncScopeId} {requestId : JsString}

theorem correlate_eq_none_iff :
    consumer.correlate scopeId requestId = none ↔
      consumer.outstanding.get scopeId = some requestId := by
  rw [correlate]
  cases consumer.outstanding.get scopeId with
  | none => simp
  | some expected => simp

theorem settle_uncorrelated (h : consumer.outstanding.get scopeId ≠ some requestId)
    (report : SyncIngestOutcome → ActivityIngestReport)
    (input : SyncHarnessInput JsValue JsValue) :
    ∃ reason, consumer.settle scopeId requestId report input =
      .ok (.ignoredUncorrelated requestId reason, consumer) := by
  obtain ⟨reason, hreason⟩ := Option.ne_none_iff_exists'.mp (mt correlate_eq_none_iff.mp h)
  exact ⟨reason, by rw [settle, hreason]; rfl⟩

theorem ingest_registered {numberText : JsNumber → JsString}
    (hcore : consumer.core.domainOf ACTIVITY_DOMAIN = .ok (createActivityDomain numberText))
    (report : SyncIngestOutcome → ActivityIngestReport)
    {input : SyncHarnessInput JsValue JsValue} (hinput : input.domain = ACTIVITY_DOMAIN) :
    ∃ outcome, consumer.ingest report input =
      .ok (report outcome, { consumer with core := step consumer.core input }) := by
  rw [← hinput] at hcore
  rw [ingest, step_of_domainOf hcore, ingest_of_domainOf hcore]
  exact ⟨_, rfl⟩

theorem settle_correlated {numberText : JsNumber → JsString}
    (hcore : consumer.core.domainOf ACTIVITY_DOMAIN = .ok (createActivityDomain numberText))
    (h : consumer.outstanding.get scopeId = some requestId)
    (report : SyncIngestOutcome → ActivityIngestReport)
    {input : SyncHarnessInput JsValue JsValue} (hinput : input.domain = ACTIVITY_DOMAIN) :
    ∃ outcome, consumer.settle scopeId requestId report input =
      .ok (report outcome, {
        core := step consumer.core input
        outstanding := consumer.outstanding.delete scopeId }) := by
  let settled : ActivityConsumer :=
    { consumer with outstanding := consumer.outstanding.delete scopeId }
  have hsettled : settled.core.domainOf ACTIVITY_DOMAIN = .ok (createActivityDomain numberText) :=
    hcore
  rw [settle, correlate_eq_none_iff.mpr h]
  exact ingest_registered hsettled report hinput

end ActivityConsumer

end Raft.ActivityPanel
