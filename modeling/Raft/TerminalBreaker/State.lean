import Raft.Foundation.LatestWindow
import Raft.TerminalBreaker.Catchup

/-!
# The record of the terminal failure breaker

What the server keeps for one agent whose runtime may end every turn in the same
terminal failure: the circuit and its current launch, the processes that were
started and never seen to exit, the reason a person is needed, and what is owed.
-/

namespace Raft.TerminalBreaker

open Raft.Foundation

def TERMINAL_FAILURE_SAME_FP_THRESHOLD : Nat := 2
def TERMINAL_FAILURE_TOTAL_THRESHOLD : Nat := 3
def TERMINAL_FAILURE_BACKOFF_MS : List Int := [3600000, 4 * 3600000, 24 * 3600000]
def TERMINAL_FAILURE_PROBE_LEASE_MS : Int := 30 * 60000
def TERMINAL_FAILURE_UNEXITED_MAX : Nat := 8
def TERMINAL_FAILURE_RECENT_EXITS_MAX : Nat := 16
def TERMINAL_FAILURE_RECENT_EXITS_MAX_AGE_MS : Int := 24 * 3600000
def TERMINAL_FAILURE_LAUNCH_IDS_PER_PROCESS_MAX : Nat := 8
def TERMINAL_FAILURE_ACKNOWLEDGED_UNEXITED_MAX : Nat := 16
def TERMINAL_SPAWN_ERROR_BACKOFF_BASE_MS : Int := 5 * 60000
def TERMINAL_SPAWN_ERROR_BACKOFF_MAX_MS : Int := 6 * 3600000

inductive TerminalBreakerCircuit where
  | closed
  | opened
  | halfOpen
  deriving DecidableEq

def TerminalBreakerCircuit.text : TerminalBreakerCircuit → JsString
  | .closed => js "closed"
  | .opened => js "open"
  | .halfOpen => js "half_open"

inductive TerminalLaunchOutcome where
  | e1
  | processExit
  deriving DecidableEq

structure TerminalFrameSeq where
  daemonInstanceId : JsString
  clientSeq : Int
  deriving DecidableEq

structure TerminalBreakerLaunch where
  launchId : JsString
  /-- Record generation at claim. -/
  generation : Nat
  resumedSessionId : Option JsString
  isProbe : Bool
  claimedAtMs : Int
  leaseExpiresAtMs : Option Int
  lastAppliedSeq : Option TerminalFrameSeq
  /-- Set once the launch is known dead. -/
  terminal : Option TerminalLaunchOutcome
  takeover : Bool
  catchupBatchId : Option JsString
  deriving DecidableEq

def TerminalBreakerLaunch.withoutLease (launch : TerminalBreakerLaunch) : TerminalBreakerLaunch :=
  { launch with leaseExpiresAtMs := none }

inductive TerminalNeedsManualReason where
  | unexitedProcess
  | daemonRestartedNoExit
  | unexitedOverflow
  | outcomeUnobservable
  | outcomeEvidenceLost
  deriving DecidableEq

def TerminalNeedsManualReason.settlesAlone (reason : TerminalNeedsManualReason) : Bool :=
  reason = .unexitedProcess || reason = .daemonRestartedNoExit

structure TerminalUnexitedKey where
  spawnLaunchId : JsString
  daemonInstanceId : JsString
  deriving DecidableEq

structure TerminalNeedsManual where
  reason : TerminalNeedsManualReason
  sinceMs : Int
  causeEntries : List TerminalUnexitedKey
  deriving DecidableEq

structure TerminalUnexitedEntry where
  spawnLaunchId : JsString
  daemonInstanceId : JsString
  processInstanceId : Option JsString
  /-- Every launch this process carried; bounded, oldest dropped. -/
  launchIds : List JsString
  dispatchedAtMs : Int
  /-- The entry was created, updated or present while the breaker was engaged. -/
  isProtected : Bool
  deriving DecidableEq

structure TerminalRecentExit where
  daemonInstanceId : JsString
  processInstanceId : JsString
  spawnLaunchId : Option JsString
  atMs : Int
  deriving DecidableEq

inductive TerminalAcknowledgedReason where
  | humanStart
  | daemonRestartedUntracked
  deriving DecidableEq

structure TerminalAcknowledgedUnexited where
  processInstanceId : Option JsString
  daemonInstanceId : JsString
  spawnLaunchId : JsString
  ackedAtMs : Int
  reason : TerminalAcknowledgedReason
  deriving DecidableEq

structure TerminalSameFingerprint where
  fingerprint : JsString
  count : Nat
  deriving DecidableEq

structure TerminalLastFailure where
  kind : JsString
  fingerprint : JsString
  launchId : JsString
  sessionId : Option JsString
  atMs : Int
  deriving DecidableEq

structure TerminalBreakerDiagnostics where
  lastFailure : Option TerminalLastFailure
  lastClosedReason : Option JsString
  deriving DecidableEq

structure TerminalSpawnErrorEvidence where
  count : Nat
  lastLaunchId : JsString
  lastAtMs : Int
  deriving DecidableEq

structure TerminalWakeDemand where
  seq : Nat
  sinceMs : Int
  claimedSeq : Option Nat
  claimedLaunchId : Option JsString
  deriving DecidableEq

structure TerminalBreakerTransition where
  fromState : JsString
  toState : JsString
  cause : JsString
  atMs : Int
  deriving DecidableEq

structure TerminalFailureBreakerState where
  state : TerminalBreakerCircuit
  generation : Nat
  currentLaunch : Option TerminalBreakerLaunch
  lastProbe : Option TerminalBreakerLaunch
  needsManual : Option TerminalNeedsManual
  unexited : List TerminalUnexitedEntry
  recentExits : List TerminalRecentExit
  unexitedOverflow : Bool
  acknowledgedUnexited : List TerminalAcknowledgedUnexited
  sameFingerprint : Option TerminalSameFingerprint
  totalCount : Nat
  backoffStep : Nat
  openedAtMs : Option Int
  blockedUntilMs : Option Int
  lastFailure : Option TerminalLastFailure
  catchupObligation : Option CatchupObligation
  diagnostics : TerminalBreakerDiagnostics
  lastTransition : Option TerminalBreakerTransition
  outboxWatermarks : InsertionMap JsString Int
  outboxWatermarksLost : Bool
  takeoverEpoch : Nat
  spawnError : Option TerminalSpawnErrorEvidence
  wakeDemand : Option TerminalWakeDemand

def freshTerminalFailureBreakerState : TerminalFailureBreakerState where
  state := .closed
  generation := 1
  currentLaunch := none
  lastProbe := none
  needsManual := none
  unexited := []
  recentExits := []
  unexitedOverflow := false
  acknowledgedUnexited := []
  sameFingerprint := none
  totalCount := 0
  backoffStep := 0
  openedAtMs := none
  blockedUntilMs := none
  lastFailure := none
  catchupObligation := none
  diagnostics := ⟨none, none⟩
  lastTransition := none
  outboxWatermarks := .empty
  outboxWatermarksLost := false
  takeoverEpoch := 0
  spawnError := none
  wakeDemand := none

/-- A record that cannot be decoded: every unread row is owed and the watermarks are lost. -/
def terminalBreakerStateFromUnreadable (nowMs : Int) : TerminalFailureBreakerState :=
  { freshTerminalFailureBreakerState with
    catchupObligation :=
      some { emptyObligation with owedOverflow := true, engagedByFailure := true }
    diagnostics := ⟨none, some (js "state_unreadable")⟩
    outboxWatermarksLost := true
    lastTransition := some ⟨js "unreadable", js "closed", js "state_unreadable", nowMs⟩ }

def backoffMs (step : Nat) : Int :=
  (TERMINAL_FAILURE_BACKOFF_MS[min step (TERMINAL_FAILURE_BACKOFF_MS.length - 1)]?).getD 0

def spawnErrorBackoffMs (count : Nat) : Int :=
  let doublings := min (max count 1 - 1) 30
  min (TERMINAL_SPAWN_ERROR_BACKOFF_BASE_MS * 2 ^ doublings) TERMINAL_SPAWN_ERROR_BACKOFF_MAX_MS

def nextBackoffStep (step : Nat) : Nat :=
  min (step + 1) (TERMINAL_FAILURE_BACKOFF_MS.length - 1)

def unexitedKey (entry : TerminalUnexitedEntry) : TerminalUnexitedKey :=
  ⟨entry.spawnLaunchId, entry.daemonInstanceId⟩

namespace TerminalFailureBreakerState

variable (record : TerminalFailureBreakerState)

def withTransition (target : TerminalBreakerCircuit) (cause : JsString) (nowMs : Int) :
    TerminalFailureBreakerState :=
  { record with
    lastTransition := some ⟨record.state.text, target.text, cause, nowMs⟩
    state := target }

/-! ## Engagement, protection and blocks -/

def isTerminalBreakerProtecting : Bool :=
  record.state ≠ .closed || record.needsManual.isSome || !record.unexited.isEmpty ||
    record.unexitedOverflow || 0 < record.totalCount

def isConfirmedLiveCurrentProcess (entry : TerminalUnexitedEntry) : Bool :=
  match record.currentLaunch with
  | none => false
  | some launch =>
      record.state = .closed && launch.terminal.isNone && launch.generation = record.generation &&
        entry.processInstanceId.isSome && launch.launchId ∈ entry.launchIds

def blockingUnexitedEntries : List TerminalUnexitedEntry :=
  record.unexited.filter fun entry => !record.isConfirmedLiveCurrentProcess entry

/-- A block that is only about the unexited entries themselves does not engage. -/
def isTerminalBreakerEngaged : Bool :=
  0 < record.totalCount || record.state ≠ .closed ||
    record.catchupObligation.any (·.engagedByFailure) || record.currentLaunch.any (·.isProbe) ||
    record.needsManual.any fun block => block.reason ≠ .unexitedProcess

def markedUnexited : List TerminalUnexitedEntry :=
  if record.isTerminalBreakerEngaged then
    record.unexited.map fun entry => { entry with isProtected := true }
  else
    record.unexited

def markProtectedIfEngaged : TerminalFailureBreakerState :=
  { record with unexited := record.markedUnexited }

def marksProtected : Bool :=
  record.isTerminalBreakerEngaged && record.unexited.any fun entry => !entry.isProtected

def causeResolved (block : TerminalNeedsManual) : Bool :=
  if block.reason = .unexitedProcess then
    block.causeEntries.all fun cause =>
      !record.blockingUnexitedEntries.any fun entry => unexitedKey entry = cause
  else
    block.causeEntries.all fun cause => !record.unexited.any fun entry => unexitedKey entry = cause

def settlesNeedsManual : Bool :=
  match record.needsManual with
  | none => false
  | some block =>
      block.reason.settlesAlone && record.blockingUnexitedEntries.isEmpty &&
        !record.unexitedOverflow && record.causeResolved block

/-- A block lifts on its own only once its recorded cause is resolved. -/
def settledBlock : Option TerminalNeedsManual :=
  if record.settlesNeedsManual then none else record.needsManual

def settleTerminalNeedsManual : TerminalFailureBreakerState :=
  { record with needsManual := record.settledBlock }

def finishTransition : TerminalFailureBreakerState :=
  record.settleTerminalNeedsManual.markProtectedIfEngaged

def finishChanges : Bool :=
  record.settlesNeedsManual || record.settleTerminalNeedsManual.marksProtected

/-! ## The lease of a probe -/

def expiredLease (nowMs : Int) : Option Int :=
  if record.state = .halfOpen then
    (record.currentLaunch.bind (·.leaseExpiresAtMs)).filter fun lease => lease ≤ nowMs
  else
    none

/-- An expired lease opens the circuit at the time of the lease, and the probe steps down. -/
def normalizeTerminalBreakerLease (nowMs : Int) : TerminalFailureBreakerState :=
  match record.expiredLease nowMs with
  | none => record
  | some lease =>
      ({ record with
          backoffStep := nextBackoffStep record.backoffStep
          blockedUntilMs := some (lease + backoffMs (nextBackoffStep record.backoffStep))
          lastProbe := record.currentLaunch
          currentLaunch := none }.withTransition .opened (js "lease_expired")
            lease).markProtectedIfEngaged

def normalizeTerminalBreaker (nowMs : Int) : TerminalFailureBreakerState :=
  (record.normalizeTerminalBreakerLease nowMs).finishTransition

def normalizeChanges (nowMs : Int) : Bool :=
  (record.normalizeTerminalBreakerLease nowMs).finishChanges || (record.expiredLease nowMs).isSome

end TerminalFailureBreakerState

end Raft.TerminalBreaker
