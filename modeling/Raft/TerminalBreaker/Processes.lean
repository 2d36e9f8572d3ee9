import Raft.TerminalBreaker.Starts

/-!
# Processes that were started

A pending entry takes the identity of its process, or leaves for the entry that
holds the identity already.  An exit removes the entry and ends the launch that
the process carried; a restarted daemon can no longer report one.
-/

namespace Raft.TerminalBreaker

open Raft.Foundation

inductive AgentStartNotSpawnedReason where
  | startRejected
  | spawnFailed
  | cancelled
  | deferred
  | admissionFull
  | terminalFailureNeedsManual
  | terminalFailureOutcomeStorageBlocked
  | spawnError
  | staleDispatch
  deriving DecidableEq

inductive TerminalIdentityOutcome where
  | filled
  | merged
  | settledRecentExit
  | unmatched
  | notRebind
  | respawnTracked
  | untrackedTracked
  deriving DecidableEq

structure TerminalStartAck where
  launchId : JsString
  daemonInstanceId : JsString
  queueState : JsString
  processInstanceId : Option JsString
  deriving DecidableEq

structure TerminalProcessSpawnedFrame where
  launchId : JsString
  daemonInstanceId : JsString
  processInstanceId : JsString
  supersededLaunchIds : List JsString
  respawn : Bool
  atMs : Option Int
  deriving DecidableEq

def TerminalProcessSpawnedFrame.launches (frame : TerminalProcessSpawnedFrame) : List JsString :=
  frame.launchId :: frame.supersededLaunchIds.filter (· ≠ frame.launchId)

def TerminalProcessSpawnedFrame.untrackedEntry (frame : TerminalProcessSpawnedFrame) :
    TerminalUnexitedEntry where
  spawnLaunchId := frame.launchId
  daemonInstanceId := frame.daemonInstanceId
  processInstanceId := some frame.processInstanceId
  launchIds := keepLast TERMINAL_FAILURE_LAUNCH_IDS_PER_PROCESS_MAX frame.launches
  dispatchedAtMs := frame.atMs.getD 0
  isProtected := false

inductive TerminalExitOutcome where
  | removed
  | acknowledgedRemoved
  | exitUnmatched
  deriving DecidableEq

structure TerminalProcessExitFrame where
  daemonInstanceId : JsString
  processInstanceId : JsString
  /-- Absent for a process that the daemon started on its own. -/
  spawnLaunchId : Option JsString
  launchId : JsString
  atMs : Int
  deriving DecidableEq

structure TerminalIdentityApplied where
  state : TerminalFailureBreakerState
  outcome : TerminalIdentityOutcome
  write : Bool

structure TerminalExitApplied where
  state : TerminalFailureBreakerState
  outcome : TerminalExitOutcome
  probeEnded : Bool

structure TerminalStartRejection where
  launchId : JsString
  daemonInstanceId : JsString
  reason : Option AgentStartNotSpawnedReason
  nowMs : Option Int
  unreadCeilings : Option (InsertionMap JsString Int)

structure TerminalStartRejected where
  state : TerminalFailureBreakerState
  write : Bool
  spawnErrorCounted : Bool
  staleReleased : Bool

namespace TerminalUnexitedEntry

variable (entry : TerminalUnexitedEntry)

def hasIdentity (daemonInstanceId processInstanceId : JsString) : Bool :=
  entry.processInstanceId = some processInstanceId && entry.daemonInstanceId = daemonInstanceId

def isPending (spawnLaunchId daemonInstanceId : JsString) : Bool :=
  entry.spawnLaunchId = spawnLaunchId && entry.daemonInstanceId = daemonInstanceId &&
    entry.processInstanceId.isNone

def appendLaunchIds (launchIds : List JsString) : TerminalUnexitedEntry :=
  { entry with
    launchIds := keepLast TERMINAL_FAILURE_LAUNCH_IDS_PER_PROCESS_MAX
      (launchIds.foldl
        (fun carried launchId => if launchId ∈ carried then carried else carried ++ [launchId])
        entry.launchIds) }

/-- The launch of a rebound start joins; the bound is applied only when it is new. -/
def absorbLaunch (launchId : JsString) : TerminalUnexitedEntry :=
  if launchId ∈ entry.launchIds then entry
  else { entry with
    launchIds := keepLast TERMINAL_FAILURE_LAUNCH_IDS_PER_PROCESS_MAX (entry.launchIds ++
      [launchId]) }

end TerminalUnexitedEntry

namespace TerminalAcknowledgedUnexited

variable (entry : TerminalAcknowledgedUnexited)

def hasIdentity (daemonInstanceId processInstanceId : JsString) : Bool :=
  entry.processInstanceId = some processInstanceId && entry.daemonInstanceId = daemonInstanceId

def isPendingFor (launches : List JsString) (daemonInstanceId : JsString) : Bool :=
  entry.spawnLaunchId ∈ launches && entry.daemonInstanceId = daemonInstanceId &&
    entry.processInstanceId.isNone

end TerminalAcknowledgedUnexited

def TerminalRecentExit.hasIdentity (exit : TerminalRecentExit)
    (daemonInstanceId processInstanceId : JsString) : Bool :=
  exit.processInstanceId = processInstanceId && exit.daemonInstanceId = daemonInstanceId

def removeIndexes {α : Type} (entries : List α) (dropped : List Nat) : List α :=
  (entries.zipIdx.filter fun entry => entry.2 ∉ dropped).map Prod.fst

namespace TerminalFailureBreakerState

variable (record : TerminalFailureBreakerState)

def isRecentExit (daemonInstanceId processInstanceId : JsString) : Bool :=
  record.recentExits.any fun exit => exit.hasIdentity daemonInstanceId processInstanceId

def pendingIndex (spawnLaunchId daemonInstanceId : JsString) : Option Nat :=
  record.unexited.findIdx? fun entry => entry.isPending spawnLaunchId daemonInstanceId

def identityIndex (daemonInstanceId processInstanceId : JsString) : Option Nat :=
  record.unexited.findIdx? fun entry => entry.hasIdentity daemonInstanceId processInstanceId

def modifyUnexited (index : Nat) (change : TerminalUnexitedEntry → TerminalUnexitedEntry) :
    TerminalFailureBreakerState :=
  { record with unexited := record.unexited.modify index change }

def removeUnexited (dropped : List Nat) : TerminalFailureBreakerState :=
  { record with unexited := removeIndexes record.unexited dropped }

/-! ## Identities -/

def markTakeover (launchId : JsString) : TerminalFailureBreakerState :=
  { record with
    currentLaunch := record.currentLaunch.map fun launch =>
      if launch.launchId = launchId then { launch with takeover := true } else launch }

def fillPending (index : Nat) (processInstanceId : JsString) : TerminalFailureBreakerState :=
  record.modifyUnexited index fun entry =>
    { entry with processInstanceId := some processInstanceId }

def applyTerminalStartAck (ack : TerminalStartAck) : TerminalIdentityApplied :=
  match ack.processInstanceId with
  | none => ⟨record, .notRebind, false⟩
  | some processInstanceId =>
      if ack.queueState ≠ js "running" ∧ ack.queueState ≠ js "rebound" then
        ⟨record, .notRebind, false⟩
      else
        let state := record.markTakeover ack.launchId
        let pending := state.pendingIndex ack.launchId ack.daemonInstanceId
        if state.isRecentExit ack.daemonInstanceId processInstanceId then
          ⟨(state.removeUnexited pending.toList).finishTransition, .settledRecentExit, true⟩
        else
          match state.identityIndex ack.daemonInstanceId processInstanceId, pending with
          | some existing, pending =>
              let state := state.modifyUnexited existing (·.absorbLaunch ack.launchId)
              ⟨(state.removeUnexited pending.toList).finishTransition, .merged, true⟩
          | none, some pending =>
              ⟨(state.fillPending pending processInstanceId).finishTransition, .filled, true⟩
          | none, none => ⟨state.finishTransition, .unmatched, true⟩

def carriesCurrentLaunch (launches : List JsString) : Bool :=
  record.currentLaunch.any fun launch => launch.launchId ∈ launches

def resetSpawnError (launches : List JsString) : TerminalFailureBreakerState :=
  if record.carriesCurrentLaunch launches then { record with spawnError := none } else record

def pendingIndexes (launches : List JsString) (daemonInstanceId : JsString) : List Nat :=
  launches.filterMap fun launchId => record.pendingIndex launchId daemonInstanceId

def fillAcknowledged (index : Nat) (processInstanceId : JsString) : TerminalFailureBreakerState :=
  { record with
    acknowledgedUnexited := record.acknowledgedUnexited.modify index fun entry =>
      { entry with processInstanceId := some processInstanceId } }

def identifyAcknowledged (frame : TerminalProcessSpawnedFrame) : TerminalFailureBreakerState :=
  { record with
    acknowledgedUnexited := record.acknowledgedUnexited.map fun entry =>
      if entry.isPendingFor frame.launches frame.daemonInstanceId then
        { entry with processInstanceId := some frame.processInstanceId }
      else
        entry }

/-- A respawn under the current launch after that launch's process exited makes it live again. -/
def reviveLaunch (frame : TerminalProcessSpawnedFrame) : TerminalFailureBreakerState :=
  { record with
    currentLaunch := record.currentLaunch.map fun launch =>
      if frame.respawn && record.state = .closed && launch.launchId = frame.launchId &&
          launch.generation = record.generation && launch.terminal = some .processExit then
        { launch with terminal := none }
      else
        launch }

def settleSpawned (frame : TerminalProcessSpawnedFrame) : TerminalFailureBreakerState :=
  ((record.identifyAcknowledged frame).reviveLaunch frame).finishTransition

def applyTerminalProcessSpawned (frame : TerminalProcessSpawnedFrame) : TerminalIdentityApplied :=
  let state := record.resetSpawnError frame.launches
  let pendings := state.pendingIndexes frame.launches frame.daemonInstanceId
  if state.isRecentExit frame.daemonInstanceId frame.processInstanceId then
    if pendings.isEmpty then
      ⟨state, .settledRecentExit, record.spawnError.isSome &&
        record.carriesCurrentLaunch frame.launches⟩
    else
      ⟨(state.removeUnexited pendings).finishTransition, .settledRecentExit, true⟩
  else
    match state.identityIndex frame.daemonInstanceId frame.processInstanceId, pendings with
    | some existing, pendings =>
        let state := state.modifyUnexited existing (·.appendLaunchIds frame.launches)
        ⟨(state.removeUnexited pendings).settleSpawned frame, .merged, true⟩
    | none, first :: rest =>
        -- The spawn's own launch, else the first superseded one with a pending entry.
        let keep := (state.pendingIndex frame.launchId frame.daemonInstanceId).getD first
        let state := (state.fillPending keep frame.processInstanceId).modifyUnexited keep
          (·.appendLaunchIds frame.launches)
        ⟨(state.removeUnexited ((first :: rest).filter (· ≠ keep))).settleSpawned frame,
          .filled, true⟩
    | none, [] =>
        match state.acknowledgedUnexited.findIdx? fun entry =>
            entry.isPendingFor frame.launches frame.daemonInstanceId with
        | some acknowledged =>
            ⟨state.fillAcknowledged acknowledged frame.processInstanceId, .filled, true⟩
        | none =>
            ⟨(state.pushUnexited frame.untrackedEntry).settleSpawned frame,
              if frame.respawn then .respawnTracked else .untrackedTracked, true⟩

/-! ## Exits and restarts -/

/-- By identity, else the pending entry of the launch that the process was spawned for. -/
def exitedIndex (frame : TerminalProcessExitFrame) : Option Nat :=
  (record.identityIndex frame.daemonInstanceId frame.processInstanceId).or
    (frame.spawnLaunchId.bind fun spawnLaunchId =>
      record.pendingIndex spawnLaunchId frame.daemonInstanceId)

def exitedAcknowledgedIndex (frame : TerminalProcessExitFrame) : Option Nat :=
  (record.acknowledgedUnexited.findIdx? fun entry =>
    entry.hasIdentity frame.daemonInstanceId frame.processInstanceId).or
    (frame.spawnLaunchId.bind fun spawnLaunchId =>
      record.acknowledgedUnexited.findIdx? fun entry =>
        entry.isPendingFor [spawnLaunchId] frame.daemonInstanceId)

def recordExit (frame : TerminalProcessExitFrame) : TerminalFailureBreakerState :=
  let kept := record.recentExits.filter fun exit =>
    !exit.hasIdentity frame.daemonInstanceId frame.processInstanceId &&
      decide (frame.atMs - exit.atMs ≤ TERMINAL_FAILURE_RECENT_EXITS_MAX_AGE_MS)
  { record with
    recentExits := keepLast TERMINAL_FAILURE_RECENT_EXITS_MAX
      (kept ++ [⟨frame.daemonInstanceId, frame.processInstanceId, frame.spawnLaunchId,
        frame.atMs⟩]) }

def bindsCurrentLaunch (carried : List JsString) (launch : TerminalBreakerLaunch) : Bool :=
  launch.terminal.isNone && launch.generation = record.generation && launch.launchId ∈ carried

def endLaunch (launch : TerminalBreakerLaunch) (atMs : Int) : TerminalFailureBreakerState :=
  if record.state = .halfOpen && launch.isProbe then
    { record with
      currentLaunch := some { launch with terminal := some .processExit, leaseExpiresAtMs := none }
      backoffStep := nextBackoffStep record.backoffStep
      blockedUntilMs := some (atMs + backoffMs (nextBackoffStep record.backoffStep))
    }.withTransition .opened (js "probe_process_exit") atMs
  else
    { record with currentLaunch := some { launch with terminal := some .processExit } }

def endLastProbe (carried : List JsString) : TerminalFailureBreakerState :=
  { record with
    lastProbe := record.lastProbe.map fun probe =>
      if record.state = .opened && probe.terminal.isNone && probe.launchId ∈ carried then
        { probe with terminal := some .processExit }
      else
        probe }

def endCarried (carried : List JsString) (atMs : Int) : TerminalFailureBreakerState × Bool :=
  match record.currentLaunch.filter (record.bindsCurrentLaunch carried) with
  | some launch => (record.endLaunch launch atMs, record.state = .halfOpen && launch.isProbe)
  | none => (record.endLastProbe carried, false)

def carriedLaunches (frame : TerminalProcessExitFrame) (index : Nat) : List JsString :=
  frame.launchId :: frame.spawnLaunchId.toList ++ (record.unexited[index]?).elim [] (·.launchIds)

def removeAcknowledged (index : Nat) : TerminalFailureBreakerState :=
  { record with acknowledgedUnexited := record.acknowledgedUnexited.eraseIdx index }

def applyTerminalProcessExited (frame : TerminalProcessExitFrame) : TerminalExitApplied :=
  match record.exitedIndex frame with
  | some index =>
      let carried := record.carriedLaunches frame index
      let ended := ((record.removeUnexited [index]).recordExit frame).endCarried carried frame.atMs
      ⟨ended.1.finishTransition, .removed, ended.2⟩
  | none =>
      match record.exitedAcknowledgedIndex frame with
      | some index =>
          ⟨((record.removeAcknowledged index).recordExit frame).finishTransition,
            .acknowledgedRemoved,
            false⟩
      | none => ⟨(record.recordExit frame).finishTransition, .exitUnmatched, false⟩

def isOlder (daemonInstanceId : JsString) (entry : TerminalUnexitedEntry) : Bool :=
  entry.daemonInstanceId ≠ daemonInstanceId

/-- Entries that were never protected are dropped with their daemon. -/
def dropUntracked (daemonInstanceId : JsString) (nowMs : Int) : TerminalFailureBreakerState :=
  let untracked := record.unexited.filter fun entry =>
    isOlder daemonInstanceId entry && !entry.isProtected
  if untracked.isEmpty then
    record
  else
    { record with
      unexited := record.unexited.filter fun entry =>
        !(isOlder daemonInstanceId entry && !entry.isProtected)
    }.pushAcknowledged (untracked.map (acknowledge nowMs .daemonRestartedUntracked))

def blockOnRestart (protectedOld : List TerminalUnexitedEntry) (nowMs : Int) :
    TerminalFailureBreakerState :=
  if !protectedOld.isEmpty && record.needsManual.all fun block => block.reason =
    .unexitedProcess then
    { record with
      needsManual := some ⟨.daemonRestartedNoExit, nowMs, protectedOld.map unexitedKey⟩ }
  else
    record

def retireOlder (daemonInstanceId : JsString) (nowMs : Int) : TerminalFailureBreakerState :=
  (record.dropUntracked daemonInstanceId nowMs).blockOnRestart
    (record.unexited.filter fun entry => isOlder daemonInstanceId entry && entry.isProtected) nowMs

def applyTerminalDaemonReady (daemonInstanceId : JsString) (nowMs : Int) :
    TerminalFailureBreakerState × Bool :=
  if (record.unexited.filter (isOlder daemonInstanceId)).isEmpty then
    (record, false)
  else
    ((record.markProtectedIfEngaged.retireOlder daemonInstanceId nowMs).finishTransition, true)

/-! ## Starts that never created a process -/

def rejectedLaunch (input : TerminalStartRejection) : Option TerminalBreakerLaunch :=
  record.currentLaunch.filter fun launch =>
    input.nowMs.isSome && launch.launchId = input.launchId && launch.generation =
      record.generation &&
      launch.terminal.isNone

def spawnErrorCount : Nat := (record.spawnError.elim 0 (·.count)) + 1

/-- A later block is kept, and a probe of a circuit that failures opened also steps. -/
def spawnErrorStep : Nat :=
  if record.state = .halfOpen ∧ 0 < record.totalCount then nextBackoffStep record.backoffStep
  else record.backoffStep

def spawnErrorUntil (nowMs : Int) : Int :=
  let spawned := nowMs + spawnErrorBackoffMs record.spawnErrorCount
  let kept :=
    match record.blockedUntilMs with
    | some blocked => if record.state = .opened then max spawned blocked else spawned
    | none => spawned
  if record.state = .halfOpen ∧ 0 < record.totalCount then
    max kept (nowMs + backoffMs (nextBackoffStep record.backoffStep))
  else
    kept

def countSpawnError (launch : TerminalBreakerLaunch) (nowMs : Int)
    (unreadCeilings : Option (InsertionMap JsString Int)) : TerminalFailureBreakerState :=
  let failure : TerminalLastFailure :=
    ⟨js "spawn_error", js "spawn_error", launch.launchId, none, nowMs⟩
  let counted := { record with
    spawnError := some ⟨record.spawnErrorCount, launch.launchId, nowMs⟩
    lastFailure := some failure
    diagnostics := { record.diagnostics with lastFailure := some failure }
    currentLaunch := some { launch with terminal := some .e1, leaseExpiresAtMs := none }
    backoffStep := record.spawnErrorStep
    blockedUntilMs := some (record.spawnErrorUntil nowMs) }
  if record.state = .opened then
    counted
  else
    ({ counted with openedAtMs := some (record.openedAtMs.getD nowMs) }.raiseUnread
      unreadCeilings).withTransition .opened (js "spawn_error") nowMs

def releaseProbe (nowMs : Int) : TerminalFailureBreakerState :=
  { record with lastProbe := record.currentLaunch, currentLaunch := none }.withTransition .opened
    (js "probe_not_spawned") nowMs

def unclaimDemand (launchId : JsString) : TerminalFailureBreakerState :=
  { record with wakeDemand := unclaimedDemand record.wakeDemand launchId }

def unclaimsDemand (input : TerminalStartRejection) : Bool :=
  (record.rejectedLaunch input).isSome &&
    (input.reason = some .spawnError || input.reason = some .staleDispatch) &&
    record.wakeDemand.any fun demand => demand.claimedLaunchId = some input.launchId

/-- The rejected start's pending entry and its claim on the demand are gone. -/
def rejectStart (input : TerminalStartRejection) : TerminalFailureBreakerState :=
  let removed := record.removeUnexited
    (record.pendingIndex input.launchId input.daemonInstanceId).toList
  if record.unclaimsDemand input then removed.unclaimDemand input.launchId else removed

def applyTerminalStartRejectedBeforeSpawn (input : TerminalStartRejection) :
    TerminalStartRejected :=
  let normalized := record.normalizeTerminalBreakerLease (input.nowMs.getD 0)
  let index := normalized.pendingIndex input.launchId input.daemonInstanceId
  let bound := normalized.rejectedLaunch input
  let counts := bound.filter fun _ => input.reason = some .spawnError
  let releasesProbe := counts.isNone &&
    bound.any fun launch => normalized.state = .halfOpen && launch.isProbe
  let unclaims := normalized.unclaimsDemand input
  if index.isNone && counts.isNone && !releasesProbe && !unclaims then
    ⟨normalized, (record.expiredLease (input.nowMs.getD 0)).isSome, false, false⟩
  else
    let state := normalized.rejectStart input
    let ended :=
      match counts with
      | some launch => state.countSpawnError launch (input.nowMs.getD 0) input.unreadCeilings
      | none => if releasesProbe then state.releaseProbe (input.nowMs.getD 0) else state
    ⟨ended.finishTransition, true, counts.isSome, bound.isSome && input.reason =
      some .staleDispatch⟩

end TerminalFailureBreakerState

end Raft.TerminalBreaker
