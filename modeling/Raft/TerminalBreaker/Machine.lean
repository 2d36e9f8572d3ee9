import Raft.Foundation.Run
import Raft.TerminalBreaker.Processes

/-!
# The breaker as a machine

Outbox frames are judged once, under the watermark of their daemon instance.  A
machine holds the record and the tokens of the claims it granted, and takes the
transitions in any order.
-/

namespace Raft.TerminalBreaker

open Raft.Foundation

/-! ## Outbox frames and markers -/

inductive TerminalOutboxFrame where
  | terminalFailure (frame : TerminalFailureFrame)
  | turnCompleted (frame : TurnCompletedFrame)
  | processSpawned (daemonInstanceId : JsString) (clientSeq : Int)
      (launchId processInstanceId : JsString) (supersededLaunchIds : List JsString) (respawn : Bool)
  | processExited (daemonInstanceId : JsString) (clientSeq : Int) (processInstanceId : JsString)
      (spawnLaunchId : Option JsString) (launchId : JsString)
  | startRebound (daemonInstanceId : JsString) (clientSeq : Int)
      (launchId processInstanceId : JsString)
  | startNotSpawned (daemonInstanceId : JsString) (clientSeq : Int) (launchId : JsString)
      (reason : Option AgentStartNotSpawnedReason)
  | evidenceLost (daemonInstanceId : JsString) (clientSeq : Int) (reason : JsString)
  deriving DecidableEq

def terminalOutboxFrameSeq : TerminalOutboxFrame → TerminalFrameSeq
  | .terminalFailure frame => frame.seq
  | .turnCompleted frame => frame.seq
  | .processSpawned daemonInstanceId clientSeq .. => ⟨daemonInstanceId, clientSeq⟩
  | .processExited daemonInstanceId clientSeq .. => ⟨daemonInstanceId, clientSeq⟩
  | .startRebound daemonInstanceId clientSeq .. => ⟨daemonInstanceId, clientSeq⟩
  | .startNotSpawned daemonInstanceId clientSeq .. => ⟨daemonInstanceId, clientSeq⟩
  | .evidenceLost daemonInstanceId clientSeq _ => ⟨daemonInstanceId, clientSeq⟩

structure TerminalOutboxFrameInput where
  nowMs : Int
  unreadCeilings : Option (InsertionMap JsString Int)
  persistedSessionId : Option JsString

inductive TerminalOutboxOutcome where
  | duplicate
  | watermarksLost
  | applied
  | appliedEchoUnmatched
  | ignored (reason : TerminalFrameIgnoredReason)
  | identity (outcome : TerminalIdentityOutcome)
  | exit (outcome : TerminalExitOutcome)
  | spawnErrorCounted
  | staleDispatchReleased
  | pendingRemoved
  | unmatchedRejection
  | evidenceLost (reason : JsString)
  deriving DecidableEq

structure TerminalOutboxApplied where
  state : TerminalFailureBreakerState
  duplicate : Bool
  outcome : TerminalOutboxOutcome
  write : Bool

structure TerminalOutcomeMarker where
  takeoverEpoch : Int
  critical : Bool
  deriving DecidableEq

inductive TerminalMarkerOutcome where
  | backlogOnly
  | coveredByTakeover
  | evidenceLost
  | alreadyBlocked
  deriving DecidableEq

structure CatchupBuildApplied where
  state : TerminalFailureBreakerState
  write : Bool
  attached : Bool
  settled : List CatchupCursorSettlement
  obligationCleared : Bool

def ignoredOr (ignored : Option TerminalFrameIgnoredReason) (outcome : TerminalOutboxOutcome) :
    TerminalOutboxOutcome :=
  ignored.elim outcome .ignored

namespace TerminalFailureBreakerState

variable (record : TerminalFailureBreakerState)

/-- Lost evidence needs a person, and replaces a block that settles on its own. -/
def markEvidenceLost (nowMs : Int) : TerminalFailureBreakerState × Bool :=
  if record.needsManual.all fun block => block.reason.settlesAlone then
    ({ record with needsManual := some ⟨.outcomeEvidenceLost, nowMs, []⟩ }.finishTransition, true)
  else
    (record, false)

def terminalOutboxWatermark (daemonInstanceId : JsString) : Option Int :=
  record.outboxWatermarks.get daemonInstanceId

/-- Never lowered, never dropped. -/
def advanceOutboxWatermark (seq : TerminalFrameSeq) : TerminalFailureBreakerState :=
  { record with
    outboxWatermarks := record.outboxWatermarks.set seq.daemonInstanceId
      (max ((record.terminalOutboxWatermark seq.daemonInstanceId).getD seq.clientSeq)
        seq.clientSeq) }

def judgeOutboxFrame (frame : TerminalOutboxFrame) (input : TerminalOutboxFrameInput) :
    TerminalFailureBreakerState × TerminalOutboxOutcome :=
  match frame with
  | .terminalFailure frame =>
      let applied := record.applyTerminalFailureFrame frame input.nowMs input.unreadCeilings
      (applied.state, ignoredOr applied.ignored .applied)
  | .turnCompleted frame =>
      let applied := record.applyTurnCompletedFrame frame input.nowMs input.persistedSessionId
      (applied.state, ignoredOr applied.ignored
        (if frame.catchupBatchId.isSome && !applied.echoApplied then .appliedEchoUnmatched
          else .applied))
  | .processSpawned daemonInstanceId _ launchId processInstanceId supersededLaunchIds respawn =>
      let applied := record.applyTerminalProcessSpawned
        ⟨launchId, daemonInstanceId, processInstanceId, supersededLaunchIds, respawn,
          some input.nowMs⟩
      (applied.state, .identity applied.outcome)
  | .processExited daemonInstanceId _ processInstanceId spawnLaunchId launchId =>
      let applied := record.applyTerminalProcessExited
        ⟨daemonInstanceId, processInstanceId, spawnLaunchId, launchId, input.nowMs⟩
      (applied.state, .exit applied.outcome)
  | .startRebound daemonInstanceId _ launchId processInstanceId =>
      let applied := record.applyTerminalStartAck
        ⟨launchId, daemonInstanceId, js "rebound", some processInstanceId⟩
      (applied.state, .identity applied.outcome)
  | .startNotSpawned daemonInstanceId _ launchId reason =>
      let applied := record.applyTerminalStartRejectedBeforeSpawn
        ⟨launchId, daemonInstanceId, reason, some input.nowMs, input.unreadCeilings⟩
      (applied.state,
        if applied.spawnErrorCounted then .spawnErrorCounted
        else if applied.staleReleased then .staleDispatchReleased
        else if applied.write then .pendingRemoved
        else .unmatchedRejection)
  | .evidenceLost _ _ reason => ((record.markEvidenceLost input.nowMs).1, .evidenceLost reason)

def isReplayed (seq : TerminalFrameSeq) : Bool :=
  (record.terminalOutboxWatermark seq.daemonInstanceId).any fun watermark => seq.clientSeq ≤
    watermark

def applyTerminalOutboxFrame (frame : TerminalOutboxFrame) (input : TerminalOutboxFrameInput) :
    TerminalOutboxApplied :=
  let seq := terminalOutboxFrameSeq frame
  if record.isReplayed seq then
    ⟨record, true, .duplicate, false⟩
  else if (record.terminalOutboxWatermark seq.daemonInstanceId).isNone &&
    record.outboxWatermarksLost then
    ⟨(record.markEvidenceLost input.nowMs).1.advanceOutboxWatermark seq, false,
      .watermarksLost, true⟩
  else
    let judged := record.judgeOutboxFrame frame input
    ⟨judged.1.advanceOutboxWatermark seq, false, judged.2, true⟩

def applyTerminalOutcomeMarker (marker : TerminalOutcomeMarker) (nowMs : Int) :
    TerminalFailureBreakerState × TerminalMarkerOutcome × Bool :=
  if !marker.critical then
    (record, .backlogOnly, false)
  else if marker.takeoverEpoch < record.takeoverEpoch then
    (record, .coveredByTakeover, false)
  else if (record.markEvidenceLost nowMs).2 then
    ((record.markEvidenceLost nowMs).1, .evidenceLost, true)
  else
    (record, .alreadyBlocked, false)

/-! ## Batches -/

/-- The batch is the pending one only of the current launch. -/
def attachCatchupBatch (batch : CatchupBatch) : Option TerminalFailureBreakerState :=
  match record.catchupObligation, record.currentLaunch with
  | some obligation, some launch =>
      if launch.launchId = batch.launchId then
        some { record with
          catchupObligation := some { obligation with pendingBatch := some batch }
          currentLaunch := some { launch with catchupBatchId := some batch.batchId } }
      else
        none
  | _, _ => none

def applyCatchupBuild (readCursors : InsertionMap JsString Int) (batch : Option CatchupBatch) :
    CatchupBuildApplied :=
  match record.catchupObligation with
  | none => ⟨record, false, false, [], false⟩
  | some obligation =>
      let (settledObligation, settled) := settleCatchupByReadCursor obligation readCursors
      let state := { record with catchupObligation := settledObligation }
      match settledObligation, batch with
      | some _, some batch =>
          match state.attachCatchupBatch { batch with settledByCursor := settled } with
          | some attached => ⟨attached, true, true, settled, false⟩
          | none => ⟨state, !settled.isEmpty, false, settled, false⟩
      | settledObligation, _ => ⟨state, !settled.isEmpty, false, settled, settledObligation.isNone⟩

end TerminalFailureBreakerState

/-! ## Runs -/

inductive BreakerEvent where
  | failure (frame : TerminalFailureFrame) (nowMs : Int)
      (unreadCeilings : Option (InsertionMap JsString Int))
  | turnCompleted (frame : TurnCompletedFrame) (nowMs : Int) (persistedSessionId : Option JsString)
  | gate (input : TerminalWakeGateInput)
  | claim (input : TerminalClaimInput)
  | rollback (token : TerminalClaimToken) (nowMs : Int) (dispatchLeftReplica : Bool)
  | lift (cause : TerminalLiftCause) (nowMs : Int)
  | manualStop (nowMs : Int)
  | startAck (ack : TerminalStartAck)
  | processSpawned (frame : TerminalProcessSpawnedFrame)
  | processExited (frame : TerminalProcessExitFrame)
  | daemonReady (daemonInstanceId : JsString) (nowMs : Int)
  | startRejected (input : TerminalStartRejection)
  | outboxFrame (frame : TerminalOutboxFrame) (input : TerminalOutboxFrameInput)
  | marker (marker : TerminalOutcomeMarker) (nowMs : Int)
  | catchupBuild (readCursors : InsertionMap JsString Int) (batch : Option CatchupBatch)
  | attachBatch (batch : CatchupBatch)

def TerminalClaimResult.stateAfter (result : TerminalClaimResult)
    (current : TerminalFailureBreakerState) : TerminalFailureBreakerState :=
  match result with
  | .claimed state _ => state
  | .refused _ => current

def TerminalClaimResult.tokens : TerminalClaimResult → List TerminalClaimToken
  | .claimed _ token => [token]
  | .refused _ => []

namespace TerminalFailureBreakerState

def transition (record : TerminalFailureBreakerState) : BreakerEvent → TerminalFailureBreakerState
  | .failure frame nowMs unreadCeilings =>
      (record.applyTerminalFailureFrame frame nowMs unreadCeilings).state
  | .turnCompleted frame nowMs persistedSessionId =>
      (record.applyTurnCompletedFrame frame nowMs persistedSessionId).state
  | .gate input => (record.evaluateTerminalWakeGate input).state
  | .claim input => (record.claimTerminalStart input).stateAfter record
  | .rollback token nowMs dispatchLeftReplica =>
      (record.rollbackTerminalClaim token nowMs dispatchLeftReplica).1
  | .lift cause nowMs => record.applyTerminalLift cause nowMs
  | .manualStop nowMs => (record.applyTerminalManualStop nowMs).1
  | .startAck ack => (record.applyTerminalStartAck ack).state
  | .processSpawned frame => (record.applyTerminalProcessSpawned frame).state
  | .processExited frame => (record.applyTerminalProcessExited frame).state
  | .daemonReady daemonInstanceId nowMs =>
    (record.applyTerminalDaemonReady daemonInstanceId nowMs).1
  | .startRejected input => (record.applyTerminalStartRejectedBeforeSpawn input).state
  | .outboxFrame frame input => (record.applyTerminalOutboxFrame frame input).state
  | .marker marker nowMs => (record.applyTerminalOutcomeMarker marker nowMs).1
  | .catchupBuild readCursors batch => (record.applyCatchupBuild readCursors batch).state
  | .attachBatch batch => (record.attachCatchupBatch batch).getD record

end TerminalFailureBreakerState

end Raft.TerminalBreaker
