import Raft.TerminalBreaker.State

/-!
# What a launch's frames do

A terminal failure and a completed turn count only when they are bound to the
current launch, its generation and a newer seq, and a completed turn also to
the session.  An open circuit takes them from its last probe.
-/

namespace Raft.TerminalBreaker

open Raft.Foundation

inductive TerminalFrameIgnoredReason where
  | noCurrentLaunch
  | launchMismatch
  | generationMismatch
  | staleSeq
  | alreadyCounted
  | afterTerminal
  | sessionUnbound
  deriving DecidableEq

structure TerminalFailureFrame where
  launchId : JsString
  sessionId : Option JsString
  daemonInstanceId : JsString
  clientSeq : Int
  failureKind : JsString
  fingerprint : JsString
  deriving DecidableEq

structure TurnCompletedFrame where
  launchId : JsString
  sessionId : Option JsString
  daemonInstanceId : JsString
  clientSeq : Int
  catchupBatchId : Option JsString
  /-- Absent only for callers inside the server. -/
  catchupRenderedRows : Option (Option Int)
  deriving DecidableEq

def TerminalFailureFrame.seq (frame : TerminalFailureFrame) : TerminalFrameSeq :=
  ⟨frame.daemonInstanceId, frame.clientSeq⟩

def TurnCompletedFrame.seq (frame : TurnCompletedFrame) : TerminalFrameSeq :=
  ⟨frame.daemonInstanceId, frame.clientSeq⟩

/-- Seqs of different daemon instances are not comparable. -/
def isSeqNewer (last : Option TerminalFrameSeq) (frame : TerminalFrameSeq) : Bool :=
  match last with
  | none => true
  | some last => last.daemonInstanceId ≠ frame.daemonInstanceId || last.clientSeq < frame.clientSeq

def bindLaunch (launch : TerminalBreakerLaunch) (generation : Nat) (launchId : JsString)
    (seq : TerminalFrameSeq) (terminalReason : TerminalFrameIgnoredReason) :
    Option TerminalFrameIgnoredReason :=
  if launchId ≠ launch.launchId then some .launchMismatch
  else if launch.generation ≠ generation then some .generationMismatch
  else if !isSeqNewer launch.lastAppliedSeq seq then some .staleSeq
  else if launch.terminal.isSome then some terminalReason
  else none

def isSessionBound (sessionId : Option JsString) (launch : TerminalBreakerLaunch)
    (persistedSessionId : Option JsString) : Bool :=
  sessionId.isSome &&
    (sessionId = launch.resumedSessionId || persistedSessionId.isSome && sessionId =
      persistedSessionId)

inductive TerminalOpenTrigger where
  | sameFp
  | total
  deriving DecidableEq

def TerminalOpenTrigger.text : TerminalOpenTrigger → JsString
  | .sameFp => js "same_fp"
  | .total => js "total"

structure TerminalFailureApplied where
  state : TerminalFailureBreakerState
  applied : Bool
  counted : Bool
  ignored : Option TerminalFrameIgnoredReason
  openedNow : Bool
  trigger : Option TerminalOpenTrigger

structure TurnCompletedApplied where
  state : TerminalFailureBreakerState
  applied : Bool
  ignored : Option TerminalFrameIgnoredReason
  closedNow : Bool
  echoApplied : Bool

def settledWakeDemand (wakeDemand : Option TerminalWakeDemand) (launchId : JsString) :
    Option TerminalWakeDemand :=
  match wakeDemand with
  | none => none
  | some demand =>
      match demand.claimedSeq with
      | none => some demand
      | some claimedSeq =>
          if demand.claimedLaunchId ≠ some launchId then some demand
          else if demand.seq ≤ claimedSeq then none
          else some { demand with claimedSeq := none, claimedLaunchId := none }

/-- The pending batch that a completed turn echoes in full. -/
def echoedBatch (obligation : Option CatchupObligation) (frame : TurnCompletedFrame) :
    Option CatchupBatch :=
  (obligation.bind (·.pendingBatch)).filter fun batch =>
    frame.catchupBatchId = some batch.batchId && batch.launchId = frame.launchId &&
      (frame.catchupRenderedRows.isNone ||
        frame.catchupRenderedRows = some (some (batch.messages.length : Int)))

def echoedObligation (obligation : Option CatchupObligation) (frame : TurnCompletedFrame) :
    Option CatchupObligation :=
  match obligation, echoedBatch obligation frame with
  | some owed, some batch => applyCatchupEcho owed batch
  | obligation, _ => obligation

namespace TerminalFailureBreakerState

variable (record : TerminalFailureBreakerState)

def countedFingerprint (fingerprint : JsString) : TerminalSameFingerprint :=
  match record.sameFingerprint with
  | some same =>
      if same.fingerprint = fingerprint then ⟨fingerprint, same.count + 1⟩ else ⟨fingerprint, 1⟩
  | none => ⟨fingerprint, 1⟩

def countFailure (launch : TerminalBreakerLaunch) (frame : TerminalFailureFrame) (nowMs : Int) :
    TerminalFailureBreakerState :=
  let failure : TerminalLastFailure :=
    ⟨frame.failureKind, frame.fingerprint, frame.launchId, frame.sessionId, nowMs⟩
  { record with
    currentLaunch := some { launch with terminal := some .e1, lastAppliedSeq := some frame.seq }
    sameFingerprint := some (record.countedFingerprint frame.fingerprint)
    totalCount := record.totalCount + 1
    lastFailure := some failure
    diagnostics := { record.diagnostics with lastFailure := some failure } }

def raiseUnread (ceilings : Option (InsertionMap JsString Int)) : TerminalFailureBreakerState :=
  { record with
    catchupObligation := some (raiseCatchupObligation record.catchupObligation ceilings .failure) }

def reopenAfterProbe (nowMs : Int) (unreadCeilings : Option (InsertionMap JsString Int)) :
    TerminalFailureBreakerState :=
  ({ record with
      backoffStep := nextBackoffStep record.backoffStep
      blockedUntilMs := some (nowMs + backoffMs (nextBackoffStep record.backoffStep))
      currentLaunch := record.currentLaunch.map TerminalBreakerLaunch.withoutLease
    }.raiseUnread unreadCeilings).withTransition .opened (js "probe_e1") nowMs

def openTrigger : Option TerminalOpenTrigger :=
  if record.sameFingerprint.any fun same => TERMINAL_FAILURE_SAME_FP_THRESHOLD ≤ same.count then
    some .sameFp
  else if TERMINAL_FAILURE_TOTAL_THRESHOLD ≤ record.totalCount then
    some .total
  else
    none

def openAtThreshold (trigger : TerminalOpenTrigger) (nowMs : Int)
    (unreadCeilings : Option (InsertionMap JsString Int)) : TerminalFailureBreakerState :=
  ({ record with
      backoffStep := 0
      openedAtMs := some nowMs
      blockedUntilMs := some (nowMs + backoffMs 0)
    }.raiseUnread unreadCeilings).withTransition .opened (js "threshold_" ++ trigger.text) nowMs

/-- A late failure of the last probe ends it and adds no count. -/
def noteLateFailure (probe : TerminalBreakerLaunch) (frame : TerminalFailureFrame) :
    TerminalFailureBreakerState :=
  { record with
    lastProbe := some { probe with terminal := some .e1, lastAppliedSeq := some frame.seq } }

def ignoreFailure (ignored : TerminalFrameIgnoredReason) : TerminalFailureApplied :=
  ⟨record, false, false, some ignored, false, none⟩

def applyTerminalFailureFrame (frame : TerminalFailureFrame) (nowMs : Int)
    (unreadCeilings : Option (InsertionMap JsString Int)) : TerminalFailureApplied :=
  let normalized := record.normalizeTerminalBreakerLease nowMs
  if normalized.state = .opened then
    match normalized.lastProbe.filter fun probe => frame.launchId = probe.launchId with
    | none =>
        match normalized.currentLaunch with
        | none => record.ignoreFailure .noCurrentLaunch
        | some launch =>
            record.ignoreFailure
              ((bindLaunch launch normalized.generation frame.launchId frame.seq
                .alreadyCounted).getD
                .alreadyCounted)
    | some probe =>
        match bindLaunch probe normalized.generation frame.launchId frame.seq .alreadyCounted with
        | some reason => record.ignoreFailure reason
        | none =>
            ⟨(normalized.noteLateFailure probe frame).finishTransition, true, false, none,
              false, none⟩
  else
    match normalized.currentLaunch with
    | none => record.ignoreFailure .noCurrentLaunch
    | some launch =>
        match bindLaunch launch normalized.generation frame.launchId frame.seq .alreadyCounted with
        | some reason => record.ignoreFailure reason
        | none =>
            let state := normalized.countFailure launch frame nowMs
            if state.state = .halfOpen then
              ⟨(state.reopenAfterProbe nowMs unreadCeilings).finishTransition, true, true,
                none, true,
                none⟩
            else
              match state.openTrigger with
              | none => ⟨state.finishTransition, true, true, none, false, none⟩
              | some trigger =>
                  ⟨(state.openAtThreshold trigger nowMs unreadCeilings).finishTransition,
                    true, true,
                    none, true, some trigger⟩

def completeTurn (launch : TerminalBreakerLaunch) (frame : TurnCompletedFrame) :
    TerminalFailureBreakerState :=
  { record with
    sameFingerprint := none
    totalCount := 0
    backoffStep := 0
    spawnError := none
    wakeDemand := settledWakeDemand record.wakeDemand frame.launchId
    currentLaunch := some { launch with lastAppliedSeq := some frame.seq }
    catchupObligation := echoedObligation record.catchupObligation frame }

def closeCircuit (cause : JsString) (nowMs : Int) : TerminalFailureBreakerState :=
  { record with
    currentLaunch := record.currentLaunch.map TerminalBreakerLaunch.withoutLease
    blockedUntilMs := none
    openedAtMs := none }.withTransition .closed cause nowMs

/-- A late clean turn of the last probe makes it the current launch again. -/
def completeLateTurn (probe : TerminalBreakerLaunch) (frame : TurnCompletedFrame) (nowMs : Int) :
    TerminalFailureBreakerState :=
  { record.completeTurn probe frame with lastProbe := none }.closeCircuit (js "late_e2") nowMs

def ignoreTurn (ignored : TerminalFrameIgnoredReason) : TurnCompletedApplied :=
  ⟨record, false, some ignored, false, false⟩

def applyTurnCompletedFrame (frame : TurnCompletedFrame) (nowMs : Int)
    (persistedSessionId : Option JsString) : TurnCompletedApplied :=
  let normalized := record.normalizeTerminalBreakerLease nowMs
  let echoApplied := (echoedBatch normalized.catchupObligation frame).isSome
  if normalized.state = .opened then
    match normalized.currentLaunch, normalized.lastProbe with
    | some launch, _ =>
        record.ignoreTurn
          ((bindLaunch launch normalized.generation frame.launchId frame.seq .afterTerminal).getD
            .afterTerminal)
    | none, none => record.ignoreTurn .noCurrentLaunch
    | none, some probe =>
        match bindLaunch probe normalized.generation frame.launchId frame.seq .afterTerminal with
        | some reason => record.ignoreTurn reason
        | none =>
            if isSessionBound frame.sessionId probe persistedSessionId then
              ⟨(normalized.completeLateTurn probe frame nowMs).finishTransition, true, none, true,
                echoApplied⟩
            else
              record.ignoreTurn .sessionUnbound
  else
    match normalized.currentLaunch with
    | none => record.ignoreTurn .noCurrentLaunch
    | some launch =>
        match bindLaunch launch normalized.generation frame.launchId frame.seq .afterTerminal with
        | some reason => record.ignoreTurn reason
        | none =>
            if isSessionBound frame.sessionId launch persistedSessionId then
              let state := normalized.completeTurn launch frame
              if state.state = .halfOpen then
                ⟨(state.closeCircuit (js "probe_e2") nowMs).finishTransition, true, none, true,
                  echoApplied⟩
              else
                ⟨state.finishTransition, true, none, false, echoApplied⟩
            else
              record.ignoreTurn .sessionUnbound

end TerminalFailureBreakerState

end Raft.TerminalBreaker
