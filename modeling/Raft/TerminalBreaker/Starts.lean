import Raft.TerminalBreaker.Frames

/-!
# Starting an agent

An automatic start passes a gate and then a claim, which writes the pending entry
of its launch before it is dispatched.  A human start takes over everything the
record holds against a start.  A claim whose dispatch failed is rolled back while
its launch is still the current one.
-/

namespace Raft.TerminalBreaker

open Raft.Foundation

inductive TerminalWakeRefusal where
  | paused
  | probeInFlight
  | needsManual
  deriving DecidableEq

structure TerminalAutomaticRefusal where
  refusal : TerminalWakeRefusal
  needsManual : Option TerminalNeedsManualReason
  deriving DecidableEq

structure TerminalWakeMessage where
  conversationId : JsString
  seq : Int
  deriving DecidableEq

structure TerminalWakeGateInput where
  nowMs : Int
  capability : Bool
  wakeMessage : Option TerminalWakeMessage
  wakeDemand : Bool
  deriving DecidableEq

structure TerminalWakeGateResult where
  /-- The refusal, or `none` to pass. -/
  decision : Option TerminalWakeRefusal
  state : TerminalFailureBreakerState
  write : Bool

inductive TerminalStartControl where
  | automatic
  | humanStart
  deriving DecidableEq

structure TerminalClaimInput where
  launchId : JsString
  nowMs : Int
  resumedSessionId : Option JsString
  daemonInstanceId : Option JsString
  capability : Bool
  control : TerminalStartControl
  wakeDemand : Bool
  deriving DecidableEq

structure TerminalClaimToken where
  launchId : JsString
  generation : Nat
  claimedAtMs : Int
  isProbe : Bool
  control : TerminalStartControl
  previousLaunch : Option TerminalBreakerLaunch
  takeoverEpoch : Nat
  deriving DecidableEq

inductive TerminalClaimResult where
  | claimed (state : TerminalFailureBreakerState) (token : TerminalClaimToken)
  | refused (reason : TerminalWakeRefusal)

inductive TerminalRollbackOutcome where
  | restored
  | skippedNotOwner
  deriving DecidableEq

inductive TerminalLiftCause where
  | humanReset
  | runtimeConfigChanged
  deriving DecidableEq

def TerminalLiftCause.text : TerminalLiftCause → JsString
  | .humanReset => js "human_reset"
  | .runtimeConfigChanged => js "runtime_config_changed"

def raisedDemand (wakeDemand : Option TerminalWakeDemand) (nowMs : Int) : TerminalWakeDemand :=
  match wakeDemand with
  | none => ⟨1, nowMs, none, none⟩
  | some demand => { demand with seq := demand.seq + 1 }

def unclaimedDemand (wakeDemand : Option TerminalWakeDemand) (launchId : JsString) :
    Option TerminalWakeDemand :=
  wakeDemand.map fun demand =>
    if demand.claimedLaunchId = some launchId then
      { demand with claimedSeq := none, claimedLaunchId := none }
    else
      demand

namespace TerminalFailureBreakerState

variable (record : TerminalFailureBreakerState)

def needsManualReasonFor : TerminalNeedsManualReason :=
  if record.unexitedOverflow then .unexitedOverflow else .unexitedProcess

def automaticRefusal (nowMs : Int) (capability : Bool) : Option TerminalAutomaticRefusal :=
  if !capability then
    if record.isTerminalBreakerProtecting then some ⟨.needsManual, some .outcomeUnobservable⟩
      else none
  else if record.state = .halfOpen then
    some ⟨.probeInFlight, none⟩
  else
    match record.needsManual with
    | some block => some ⟨.needsManual, some block.reason⟩
    | none =>
        if !record.blockingUnexitedEntries.isEmpty || record.unexitedOverflow then
          some ⟨.needsManual, some record.needsManualReasonFor⟩
        else if record.state = .opened && record.blockedUntilMs.any fun blockedUntil => nowMs <
          blockedUntil then
          some ⟨.paused, none⟩
        else
          none

/-! ## The gate -/

def refusalBlock (refused : TerminalAutomaticRefusal) (nowMs : Int) : Option TerminalNeedsManual :=
  match refused.needsManual, record.needsManual with
  | some reason, none =>
      some ⟨reason, nowMs,
        if reason = .unexitedProcess then record.blockingUnexitedEntries.map unexitedKey else []⟩
  | _, _ => none

/-- Refused only because a dispatched start has no confirmed process yet. -/
def refusalOrigin (refused : TerminalAutomaticRefusal) : CatchupObligationOrigin :=
  if refused.refusal = .needsManual && refused.needsManual = some .unexitedProcess &&
      !record.isTerminalBreakerEngaged then
    .identityWait
  else
    .failure

def raisedMessage (wakeMessage : Option TerminalWakeMessage) : Option TerminalWakeMessage :=
  wakeMessage.filter fun message =>
    match record.catchupObligation.bind fun owed =>
      owed.owedCeilings.get message.conversationId with
    | none => true
    | some ceiling => decide (ceiling < message.seq)

def oweMessage (obligation : Option CatchupObligation) (message : Option TerminalWakeMessage)
    (origin : CatchupObligationOrigin) : Option CatchupObligation :=
  match message with
  | none => obligation
  | some message =>
      some (raiseCatchupObligation obligation
        (some (InsertionMap.empty.set message.conversationId message.seq)) origin)

def engageDebt (obligation : Option CatchupObligation) (origin : CatchupObligationOrigin) :
    Option CatchupObligation :=
  if origin = .failure then obligation.map fun owed => { owed with engagedByFailure := true }
  else obligation

def owedAfterRefusal (refused : TerminalAutomaticRefusal) (input : TerminalWakeGateInput) :
    Option CatchupObligation :=
  oweMessage record.catchupObligation (record.raisedMessage input.wakeMessage)
    (record.refusalOrigin refused)

def recordRefusal (refused : TerminalAutomaticRefusal) (input : TerminalWakeGateInput) :
    TerminalFailureBreakerState :=
  { record with
    needsManual := (record.refusalBlock refused input.nowMs).or record.needsManual
    catchupObligation :=
      engageDebt (record.owedAfterRefusal refused input) (record.refusalOrigin refused)
    wakeDemand :=
      if input.wakeDemand && input.capability then some (raisedDemand record.wakeDemand input.nowMs)
      else record.wakeDemand }

def refusalChanges (refused : TerminalAutomaticRefusal) (input : TerminalWakeGateInput) : Bool :=
  (record.refusalBlock refused input.nowMs).isSome ||
    (record.raisedMessage input.wakeMessage).isSome ||
    (record.refusalOrigin refused = .failure &&
      (record.owedAfterRefusal refused input).any fun owed => !owed.engagedByFailure) ||
    (input.wakeDemand && input.capability)

def evaluateTerminalWakeGate (input : TerminalWakeGateInput) : TerminalWakeGateResult :=
  let normalized := record.normalizeTerminalBreaker input.nowMs
  match normalized.automaticRefusal input.nowMs input.capability with
  | none => ⟨none, normalized, record.normalizeChanges input.nowMs⟩
  | some refused =>
      let changes := normalized.refusalChanges refused input
      ⟨some refused.refusal,
        if changes then (normalized.recordRefusal refused input).markProtectedIfEngaged
          else normalized,
        record.normalizeChanges input.nowMs || changes⟩

/-! ## Claiming a start -/

/-- One entry too many drops the oldest and is remembered as an overflow. -/
def pushUnexited (entry : TerminalUnexitedEntry) : TerminalFailureBreakerState :=
  let unexited := record.unexited ++ [entry]
  { record with
    unexited := keepLast TERMINAL_FAILURE_UNEXITED_MAX unexited
    unexitedOverflow :=
      record.unexitedOverflow || TERMINAL_FAILURE_UNEXITED_MAX < unexited.length }

def pushAcknowledged (entries : List TerminalAcknowledgedUnexited) : TerminalFailureBreakerState :=
  { record with
    acknowledgedUnexited :=
      keepLast TERMINAL_FAILURE_ACKNOWLEDGED_UNEXITED_MAX (record.acknowledgedUnexited ++ entries) }

def acknowledge (nowMs : Int) (reason : TerminalAcknowledgedReason)
    (entry : TerminalUnexitedEntry) :
    TerminalAcknowledgedUnexited :=
  ⟨entry.processInstanceId, entry.daemonInstanceId, entry.spawnLaunchId, nowMs, reason⟩

def liftCommon (cause : JsString) (nowMs : Int) : TerminalFailureBreakerState :=
  { record with
    sameFingerprint := none
    totalCount := 0
    backoffStep := 0
    generation := record.generation + 1
    currentLaunch := none
    lastProbe := none
    blockedUntilMs := none
    openedAtMs := none }.withTransition .closed cause nowMs

def takeOver (nowMs : Int) : TerminalFailureBreakerState :=
  { record.pushAcknowledged (record.unexited.map (acknowledge nowMs .humanStart)) with
    unexited := []
    unexitedOverflow := false
    needsManual := none
    takeoverEpoch := record.takeoverEpoch + 1 }.liftCommon (js "human_start") nowMs

/-- Past its backoff the open circuit admits one probe. -/
def claimProbe (nowMs : Int) : TerminalFailureBreakerState :=
  if record.state = .opened then
    { record with lastProbe := record.currentLaunch }.withTransition .halfOpen
    (js "probe_claimed") nowMs
  else
    record

def startLaunch (input : TerminalClaimInput) (isProbe : Bool) : TerminalFailureBreakerState :=
  { record with
    currentLaunch := some
      { launchId := input.launchId
        generation := record.generation
        resumedSessionId := input.resumedSessionId
        isProbe
        claimedAtMs := input.nowMs
        leaseExpiresAtMs :=
          if isProbe then some (input.nowMs + TERMINAL_FAILURE_PROBE_LEASE_MS) else none
        lastAppliedSeq := none
        terminal := none
        takeover := false
        catchupBatchId := none } }

def claimDemand (input : TerminalClaimInput) : TerminalFailureBreakerState :=
  let demand :=
    if input.wakeDemand && input.control = .automatic && input.capability then
      some (raisedDemand record.wakeDemand input.nowMs)
    else
      record.wakeDemand
  { record with
    wakeDemand := demand.map fun demand =>
      { demand with claimedSeq := some demand.seq, claimedLaunchId := some input.launchId } }

def pushPending (input : TerminalClaimInput) : TerminalFailureBreakerState :=
  match input.daemonInstanceId with
  | none => record
  | some daemonInstanceId =>
      if input.capability then
        record.pushUnexited ⟨input.launchId, daemonInstanceId, none, [input.launchId],
          input.nowMs, false⟩
      else
        record

def claimLaunch (input : TerminalClaimInput) (isProbe : Bool) : TerminalFailureBreakerState :=
  (((record.startLaunch input isProbe).claimDemand input).pushPending input).markProtectedIfEngaged

def claimTerminalStart (input : TerminalClaimInput) : TerminalClaimResult :=
  let normalized := record.normalizeTerminalBreaker input.nowMs
  match input.control with
  | .humanStart =>
      let state := (normalized.takeOver input.nowMs).claimLaunch input false
      .claimed state
        ⟨input.launchId, state.generation, input.nowMs, false, .humanStart, none,
          state.takeoverEpoch⟩
  | .automatic =>
      match normalized.automaticRefusal input.nowMs input.capability with
      | some refused => .refused refused.refusal
      | none =>
          let isProbe := decide (normalized.state = .opened)
          let state := (normalized.claimProbe input.nowMs).claimLaunch input isProbe
          .claimed state
            ⟨input.launchId, state.generation, input.nowMs, isProbe, .automatic,
              if isProbe then none else normalized.currentLaunch, state.takeoverEpoch⟩

/-! ## Rollback, lift and manual stop -/

def ownsCurrentLaunch (token : TerminalClaimToken) : Bool :=
  match record.currentLaunch with
  | none => false
  | some launch =>
      launch.launchId = token.launchId && launch.generation = token.generation &&
        launch.claimedAtMs = token.claimedAtMs && record.generation = token.generation

/-- A probe goes to the open circuit, and any other claim back to the launch it replaced. -/
def undoLaunch (token : TerminalClaimToken) (nowMs : Int) : TerminalFailureBreakerState :=
  if token.isProbe then
    { record with
      backoffStep := nextBackoffStep record.backoffStep
      blockedUntilMs := some (nowMs + backoffMs (nextBackoffStep record.backoffStep))
      generation := record.generation + 1
      currentLaunch := none }.withTransition .opened (js "probe_dispatch_failed") nowMs
  else
    { record with currentLaunch := token.previousLaunch }

/-- Only a frame that never left the replica proves that nothing was started. -/
def dropPending (launchId : JsString) (dispatchLeftReplica : Bool) : TerminalFailureBreakerState :=
  if dispatchLeftReplica then
    record
  else
    { record with
      unexited := record.unexited.filter fun entry =>
        !(entry.spawnLaunchId = launchId && entry.processInstanceId.isNone) }

def undoClaim (token : TerminalClaimToken) (nowMs : Int) (dispatchLeftReplica : Bool) :
    TerminalFailureBreakerState :=
  let undone := (record.undoLaunch token nowMs).dropPending token.launchId dispatchLeftReplica
  { undone with wakeDemand := unclaimedDemand undone.wakeDemand token.launchId }

def rollbackTerminalClaim (token : TerminalClaimToken) (nowMs : Int) (dispatchLeftReplica : Bool) :
    TerminalFailureBreakerState × TerminalRollbackOutcome :=
  if record.ownsCurrentLaunch token then
    ((record.undoClaim token nowMs dispatchLeftReplica).finishTransition, .restored)
  else
    (record, .skippedNotOwner)

def applyTerminalLift (cause : TerminalLiftCause) (nowMs : Int) : TerminalFailureBreakerState :=
  (record.liftCommon cause.text nowMs).finishTransition

def stopProbe (nowMs : Int) : TerminalFailureBreakerState :=
  { record with wakeDemand := none, currentLaunch := none }.withTransition .opened
  (js "manual_stop")
    nowMs

def applyTerminalManualStop (nowMs : Int) : TerminalFailureBreakerState × Bool :=
  let normalized := record.normalizeTerminalBreakerLease nowMs
  if normalized.state = .halfOpen then
    ((normalized.stopProbe nowMs).finishTransition, true)
  else if normalized.wakeDemand.isNone then
    (normalized, (record.expiredLease nowMs).isSome)
  else
    ({ normalized with wakeDemand := none }, true)

end TerminalFailureBreakerState

end Raft.TerminalBreaker
