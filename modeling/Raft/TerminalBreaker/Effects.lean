import Raft.TerminalBreaker.Machine

/-!
# What each transition can do

One inductive relation for each transition with more than one way to end: the
record that it leaves, with the conditions under which it does so.
-/

namespace Raft.TerminalBreaker

open Raft.Foundation TerminalFailureBreakerState

theorem bindLaunch_eq_none {launch : TerminalBreakerLaunch} {generation : Nat} {launchId : JsString}
    {seq : TerminalFrameSeq} {reason : TerminalFrameIgnoredReason}
    (h : bindLaunch launch generation launchId seq reason = none) :
    launchId = launch.launchId ∧ launch.generation = generation ∧ launch.terminal = none := by
  simp only [bindLaunch] at h
  split_ifs at h with hlaunch hgeneration hseq hterminal
  simp_all

structure Bound (record : TerminalFailureBreakerState) (launch : TerminalBreakerLaunch)
    (launchId : JsString) : Prop where
  launchId : launchId = launch.launchId
  generation : launch.generation = record.generation
  live : launch.terminal = none

theorem bound_of_bindLaunch {record : TerminalFailureBreakerState} {launch : TerminalBreakerLaunch}
    {launchId : JsString} {seq : TerminalFrameSeq} {reason : TerminalFrameIgnoredReason}
    (h : bindLaunch launch record.generation launchId seq reason = none) :
    Bound record launch launchId :=
  have ⟨hlaunch, hgeneration, hterminal⟩ := bindLaunch_eq_none h
  ⟨hlaunch, hgeneration, hterminal⟩

inductive FailureEffect (record : TerminalFailureBreakerState) (frame : TerminalFailureFrame)
    (nowMs : Int) (unreadCeilings : Option (InsertionMap JsString Int))
    (normalized : TerminalFailureBreakerState) : TerminalFailureBreakerState → Prop
  | ignored : FailureEffect record frame nowMs unreadCeilings normalized record
  | late (probe : TerminalBreakerLaunch) (hopen : normalized.state = .opened)
      (hprobe : normalized.lastProbe = some probe)
      (hbound : Bound normalized probe frame.launchId) :
      FailureEffect record frame nowMs unreadCeilings normalized
        (normalized.noteLateFailure probe frame).finishTransition
  | probeFailed (launch : TerminalBreakerLaunch) (hhalf : normalized.state = .halfOpen)
      (hlaunch : normalized.currentLaunch = some launch)
      (hbound : Bound normalized launch frame.launchId) :
      FailureEffect record frame nowMs unreadCeilings normalized
        ((normalized.countFailure launch frame nowMs).reopenAfterProbe nowMs
          unreadCeilings).finishTransition
  | counted (launch : TerminalBreakerLaunch) (hclosed : normalized.state = .closed)
      (hlaunch : normalized.currentLaunch = some launch)
      (hbound : Bound normalized launch frame.launchId)
      (hbelow : (normalized.countFailure launch frame nowMs).openTrigger = none) :
      FailureEffect record frame nowMs unreadCeilings normalized
        (normalized.countFailure launch frame nowMs).finishTransition
  | opened (launch : TerminalBreakerLaunch) (trigger : TerminalOpenTrigger)
      (hclosed : normalized.state = .closed) (hlaunch : normalized.currentLaunch = some launch)
      (hbound : Bound normalized launch frame.launchId)
      (htrigger : (normalized.countFailure launch frame nowMs).openTrigger = some trigger) :
      FailureEffect record frame nowMs unreadCeilings normalized
        ((normalized.countFailure launch frame nowMs).openAtThreshold trigger nowMs
          unreadCeilings).finishTransition

inductive TurnEffect (record : TerminalFailureBreakerState) (frame : TurnCompletedFrame)
    (nowMs : Int) (normalized : TerminalFailureBreakerState) : TerminalFailureBreakerState → Prop
  | ignored : TurnEffect record frame nowMs normalized record
  | late (probe : TerminalBreakerLaunch) (hopen : normalized.state = .opened)
      (hnone : normalized.currentLaunch = none) (hprobe : normalized.lastProbe = some probe)
      (hbound : Bound normalized probe frame.launchId) :
      TurnEffect record frame nowMs normalized
        (normalized.completeLateTurn probe frame nowMs).finishTransition
  | recovered (launch : TerminalBreakerLaunch) (hhalf : normalized.state = .halfOpen)
      (hlaunch : normalized.currentLaunch = some launch)
      (hbound : Bound normalized launch frame.launchId) :
      TurnEffect record frame nowMs normalized
        ((normalized.completeTurn launch frame).closeCircuit (js "probe_e2") nowMs).finishTransition
  | completed (launch : TerminalBreakerLaunch) (hclosed : normalized.state = .closed)
      (hlaunch : normalized.currentLaunch = some launch)
      (hbound : Bound normalized launch frame.launchId) :
      TurnEffect record frame nowMs normalized
        (normalized.completeTurn launch frame).finishTransition

inductive GateEffect (record : TerminalFailureBreakerState) (input : TerminalWakeGateInput)
    (normalized : TerminalFailureBreakerState) : TerminalWakeGateResult → Prop
  | passed (write : Bool)
      (hadmits : normalized.automaticRefusal input.nowMs input.capability = none) :
      GateEffect record input normalized ⟨none, normalized, write⟩
  | known (refused : TerminalAutomaticRefusal) (write : Bool)
      (hrefused : normalized.automaticRefusal input.nowMs input.capability = some refused)
      (hunchanged : normalized.refusalChanges refused input = false) :
      GateEffect record input normalized ⟨some refused.refusal, normalized, write⟩
  | recorded (refused : TerminalAutomaticRefusal) (write : Bool)
      (hrefused : normalized.automaticRefusal input.nowMs input.capability = some refused) :
      GateEffect record input normalized
        ⟨some refused.refusal,
          (normalized.recordRefusal refused input).markProtectedIfEngaged, write⟩

def tokenOf (input : TerminalClaimInput) (isProbe : Bool)
    (previousLaunch : Option TerminalBreakerLaunch) (state : TerminalFailureBreakerState) :
    TerminalClaimToken :=
  ⟨input.launchId, state.generation, input.nowMs, isProbe, input.control, previousLaunch,
    state.takeoverEpoch⟩

inductive ClaimEffect (record : TerminalFailureBreakerState) (input : TerminalClaimInput)
    (normalized : TerminalFailureBreakerState) : TerminalClaimResult → Prop
  | refused (refusal : TerminalAutomaticRefusal) (hautomatic : input.control = .automatic)
      (hrefused : normalized.automaticRefusal input.nowMs input.capability = some refusal) :
      ClaimEffect record input normalized (.refused refusal.refusal)
  | takenOver (hhuman : input.control = .humanStart) (state : TerminalFailureBreakerState)
      (hstate : state = (normalized.takeOver input.nowMs).claimLaunch input false) :
      ClaimEffect record input normalized (.claimed state (tokenOf input false none state))
  | probe (hautomatic : input.control = .automatic)
      (hadmits : normalized.automaticRefusal input.nowMs input.capability = none)
      (hopen : normalized.state = .opened) (state : TerminalFailureBreakerState)
      (hstate : state = (normalized.claimProbe input.nowMs).claimLaunch input true) :
      ClaimEffect record input normalized (.claimed state (tokenOf input true none state))
  | replaced (hautomatic : input.control = .automatic)
      (hadmits : normalized.automaticRefusal input.nowMs input.capability = none)
      (hclosed : normalized.state = .closed) (state : TerminalFailureBreakerState)
      (hstate : state = normalized.claimLaunch input false) :
      ClaimEffect record input normalized
        (.claimed state (tokenOf input false normalized.currentLaunch state))

inductive RollbackEffect (record : TerminalFailureBreakerState) (token : TerminalClaimToken)
    (nowMs : Int) (dispatchLeftReplica : Bool) :
    TerminalFailureBreakerState × TerminalRollbackOutcome → Prop
  | skipped (howner : record.ownsCurrentLaunch token = false) :
      RollbackEffect record token nowMs dispatchLeftReplica (record, .skippedNotOwner)
  | restored (howner : record.ownsCurrentLaunch token = true) :
      RollbackEffect record token nowMs dispatchLeftReplica
        ((record.undoClaim token nowMs dispatchLeftReplica).finishTransition, .restored)

inductive ManualStopEffect (nowMs : Int) (normalized : TerminalFailureBreakerState) :
    TerminalFailureBreakerState → Prop
  | stopped (hhalf : normalized.state = .halfOpen) :
      ManualStopEffect nowMs normalized (normalized.stopProbe nowMs).finishTransition
  | idle (hhalf : normalized.state ≠ .halfOpen) (hnone : normalized.wakeDemand = none) :
      ManualStopEffect nowMs normalized normalized
  | cancelled (hhalf : normalized.state ≠ .halfOpen) :
      ManualStopEffect nowMs normalized { normalized with wakeDemand := none }

inductive AckEffect (record : TerminalFailureBreakerState) (ack : TerminalStartAck)
    (marked : TerminalFailureBreakerState) : TerminalFailureBreakerState → Prop
  | notRebind : AckEffect record ack marked record
  | exited (processInstanceId : JsString)
      (hprocess : ack.processInstanceId = some processInstanceId)
      (hexit : marked.isRecentExit ack.daemonInstanceId processInstanceId = true) :
      AckEffect record ack marked
        (marked.removeUnexited
          (marked.pendingIndex ack.launchId ack.daemonInstanceId).toList).finishTransition
  | merged (processInstanceId : JsString) (existing : Nat)
      (hprocess : ack.processInstanceId = some processInstanceId)
      (hexisting : marked.identityIndex ack.daemonInstanceId processInstanceId = some existing) :
      AckEffect record ack marked
        ((marked.modifyUnexited existing (·.absorbLaunch ack.launchId)).removeUnexited
          (marked.pendingIndex ack.launchId ack.daemonInstanceId).toList).finishTransition
  | filled (processInstanceId : JsString) (pending : Nat)
      (hprocess : ack.processInstanceId = some processInstanceId)
      (hnew : marked.identityIndex ack.daemonInstanceId processInstanceId = none)
      (hpending : marked.pendingIndex ack.launchId ack.daemonInstanceId = some pending) :
      AckEffect record ack marked (marked.fillPending pending processInstanceId).finishTransition
  | unmatched (processInstanceId : JsString)
      (hpending : marked.pendingIndex ack.launchId ack.daemonInstanceId = none) :
      AckEffect record ack marked marked.finishTransition

inductive SpawnEffect (frame : TerminalProcessSpawnedFrame) (reset : TerminalFailureBreakerState) :
    TerminalFailureBreakerState → Prop
  | unknownExit (hexit : reset.isRecentExit frame.daemonInstanceId frame.processInstanceId = true)
      (hpending : reset.pendingIndexes frame.launches frame.daemonInstanceId = []) :
      SpawnEffect frame reset reset
  | exited (hexit : reset.isRecentExit frame.daemonInstanceId frame.processInstanceId = true) :
      SpawnEffect frame reset
        (reset.removeUnexited
          (reset.pendingIndexes frame.launches frame.daemonInstanceId)).finishTransition
  | merged (existing : Nat)
      (hexisting : reset.identityIndex frame.daemonInstanceId frame.processInstanceId =
        some existing) :
      SpawnEffect frame reset
        (((reset.modifyUnexited existing (·.appendLaunchIds frame.launches)).removeUnexited
          (reset.pendingIndexes frame.launches frame.daemonInstanceId)).settleSpawned frame)
  | filled (keep : Nat)
      (hnew : reset.identityIndex frame.daemonInstanceId frame.processInstanceId = none)
      (hkeep : keep ∈ reset.pendingIndexes frame.launches frame.daemonInstanceId) :
      SpawnEffect frame reset
        ((((reset.fillPending keep frame.processInstanceId).modifyUnexited keep
          (·.appendLaunchIds frame.launches)).removeUnexited
            ((reset.pendingIndexes frame.launches frame.daemonInstanceId).filter
              (· ≠ keep))).settleSpawned frame)
  | acknowledged (index : Nat)
      (hpending : reset.pendingIndexes frame.launches frame.daemonInstanceId = []) :
      SpawnEffect frame reset (reset.fillAcknowledged index frame.processInstanceId)
  | tracked (hnew : reset.identityIndex frame.daemonInstanceId frame.processInstanceId = none)
      (hpending : reset.pendingIndexes frame.launches frame.daemonInstanceId = []) :
      SpawnEffect frame reset ((reset.pushUnexited frame.untrackedEntry).settleSpawned frame)

inductive ExitEffect (record : TerminalFailureBreakerState) (frame : TerminalProcessExitFrame) :
    TerminalFailureBreakerState → Prop
  | removed (index : Nat) (hindex : record.exitedIndex frame = some index) :
      ExitEffect record frame
        (((record.removeUnexited [index]).recordExit frame).endCarried
          (record.carriedLaunches frame index) frame.atMs).1.finishTransition
  | acknowledged (index : Nat) (hnone : record.exitedIndex frame = none) :
      ExitEffect record frame ((record.removeAcknowledged index).recordExit frame).finishTransition
  | unmatched (hnone : record.exitedIndex frame = none) :
      ExitEffect record frame (record.recordExit frame).finishTransition

inductive ReadyEffect (record : TerminalFailureBreakerState) (daemonInstanceId : JsString)
    (nowMs : Int) : TerminalFailureBreakerState → Prop
  | current (hcurrent : ∀ entry ∈ record.unexited, entry.daemonInstanceId = daemonInstanceId) :
      ReadyEffect record daemonInstanceId nowMs record
  | retired : ReadyEffect record daemonInstanceId nowMs
      (record.markProtectedIfEngaged.retireOlder daemonInstanceId nowMs).finishTransition

inductive RejectionEffect (input : TerminalStartRejection)
    (normalized : TerminalFailureBreakerState) : TerminalFailureBreakerState → Prop
  | unmatched (hpending : normalized.pendingIndex input.launchId input.daemonInstanceId = none) :
      RejectionEffect input normalized normalized
  | counted (launch : TerminalBreakerLaunch) (hlaunch : normalized.currentLaunch = some launch)
      (hbound : Bound normalized launch input.launchId) :
      RejectionEffect input normalized
        ((normalized.rejectStart input).countSpawnError launch (input.nowMs.getD 0)
          input.unreadCeilings).finishTransition
  | released (launch : TerminalBreakerLaunch) (hhalf : normalized.state = .halfOpen)
      (hlaunch : normalized.currentLaunch = some launch)
      (hbound : Bound normalized launch input.launchId) (hprobe : launch.isProbe = true) :
      RejectionEffect input normalized
        ((normalized.rejectStart input).releaseProbe (input.nowMs.getD 0)).finishTransition
  | removed : RejectionEffect input normalized (normalized.rejectStart input).finishTransition

inductive AttachEffect (record : TerminalFailureBreakerState) (batch : CatchupBatch) :
    TerminalFailureBreakerState → Prop
  | attached (obligation : CatchupObligation) (launch : TerminalBreakerLaunch)
      (hobligation : record.catchupObligation = some obligation)
      (hlaunch : record.currentLaunch = some launch) (hid : launch.launchId = batch.launchId) :
      AttachEffect record batch
        { record with
          catchupObligation := some { obligation with pendingBatch := some batch }
          currentLaunch := some { launch with catchupBatchId := some batch.batchId } }

inductive BuildEffect (record : TerminalFailureBreakerState)
    (readCursors : InsertionMap JsString Int)
    (batch : Option CatchupBatch) : TerminalFailureBreakerState → Prop
  | nothingOwed (hnone : record.catchupObligation = none) :
      BuildEffect record readCursors batch record
  | settled (obligation : CatchupObligation)
      (hobligation : record.catchupObligation = some obligation) :
      BuildEffect record readCursors batch
        { record with catchupObligation := (settleCatchupByReadCursor obligation readCursors).1 }
  | attached (obligation owed : CatchupObligation) (built : CatchupBatch)
      (next : TerminalFailureBreakerState)
      (hobligation : record.catchupObligation = some obligation)
      (howed : (settleCatchupByReadCursor obligation readCursors).1 = some owed)
      (hbuilt : batch = some built)
      (hattached : AttachEffect
        { record with catchupObligation := (settleCatchupByReadCursor obligation readCursors).1 }
        { built with settledByCursor := (settleCatchupByReadCursor obligation readCursors).2 }
          next) :
      BuildEffect record readCursors batch next

inductive OutboxEffect (record : TerminalFailureBreakerState) (frame : TerminalOutboxFrame)
    (input : TerminalOutboxFrameInput) : TerminalOutboxApplied → Prop
  | replayed (hreplayed : record.isReplayed (terminalOutboxFrameSeq frame) = true) :
      OutboxEffect record frame input ⟨record, true, .duplicate, false⟩
  | lost (hnew : record.isReplayed (terminalOutboxFrameSeq frame) = false)
      (hfirst : record.terminalOutboxWatermark
        (terminalOutboxFrameSeq frame).daemonInstanceId = none)
      (hlost : record.outboxWatermarksLost = true) :
      OutboxEffect record frame input
        ⟨(record.markEvidenceLost input.nowMs).1.advanceOutboxWatermark
          (terminalOutboxFrameSeq frame),
          false, .watermarksLost, true⟩
  | judged (hnew : record.isReplayed (terminalOutboxFrameSeq frame) = false)
      (hknown : record.outboxWatermarksLost = true →
        record.terminalOutboxWatermark (terminalOutboxFrameSeq frame).daemonInstanceId ≠ none) :
      OutboxEffect record frame input
        ⟨(record.judgeOutboxFrame frame input).1.advanceOutboxWatermark
          (terminalOutboxFrameSeq frame),
          false, (record.judgeOutboxFrame frame input).2, true⟩

namespace TerminalFailureBreakerState

variable (record : TerminalFailureBreakerState)

theorem state_cases :
    record.state = .closed ∨ record.state = .opened ∨ record.state = .halfOpen := by
  cases record.state <;> simp

theorem closed_of_ne (hopen : record.state ≠ .opened) (hhalf : record.state ≠ .halfOpen) :
    record.state = .closed := by
  cases h : record.state with
  | closed => rfl
  | opened => exact absurd h hopen
  | halfOpen => exact absurd h hhalf

theorem failureEffect (frame : TerminalFailureFrame) (nowMs : Int)
    (unreadCeilings : Option (InsertionMap JsString Int)) :
    FailureEffect record frame nowMs unreadCeilings (record.normalizeTerminalBreakerLease nowMs)
      (record.applyTerminalFailureFrame frame nowMs unreadCeilings).state := by
  rw [applyTerminalFailureFrame]
  generalize record.normalizeTerminalBreakerLease nowMs = normalized
  dsimp only
  split
  case isTrue hopen =>
    split
    · split <;> exact .ignored
    · rename_i probe hprobe
      have hlast := (Option.filter_eq_some_iff.mp hprobe).1
      split
      · exact .ignored
      · exact .late probe hopen hlast (bound_of_bindLaunch ‹_›)
  case isFalse hopen =>
    split
    · exact .ignored
    · rename_i launch hlaunch
      split
      · exact .ignored
      · rename_i hbind
        have hbound := bound_of_bindLaunch hbind
        by_cases hhalf : normalized.state = .halfOpen
        · rw [if_pos (show (normalized.countFailure launch frame nowMs).state =
            .halfOpen from hhalf)]
          exact .probeFailed launch hhalf hlaunch hbound
        · rw [if_neg (show (normalized.countFailure launch frame nowMs).state ≠ .halfOpen from
            hhalf)]
          have hclosed := normalized.closed_of_ne hopen hhalf
          split
          · exact .counted launch hclosed hlaunch hbound ‹_›
          · exact .opened launch _ hclosed hlaunch hbound ‹_›

theorem turnEffect (frame : TurnCompletedFrame) (nowMs : Int)
    (persistedSessionId : Option JsString) :
    TurnEffect record frame nowMs (record.normalizeTerminalBreakerLease nowMs)
      (record.applyTurnCompletedFrame frame nowMs persistedSessionId).state := by
  rw [applyTurnCompletedFrame]
  generalize record.normalizeTerminalBreakerLease nowMs = normalized
  dsimp only
  split
  case isTrue hopen =>
    split
    · exact .ignored
    · exact .ignored
    · rename_i probe hnone hprobe
      split
      · exact .ignored
      · split
        · exact .late probe hopen hnone hprobe (bound_of_bindLaunch ‹_›)
        · exact .ignored
  case isFalse hopen =>
    split
    · exact .ignored
    · rename_i launch hlaunch
      split
      · exact .ignored
      · rename_i hbind
        have hbound := bound_of_bindLaunch hbind
        split
        · by_cases hhalf : normalized.state = .halfOpen
          · rw [if_pos (show (normalized.completeTurn launch frame).state = .halfOpen from hhalf)]
            exact .recovered launch hhalf hlaunch hbound
          · rw [if_neg (show (normalized.completeTurn launch frame).state ≠ .halfOpen from hhalf)]
            exact .completed launch (normalized.closed_of_ne hopen hhalf) hlaunch hbound
        · exact .ignored

theorem automaticRefusal_eq_none {nowMs : Int} {capability : Bool}
    (h : record.automaticRefusal nowMs capability = none) :
    record.state ≠ .halfOpen ∧ record.needsManual = none ∧ record.blockingUnexitedEntries = [] ∧
      record.unexitedOverflow = false ∧ (capability = false → record.state = .closed) := by
  cases capability with
  | false =>
      simp only [automaticRefusal, Bool.not_false, if_true] at h
      split at h
      · cases h
      · rename_i hprotecting
        simp only [isTerminalBreakerProtecting, Bool.or_eq_true, not_or] at hprotecting
        simp_all [blockingUnexitedEntries]
  | true =>
      simp only [automaticRefusal, Bool.not_true, Bool.false_eq_true, if_false] at h
      by_cases hhalf : record.state = .halfOpen
      · simp [hhalf] at h
      · rw [if_neg hhalf] at h
        cases hblock : record.needsManual with
        | some block => simp [hblock] at h
        | none =>
            simp only [hblock] at h
            by_cases hblocking :
                (!record.blockingUnexitedEntries.isEmpty || record.unexitedOverflow) = true
            · simp [hblocking] at h
            · simp_all

theorem gateEffect (input : TerminalWakeGateInput) :
    GateEffect record input (record.normalizeTerminalBreaker input.nowMs)
      (record.evaluateTerminalWakeGate input) := by
  rw [evaluateTerminalWakeGate]
  generalize record.normalizeTerminalBreaker input.nowMs = normalized
  dsimp only
  split
  · exact .passed _ ‹_›
  · rename_i refused hrefused
    cases hchanges : normalized.refusalChanges refused input with
    | true =>
        rw [if_pos rfl]
        exact .recorded refused _ hrefused
    | false =>
        rw [if_neg (by simp)]
        exact .known refused _ hrefused hchanges

theorem claimEffect (input : TerminalClaimInput) :
    ClaimEffect record input (record.normalizeTerminalBreaker input.nowMs)
      (record.claimTerminalStart input) := by
  rw [claimTerminalStart]
  generalize record.normalizeTerminalBreaker input.nowMs = normalized
  cases hcontrol : input.control with
  | humanStart => simpa [tokenOf, hcontrol] using ClaimEffect.takenOver hcontrol _ rfl
  | automatic =>
      dsimp only
      split
      · exact .refused _ hcontrol ‹_›
      · rename_i hadmits
        by_cases hopen : normalized.state = .opened
        · simpa [tokenOf, hcontrol, hopen] using ClaimEffect.probe hcontrol hadmits hopen _ rfl
        · have hclosed :=
            normalized.closed_of_ne hopen (normalized.automaticRefusal_eq_none hadmits).1
          have hprobe : normalized.claimProbe input.nowMs = normalized := if_neg hopen
          simpa [tokenOf, hcontrol, hopen, hprobe] using
            ClaimEffect.replaced hcontrol hadmits hclosed _ rfl

theorem ownsCurrentLaunch_iff {token : TerminalClaimToken} :
    record.ownsCurrentLaunch token = true ↔ ∃ launch, record.currentLaunch = some launch ∧
      launch.launchId = token.launchId ∧ launch.generation = token.generation ∧
        launch.claimedAtMs = token.claimedAtMs ∧ record.generation = token.generation := by
  cases hlaunch : record.currentLaunch <;> simp [ownsCurrentLaunch, hlaunch, and_assoc]

theorem rollbackEffect (token : TerminalClaimToken) (nowMs : Int) (dispatchLeftReplica : Bool) :
    RollbackEffect record token nowMs dispatchLeftReplica
      (record.rollbackTerminalClaim token nowMs dispatchLeftReplica) := by
  rw [rollbackTerminalClaim]
  split
  · exact .restored ‹_›
  · rename_i hother
    exact .skipped (by simpa using hother)

theorem manualStopEffect (nowMs : Int) :
    ManualStopEffect nowMs (record.normalizeTerminalBreakerLease nowMs)
      (record.applyTerminalManualStop nowMs).1 := by
  rw [applyTerminalManualStop]
  generalize record.normalizeTerminalBreakerLease nowMs = normalized
  split_ifs with hhalf hdemand
  · exact .stopped hhalf
  · exact .idle hhalf (by simpa using hdemand)
  · exact .cancelled hhalf

theorem ackEffect (ack : TerminalStartAck) :
    AckEffect record ack (record.markTakeover ack.launchId)
      (record.applyTerminalStartAck ack).state := by
  rw [applyTerminalStartAck]
  split
  · exact .notRebind
  · rename_i processInstanceId hprocess
    split
    · exact .notRebind
    · dsimp only
      split
      · exact .exited processInstanceId hprocess ‹_›
      · split
        · exact .merged processInstanceId _ hprocess ‹_›
        · exact .filled processInstanceId _ hprocess ‹_› ‹_›
        · exact .unmatched processInstanceId ‹_›

theorem pendingIndex_mem_pendingIndexes {launches : List JsString} {daemonInstanceId : JsString}
    {launchId : JsString} {index : Nat} (hlaunch : launchId ∈ launches)
    (hindex : record.pendingIndex launchId daemonInstanceId = some index) :
    index ∈ record.pendingIndexes launches daemonInstanceId :=
  List.mem_filterMap.mpr ⟨launchId, hlaunch, hindex⟩

theorem spawnEffect (frame : TerminalProcessSpawnedFrame) :
    SpawnEffect frame (record.resetSpawnError frame.launches)
      (record.applyTerminalProcessSpawned frame).state := by
  rw [applyTerminalProcessSpawned]
  generalize record.resetSpawnError frame.launches = reset
  dsimp only
  split
  · split
    · rename_i hexit hpending
      exact .unknownExit hexit (by simpa using hpending)
    · exact .exited ‹_›
  · split
    · exact .merged _ ‹_›
    · rename_i first rest hnew hpendings
      rw [← hpendings]
      refine .filled _ hnew ?_
      cases hown : reset.pendingIndex frame.launchId frame.daemonInstanceId with
      | none => simp [hpendings]
      | some own =>
          exact reset.pendingIndex_mem_pendingIndexes
            (by simp [TerminalProcessSpawnedFrame.launches])
            hown
    · rename_i hnew hpendings
      split
      · exact .acknowledged _ hpendings
      · exact .tracked hnew hpendings

theorem exitEffect (frame : TerminalProcessExitFrame) :
    ExitEffect record frame (record.applyTerminalProcessExited frame).state := by
  rw [applyTerminalProcessExited]
  split
  · exact .removed _ ‹_›
  · split
    · exact .acknowledged _ ‹_›
    · exact .unmatched ‹_›

theorem readyEffect (daemonInstanceId : JsString) (nowMs : Int) :
    ReadyEffect record daemonInstanceId nowMs
      (record.applyTerminalDaemonReady daemonInstanceId nowMs).1 := by
  rw [applyTerminalDaemonReady]
  split
  · rename_i hnone
    refine .current fun entry hentry => ?_
    simp only [List.isEmpty_iff, List.filter_eq_nil_iff] at hnone
    simpa [isOlder] using hnone entry hentry
  · exact .retired

theorem rejectedLaunch_bound {input : TerminalStartRejection} {launch : TerminalBreakerLaunch}
    (h : record.rejectedLaunch input = some launch) :
    record.currentLaunch = some launch ∧ Bound record launch input.launchId := by
  have ⟨hlaunch, hchecks⟩ := Option.filter_eq_some_iff.mp h
  simp only [Bool.and_eq_true, decide_eq_true_eq, Option.isNone_iff_eq_none] at hchecks
  exact ⟨hlaunch, hchecks.1.1.2.symm, hchecks.1.2, hchecks.2⟩

theorem rejectionEffect (input : TerminalStartRejection) :
    RejectionEffect input (record.normalizeTerminalBreakerLease (input.nowMs.getD 0))
      (record.applyTerminalStartRejectedBeforeSpawn input).state := by
  rw [applyTerminalStartRejectedBeforeSpawn]
  generalize record.normalizeTerminalBreakerLease (input.nowMs.getD 0) = normalized
  dsimp only
  split
  · rename_i hnothing
    simp only [Bool.and_eq_true, Option.isNone_iff_eq_none] at hnothing
    exact .unmatched hnothing.1.1.1
  · cases hbound : normalized.rejectedLaunch input with
    | none => simpa using RejectionEffect.removed
    | some launch =>
        have ⟨hlaunch, hlive⟩ := normalized.rejectedLaunch_bound hbound
        by_cases herror : input.reason = some .spawnError
        · simpa [herror, Option.filter_some] using RejectionEffect.counted launch hlaunch hlive
        · by_cases hprobe : normalized.state = .halfOpen ∧ launch.isProbe = true
          · simpa [herror, hprobe, Option.filter_some] using
              RejectionEffect.released launch hprobe.1 hlaunch hlive hprobe.2
          · simpa [herror, hprobe, Option.filter_some] using RejectionEffect.removed

theorem outboxEffect (frame : TerminalOutboxFrame) (input : TerminalOutboxFrameInput) :
    OutboxEffect record frame input (record.applyTerminalOutboxFrame frame input) := by
  rw [applyTerminalOutboxFrame]
  dsimp only
  split
  · exact .replayed ‹_›
  · rename_i hnew
    have hnew : record.isReplayed (terminalOutboxFrameSeq frame) = false := by simpa using hnew
    split
    · rename_i hlost
      simp only [Bool.and_eq_true, Option.isNone_iff_eq_none] at hlost
      exact .lost hnew hlost.1 hlost.2
    · rename_i hknown
      refine .judged hnew fun hlost hnone => ?_
      simp [hlost, hnone] at hknown

theorem attachEffect {batch : CatchupBatch} {next : TerminalFailureBreakerState}
    (h : record.attachCatchupBatch batch = some next) : AttachEffect record batch next := by
  rw [attachCatchupBatch] at h
  split at h
  · split at h
    · cases h
      exact .attached _ _ ‹_› ‹_› ‹_›
    · cases h
  · cases h

theorem buildEffect (readCursors : InsertionMap JsString Int) (batch : Option CatchupBatch) :
    BuildEffect record readCursors batch (record.applyCatchupBuild readCursors batch).state := by
  rw [applyCatchupBuild]
  split
  · exact .nothingOwed ‹_›
  · rename_i obligation hobligation
    dsimp only
    split
    · rename_i owed built howed
      split
      · exact .attached obligation owed built _ hobligation howed rfl (attachEffect _ ‹_›)
      · exact .settled obligation hobligation
    · exact .settled obligation hobligation

theorem attach_cases (batch : CatchupBatch) :
    (record.attachCatchupBatch batch).getD record = record ∨
      AttachEffect record batch ((record.attachCatchupBatch batch).getD record) := by
  cases h : record.attachCatchupBatch batch with
  | none => exact .inl rfl
  | some attached => exact .inr (record.attachEffect h)

end TerminalFailureBreakerState

end Raft.TerminalBreaker
