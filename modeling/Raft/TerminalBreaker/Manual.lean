import Raft.TerminalBreaker.Effects

/-!
# Blocks that need a person

Lost evidence, an unobservable outcome and an overflow of unexited processes hold
automatic starts until a human start takes over.  Nothing else lifts or weakens
such a block, and nothing else moves the takeover epoch.
-/

namespace Raft.TerminalBreaker

open Raft.Foundation

/-- The watermarks and the takeover epoch stay, and so does a block that needs a person. -/
structure Keeps (record next : TerminalFailureBreakerState) : Prop where
  takeoverEpoch : next.takeoverEpoch = record.takeoverEpoch
  outboxWatermarks : next.outboxWatermarks = record.outboxWatermarks
  outboxWatermarksLost : next.outboxWatermarksLost = record.outboxWatermarksLost
  block : ∀ block, record.needsManual = some block → block.reason.settlesAlone = false →
    next.needsManual = some block

namespace Keeps

variable {record next last : TerminalFailureBreakerState}

theorem refl (record : TerminalFailureBreakerState) : Keeps record record :=
  ⟨rfl, rfl, rfl, fun _ hblock _ => hblock⟩

theorem trans (hfirst : Keeps record next) (hsecond : Keeps next last) : Keeps record last where
  takeoverEpoch := hsecond.takeoverEpoch.trans hfirst.takeoverEpoch
  outboxWatermarks := hsecond.outboxWatermarks.trans hfirst.outboxWatermarks
  outboxWatermarksLost := hsecond.outboxWatermarksLost.trans hfirst.outboxWatermarksLost
  block block hblock halone := hsecond.block block (hfirst.block block hblock halone) halone

theorem of_eq (hepoch : next.takeoverEpoch = record.takeoverEpoch)
    (hmarks : next.outboxWatermarks = record.outboxWatermarks)
    (hlost : next.outboxWatermarksLost = record.outboxWatermarksLost)
    (hblock : next.needsManual = record.needsManual) : Keeps record next :=
  ⟨hepoch, hmarks, hlost, fun _ hheld _ => hblock.trans hheld⟩

theorem untouched (h : Keeps record next) (hepoch : last.takeoverEpoch = next.takeoverEpoch)
    (hmarks : last.outboxWatermarks = next.outboxWatermarks)
    (hlost : last.outboxWatermarksLost = next.outboxWatermarksLost)
    (hblock : last.needsManual = next.needsManual) : Keeps record last :=
  h.trans (.of_eq hepoch hmarks hlost hblock)

theorem finishTransition (record : TerminalFailureBreakerState) :
    Keeps record record.finishTransition where
  takeoverEpoch := rfl
  outboxWatermarks := rfl
  outboxWatermarksLost := rfl
  block block hblock halone := by
    simp [TerminalFailureBreakerState.finishTransition,
      TerminalFailureBreakerState.markProtectedIfEngaged,
      TerminalFailureBreakerState.settleTerminalNeedsManual,
      TerminalFailureBreakerState.settledBlock,
      TerminalFailureBreakerState.settlesNeedsManual, hblock, halone]

theorem finish (h : Keeps record next) : Keeps record next.finishTransition :=
  h.trans (finishTransition next)

theorem normalizeTerminalBreakerLease (record : TerminalFailureBreakerState) (nowMs : Int) :
    Keeps record (record.normalizeTerminalBreakerLease nowMs) := by
  rw [TerminalFailureBreakerState.normalizeTerminalBreakerLease]
  split
  · exact .refl record
  · exact .of_eq rfl rfl rfl rfl

theorem normalizeTerminalBreaker (record : TerminalFailureBreakerState) (nowMs : Int) :
    Keeps record (record.normalizeTerminalBreaker nowMs) :=
  (normalizeTerminalBreakerLease record nowMs).finish

end Keeps

/-! ## What each transition keeps -/

section

variable {record normalized next : TerminalFailureBreakerState}

theorem FailureEffect.keeps {frame : TerminalFailureFrame} {nowMs : Int}
    {unreadCeilings : Option (InsertionMap JsString Int)} (hlease : Keeps record normalized)
    (h : FailureEffect record frame nowMs unreadCeilings normalized next) : Keeps record next := by
  cases h with
  | ignored => exact .refl record
  | late | probeFailed | counted | opened =>
      exact .finish (hlease.untouched rfl rfl rfl rfl)

theorem TurnEffect.keeps {frame : TurnCompletedFrame} {nowMs : Int}
    (hlease : Keeps record normalized)
    (h : TurnEffect record frame nowMs normalized next) : Keeps record next := by
  cases h with
  | ignored => exact .refl record
  | late | recovered | completed => exact .finish (hlease.untouched rfl rfl rfl rfl)

theorem keeps_recordRefusal (refused : TerminalAutomaticRefusal) (input : TerminalWakeGateInput) :
    Keeps record (record.recordRefusal refused input) where
  takeoverEpoch := rfl
  outboxWatermarks := rfl
  outboxWatermarksLost := rfl
  block block hblock _ := by
    cases hrefused : refused.needsManual <;>
      simp [TerminalFailureBreakerState.recordRefusal, TerminalFailureBreakerState.refusalBlock,
        hrefused, hblock]

theorem GateEffect.keeps {input : TerminalWakeGateInput} {result : TerminalWakeGateResult}
    (hnormalized : Keeps record normalized) (h : GateEffect record input normalized result) :
    Keeps record result.state := by
  cases h with
  | passed | known => exact hnormalized
  | recorded refused =>
      exact hnormalized.trans ((keeps_recordRefusal refused input).trans (.of_eq rfl rfl rfl rfl))

theorem keeps_claimLaunch (input : TerminalClaimInput) (isProbe : Bool) :
    Keeps record (record.claimLaunch input isProbe) := by
  rw [TerminalFailureBreakerState.claimLaunch, TerminalFailureBreakerState.pushPending]
  split
  · exact .of_eq rfl rfl rfl rfl
  · split <;> exact .of_eq rfl rfl rfl rfl

theorem keeps_claimProbe (nowMs : Int) : Keeps record (record.claimProbe nowMs) := by
  rw [TerminalFailureBreakerState.claimProbe]
  split <;> exact .of_eq rfl rfl rfl rfl

theorem ClaimEffect.keeps {input : TerminalClaimInput} {result : TerminalClaimResult}
    (hautomatic : input.control = .automatic) (hnormalized : Keeps record normalized)
    (h : ClaimEffect record input normalized result) : Keeps record (result.stateAfter record) := by
  cases h with
  | refused => exact .refl record
  | takenOver hhuman => simp [hautomatic] at hhuman
  | probe _ _ _ state hstate =>
      subst hstate
      exact hnormalized.trans ((keeps_claimProbe input.nowMs).trans (keeps_claimLaunch input true))
  | replaced _ _ _ state hstate =>
      subst hstate
      exact hnormalized.trans (keeps_claimLaunch input false)

theorem keeps_undoClaim (token : TerminalClaimToken) (nowMs : Int) (dispatchLeftReplica : Bool) :
    Keeps record (record.undoClaim token nowMs dispatchLeftReplica) := by
  rw [TerminalFailureBreakerState.undoClaim, TerminalFailureBreakerState.dropPending,
    TerminalFailureBreakerState.undoLaunch]
  split <;> split <;> exact .of_eq rfl rfl rfl rfl

theorem RollbackEffect.keeps {token : TerminalClaimToken} {nowMs : Int} {dispatchLeftReplica : Bool}
    {result : TerminalFailureBreakerState × TerminalRollbackOutcome}
    (h : RollbackEffect record token nowMs dispatchLeftReplica result) : Keeps record result.1 := by
  cases h with
  | skipped => exact .refl record
  | restored => exact (keeps_undoClaim token nowMs dispatchLeftReplica).finish

theorem ManualStopEffect.keeps {nowMs : Int} (hlease : Keeps record normalized)
    (h : ManualStopEffect nowMs normalized next) : Keeps record next := by
  cases h with
  | stopped => exact .finish (hlease.untouched rfl rfl rfl rfl)
  | idle => exact hlease
  | cancelled => exact hlease.trans (.of_eq rfl rfl rfl rfl)

theorem AckEffect.keeps {ack : TerminalStartAck} {marked : TerminalFailureBreakerState}
    (hmarked : Keeps record marked) (h : AckEffect record ack marked next) : Keeps record next := by
  cases h with
  | notRebind => exact .refl record
  | exited | merged | filled | unmatched => exact .finish (hmarked.untouched rfl rfl rfl rfl)

theorem keeps_resetSpawnError (launches : List JsString) :
    Keeps record (record.resetSpawnError launches) := by
  rw [TerminalFailureBreakerState.resetSpawnError]
  split <;> exact .of_eq rfl rfl rfl rfl

theorem SpawnEffect.keeps {frame : TerminalProcessSpawnedFrame}
    {reset : TerminalFailureBreakerState}
    (hreset : Keeps record reset) (h : SpawnEffect frame reset next) : Keeps record next := by
  cases h with
  | unknownExit => exact hreset
  | acknowledged => exact hreset.trans (.of_eq rfl rfl rfl rfl)
  | exited | merged | filled | tracked => exact .finish (hreset.untouched rfl rfl rfl rfl)

theorem keeps_endCarried (carried : List JsString) (atMs : Int) :
    Keeps record (record.endCarried carried atMs).1 := by
  rw [TerminalFailureBreakerState.endCarried]
  split
  · rw [TerminalFailureBreakerState.endLaunch]
    split <;> exact .of_eq rfl rfl rfl rfl
  · exact .of_eq rfl rfl rfl rfl

theorem ExitEffect.keeps {frame : TerminalProcessExitFrame} (h : ExitEffect record frame next) :
    Keeps record next := by
  cases h with
  | removed index =>
      have hremoved : Keeps record ((record.removeUnexited [index]).recordExit frame) :=
        .of_eq rfl rfl rfl rfl
      exact (hremoved.trans (keeps_endCarried _ frame.atMs)).finish
  | acknowledged | unmatched => exact .finish ((Keeps.refl record).untouched rfl rfl rfl rfl)

theorem keeps_dropUntracked (daemonInstanceId : JsString) (nowMs : Int) :
    Keeps record (record.dropUntracked daemonInstanceId nowMs) := by
  rw [TerminalFailureBreakerState.dropUntracked]
  split <;> exact .of_eq rfl rfl rfl rfl

theorem keeps_blockOnRestart (protectedOld : List TerminalUnexitedEntry) (nowMs : Int) :
    Keeps record (record.blockOnRestart protectedOld nowMs) := by
  rw [TerminalFailureBreakerState.blockOnRestart]
  split
  · rename_i hweak
    refine ⟨rfl, rfl, rfl, fun block hblock halone => ?_⟩
    simp only [hblock, Option.all_some, Bool.and_eq_true, decide_eq_true_eq] at hweak
    simp [TerminalNeedsManualReason.settlesAlone, hweak.2] at halone
  · exact .refl record

theorem ReadyEffect.keeps {daemonInstanceId : JsString} {nowMs : Int}
    (h : ReadyEffect record daemonInstanceId nowMs next) : Keeps record next := by
  cases h with
  | current => exact .refl record
  | retired =>
      have hmarked : Keeps record record.markProtectedIfEngaged := .of_eq rfl rfl rfl rfl
      exact (hmarked.trans ((keeps_dropUntracked daemonInstanceId nowMs).trans
        (keeps_blockOnRestart _ nowMs))).finish

theorem keeps_rejectStart (input : TerminalStartRejection) :
    Keeps record (record.rejectStart input) := by
  rw [TerminalFailureBreakerState.rejectStart]
  split <;> exact .of_eq rfl rfl rfl rfl

theorem keeps_countSpawnError (launch : TerminalBreakerLaunch) (nowMs : Int)
    (unreadCeilings : Option (InsertionMap JsString Int)) :
    Keeps record (record.countSpawnError launch nowMs unreadCeilings) := by
  rw [TerminalFailureBreakerState.countSpawnError]
  split <;> exact .of_eq rfl rfl rfl rfl

theorem RejectionEffect.keeps {input : TerminalStartRejection} (hlease : Keeps record normalized)
    (h : RejectionEffect input normalized next) : Keeps record next := by
  have hrejected := hlease.trans (keeps_rejectStart input)
  cases h with
  | unmatched => exact hlease
  | counted launch =>
      exact (hrejected.trans (keeps_countSpawnError launch _ input.unreadCeilings)).finish
  | released => exact .finish (hrejected.untouched rfl rfl rfl rfl)
  | removed => exact hrejected.finish

theorem AttachEffect.keeps {batch : CatchupBatch} (h : AttachEffect record batch next) :
    Keeps record next := by
  cases h
  exact .of_eq rfl rfl rfl rfl

theorem BuildEffect.keeps {readCursors : InsertionMap JsString Int} {batch : Option CatchupBatch}
    (h : BuildEffect record readCursors batch next) : Keeps record next := by
  cases h with
  | nothingOwed => exact .refl record
  | settled => exact .of_eq rfl rfl rfl rfl
  | attached obligation _ _ _ _ _ _ hattached =>
      have hsettled : Keeps record { record with
          catchupObligation := (settleCatchupByReadCursor obligation readCursors).1 } :=
        .of_eq rfl rfl rfl rfl
      exact hsettled.trans hattached.keeps

end

namespace TerminalFailureBreakerState

variable (record : TerminalFailureBreakerState)

theorem keeps_markEvidenceLost (nowMs : Int) : Keeps record (record.markEvidenceLost nowMs).1 := by
  rw [markEvidenceLost]
  split
  · rename_i hweak
    refine Keeps.finish ⟨rfl, rfl, rfl, fun block hblock halone => ?_⟩
    simp [hblock, halone] at hweak
  · exact .refl record

theorem keeps_failure (frame : TerminalFailureFrame) (nowMs : Int)
    (unreadCeilings : Option (InsertionMap JsString Int)) :
    Keeps record (record.applyTerminalFailureFrame frame nowMs unreadCeilings).state :=
  (record.failureEffect frame nowMs unreadCeilings).keeps
    (.normalizeTerminalBreakerLease record nowMs)

theorem keeps_turn (frame : TurnCompletedFrame) (nowMs : Int)
    (persistedSessionId : Option JsString) :
    Keeps record (record.applyTurnCompletedFrame frame nowMs persistedSessionId).state :=
  (record.turnEffect frame nowMs persistedSessionId).keeps
    (.normalizeTerminalBreakerLease record nowMs)

theorem keeps_startAck (ack : TerminalStartAck) :
    Keeps record (record.applyTerminalStartAck ack).state := by
  have hmarked : Keeps record (record.markTakeover ack.launchId) := .of_eq rfl rfl rfl rfl
  exact (record.ackEffect ack).keeps hmarked

theorem keeps_spawned (frame : TerminalProcessSpawnedFrame) :
    Keeps record (record.applyTerminalProcessSpawned frame).state :=
  (record.spawnEffect frame).keeps (keeps_resetSpawnError frame.launches)

theorem keeps_rejected (input : TerminalStartRejection) :
    Keeps record (record.applyTerminalStartRejectedBeforeSpawn input).state :=
  (record.rejectionEffect input).keeps (.normalizeTerminalBreakerLease record _)

theorem keeps_judged (frame : TerminalOutboxFrame) (input : TerminalOutboxFrameInput) :
    Keeps record (record.judgeOutboxFrame frame input).1 := by
  cases frame with
  | terminalFailure frame => exact record.keeps_failure frame _ _
  | turnCompleted frame => exact record.keeps_turn frame _ _
  | processSpawned => exact record.keeps_spawned _
  | processExited => exact (record.exitEffect _).keeps
  | startRebound => exact record.keeps_startAck _
  | startNotSpawned => exact record.keeps_rejected _
  | evidenceLost => exact record.keeps_markEvidenceLost input.nowMs

theorem keeps_marker (marker : TerminalOutcomeMarker) (nowMs : Int) :
    Keeps record (record.applyTerminalOutcomeMarker marker nowMs).1 := by
  rw [applyTerminalOutcomeMarker]
  split_ifs
  · exact .refl record
  · exact .refl record
  · exact record.keeps_markEvidenceLost nowMs
  · exact .refl record

end TerminalFailureBreakerState

/-! ## Runs -/

namespace BreakerEvent

def isTakeover : BreakerEvent → Bool
  | .claim input => input.control = .humanStart
  | _ => false

def isFrame : BreakerEvent → Bool
  | .outboxFrame .. => true
  | _ => false

end BreakerEvent

def HeldForManual (record : TerminalFailureBreakerState) : Prop :=
  ∃ block, record.needsManual = some block ∧ block.reason.settlesAlone = false

/-- Neither the gate nor the claim admits an automatic start. -/
structure RefusesAutomatic (record : TerminalFailureBreakerState) : Prop where
  gate : ∀ input, (record.evaluateTerminalWakeGate input).decision ≠ none
  claim : ∀ input, input.control = .automatic →
    ∃ reason, record.claimTerminalStart input = .refused reason

namespace TerminalFailureBreakerState

variable (record : TerminalFailureBreakerState)

theorem keeps_transition {event : BreakerEvent} (htakeover : event.isTakeover = false)
    (hframe : event.isFrame = false) : Keeps record (record.transition event) := by
  cases event with
  | failure frame nowMs unreadCeilings => exact record.keeps_failure frame nowMs unreadCeilings
  | turnCompleted frame nowMs persistedSessionId =>
      exact record.keeps_turn frame nowMs persistedSessionId
  | gate input => exact (record.gateEffect input).keeps (.normalizeTerminalBreaker record _)
  | claim input =>
      have hautomatic : input.control = .automatic := by
        cases hcontrol : input.control with
        | automatic => rfl
        | humanStart => simp [BreakerEvent.isTakeover, hcontrol] at htakeover
      exact (record.claimEffect input).keeps hautomatic (.normalizeTerminalBreaker record _)
  | rollback token nowMs dispatchLeftReplica =>
      exact (record.rollbackEffect token nowMs dispatchLeftReplica).keeps
  | lift => exact .finish ((Keeps.refl record).untouched rfl rfl rfl rfl)
  | manualStop nowMs =>
      exact (record.manualStopEffect nowMs).keeps (.normalizeTerminalBreakerLease record nowMs)
  | startAck ack => exact record.keeps_startAck ack
  | processSpawned frame => exact record.keeps_spawned frame
  | processExited frame => exact (record.exitEffect frame).keeps
  | daemonReady daemonInstanceId nowMs => exact (record.readyEffect daemonInstanceId nowMs).keeps
  | startRejected input => exact record.keeps_rejected input
  | outboxFrame => simp [BreakerEvent.isFrame] at hframe
  | marker marker nowMs => exact record.keeps_marker marker nowMs
  | catchupBuild readCursors batch => exact (record.buildEffect readCursors batch).keeps
  | attachBatch batch =>
      rcases record.attach_cases batch with heq | hattached
      · exact .of_eq (congrArg _ heq) (congrArg _ heq) (congrArg _ heq) (congrArg _ heq)
      · exact hattached.keeps

theorem keeps_applyTerminalOutboxFrame (frame : TerminalOutboxFrame)
    (input : TerminalOutboxFrameInput) :
    ∃ judged, Keeps record judged ∧
      (record.applyTerminalOutboxFrame frame input).state.takeoverEpoch = judged.takeoverEpoch ∧
      (record.applyTerminalOutboxFrame frame input).state.needsManual = judged.needsManual := by
  have heffect := record.outboxEffect frame input
  generalize record.applyTerminalOutboxFrame frame input = applied at heffect
  cases heffect with
  | replayed => exact ⟨record, .refl record, rfl, rfl⟩
  | lost => exact ⟨_, record.keeps_markEvidenceLost input.nowMs, rfl, rfl⟩
  | judged => exact ⟨_, record.keeps_judged frame input, rfl, rfl⟩

theorem takeoverEpoch_humanStart {input : TerminalClaimInput}
    (hhuman : input.control = .humanStart) :
    (record.transition (.claim input)).takeoverEpoch = record.takeoverEpoch + 1 := by
  have hnormalized := Keeps.normalizeTerminalBreaker record input.nowMs
  show ((record.claimTerminalStart input).stateAfter record).takeoverEpoch =
    record.takeoverEpoch + 1
  have heffect := record.claimEffect input
  generalize record.claimTerminalStart input = result at heffect
  cases heffect with
  | refused _ hautomatic | probe hautomatic | replaced hautomatic => simp [hhuman] at hautomatic
  | takenOver _ state hstate =>
      subst hstate
      have hlaunch := @keeps_claimLaunch
        ((record.normalizeTerminalBreaker input.nowMs).takeOver input.nowMs) input false
      have htaken : ((record.normalizeTerminalBreaker input.nowMs).takeOver
        input.nowMs).takeoverEpoch =
          (record.normalizeTerminalBreaker input.nowMs).takeoverEpoch + 1 := rfl
      exact hlaunch.takeoverEpoch.trans (htaken.trans (by rw [hnormalized.takeoverEpoch]))

theorem takeoverEpoch_transition (event : BreakerEvent) :
    (record.transition event).takeoverEpoch =
      record.takeoverEpoch + if event.isTakeover then 1 else 0 := by
  cases htakeover : event.isTakeover with
  | true =>
      cases event with
      | claim input =>
        exact record.takeoverEpoch_humanStart (by simpa [BreakerEvent.isTakeover] using htakeover)
      | _ => simp [BreakerEvent.isTakeover] at htakeover
  | false =>
      cases hframe : event.isFrame with
      | false => simpa using (record.keeps_transition htakeover hframe).takeoverEpoch
      | true =>
          cases event with
          | outboxFrame frame input =>
              have ⟨_, hkeeps, hepoch, _⟩ := record.keeps_applyTerminalOutboxFrame frame input
              exact hepoch.trans hkeeps.takeoverEpoch
          | _ => simp [BreakerEvent.isFrame] at hframe

theorem block_transition {event : BreakerEvent} (htakeover : event.isTakeover = false)
    {block : TerminalNeedsManual} (hblock : record.needsManual = some block)
    (halone : block.reason.settlesAlone = false) :
    (record.transition event).needsManual = some block := by
  cases hframe : event.isFrame with
  | false => exact (record.keeps_transition htakeover hframe).block block hblock halone
  | true =>
      cases event with
      | outboxFrame frame input =>
          have ⟨_, hkeeps, _, hmanual⟩ := record.keeps_applyTerminalOutboxFrame frame input
          exact hmanual.trans (hkeeps.block block hblock halone)
      | _ => simp [BreakerEvent.isFrame] at hframe

theorem block_run {events : List BreakerEvent}
    (htakeover : ∀ event ∈ events, event.isTakeover = false)
    {block : TerminalNeedsManual} (hblock : record.needsManual = some block)
    (halone : block.reason.settlesAlone = false) :
    (run transition record events).needsManual = some block := by
  induction events generalizing record with
  | nil => exact hblock
  | cons event events ih =>
      have hnext := record.block_transition (htakeover event (by simp)) hblock halone
      exact ih (record.transition event) (fun later hlater =>
        htakeover later (by simp [hlater])) hnext

variable {record}

theorem automaticRefusal_of_needsManual {nowMs : Int} {capability : Bool}
    {block : TerminalNeedsManual} (hblock : record.needsManual = some block) :
    record.automaticRefusal nowMs capability ≠ none := by
  intro hadmits
  have hnone := (record.automaticRefusal_eq_none hadmits).2.1
  simp [hblock] at hnone

theorem refusesAutomatic_of_held (h : HeldForManual record) : RefusesAutomatic record := by
  obtain ⟨block, hblock, halone⟩ := h
  have hnormalized (nowMs : Int) : (record.normalizeTerminalBreaker nowMs).needsManual =
    some block :=
    (Keeps.normalizeTerminalBreaker record nowMs).block block hblock halone
  refine ⟨fun input => ?_, fun input hautomatic => ?_⟩
  · have heffect := record.gateEffect input
    generalize record.evaluateTerminalWakeGate input = result at heffect
    cases heffect with
    | passed _ hadmits => exact absurd hadmits (automaticRefusal_of_needsManual (hnormalized _))
    | known | recorded => exact Option.some_ne_none _
  · have heffect := record.claimEffect input
    generalize record.claimTerminalStart input = result at heffect
    cases heffect with
    | refused refusal => exact ⟨_, rfl⟩
    | takenOver hhuman => simp [hautomatic] at hhuman
    | probe _ hadmits | replaced _ hadmits =>
        exact absurd hadmits (automaticRefusal_of_needsManual (hnormalized _))

theorem held_markEvidenceLost (nowMs : Int) : HeldForManual (record.markEvidenceLost nowMs).1 := by
  rw [markEvidenceLost]
  split
  · have hlost : ({ record with
        needsManual := some ⟨.outcomeEvidenceLost, nowMs, []⟩ } :
          TerminalFailureBreakerState).needsManual =
          some ⟨.outcomeEvidenceLost, nowMs, []⟩ := rfl
    exact ⟨_, (Keeps.finishTransition _).block _ hlost rfl, rfl⟩
  · rename_i hstrong
    cases hblock : record.needsManual with
    | none => simp [hblock] at hstrong
    | some block => exact ⟨block, hblock, by simpa [hblock] using hstrong⟩

end TerminalFailureBreakerState

/-- What holds automatic starts back, and what does not let go of them. -/
structure HoldsUntilTakeover (record : TerminalFailureBreakerState) : Prop where
  stays : HeldForManual record → ∀ later, (∀ event ∈ later, BreakerEvent.isTakeover event = false) →
    (run TerminalFailureBreakerState.transition record later).needsManual = record.needsManual ∧
      RefusesAutomatic (run TerminalFailureBreakerState.transition record later)
  epoch : ∀ event, (record.transition event).takeoverEpoch =
    record.takeoverEpoch + if event.isTakeover then 1 else 0
  lostFrame : ∀ daemonInstanceId clientSeq reason input,
    record.isReplayed ⟨daemonInstanceId, clientSeq⟩ = false →
      HeldForManual (record.transition
        (.outboxFrame (.evidenceLost daemonInstanceId clientSeq reason) input))
  criticalMarker : ∀ marker nowMs, marker.critical = true →
    (record.takeoverEpoch : Int) ≤ marker.takeoverEpoch →
      HeldForManual (record.transition (.marker marker nowMs))
  firstFrame : ∀ frame input, record.outboxWatermarksLost = true →
    record.terminalOutboxWatermark (terminalOutboxFrameSeq frame).daemonInstanceId = none →
      HeldForManual (record.transition (.outboxFrame frame input))

section

variable {record : TerminalFailureBreakerState}

theorem held_of_needsManual_eq {next : TerminalFailureBreakerState} (h : HeldForManual record)
    (heq : next.needsManual = record.needsManual) : HeldForManual next := by
  obtain ⟨block, hblock, halone⟩ := h
  exact ⟨block, heq.trans hblock, halone⟩

theorem OutboxEffect.held {frame : TerminalOutboxFrame} {input : TerminalOutboxFrameInput}
    {applied : TerminalOutboxApplied} (h : OutboxEffect record frame input applied)
    (hnew : record.isReplayed (terminalOutboxFrameSeq frame) = false)
    (hloss : HeldForManual (record.judgeOutboxFrame frame input).1 ∨
      record.outboxWatermarksLost = true ∧
        record.terminalOutboxWatermark (terminalOutboxFrameSeq frame).daemonInstanceId = none) :
    HeldForManual applied.state := by
  cases h with
  | replayed hreplayed => simp [hnew] at hreplayed
  | lost => exact held_of_needsManual_eq (record.held_markEvidenceLost input.nowMs) rfl
  | judged _ hknown =>
      rcases hloss with hjudged | hlost
      · exact held_of_needsManual_eq hjudged rfl
      · exact absurd hlost.2 (hknown hlost.1)

theorem held_lostFrame {daemonInstanceId : JsString} {clientSeq : Int} (reason : JsString)
    (input : TerminalOutboxFrameInput)
    (hnew : record.isReplayed ⟨daemonInstanceId, clientSeq⟩ = false) :
    HeldForManual (record.applyTerminalOutboxFrame
      (.evidenceLost daemonInstanceId clientSeq reason) input).state :=
  (record.outboxEffect _ input).held hnew (.inl (record.held_markEvidenceLost input.nowMs))

theorem held_firstFrame {frame : TerminalOutboxFrame} (input : TerminalOutboxFrameInput)
    (hlost : record.outboxWatermarksLost = true)
    (hfirst : record.terminalOutboxWatermark (terminalOutboxFrameSeq frame).daemonInstanceId =
      none) :
    HeldForManual (record.applyTerminalOutboxFrame frame input).state := by
  have hnew : record.isReplayed (terminalOutboxFrameSeq frame) = false := by
    simp [TerminalFailureBreakerState.isReplayed, hfirst]
  exact (record.outboxEffect frame input).held hnew (.inr ⟨hlost, hfirst⟩)

theorem held_criticalMarker {marker : TerminalOutcomeMarker} (nowMs : Int)
    (hcritical : marker.critical = true)
    (hepoch : (record.takeoverEpoch : Int) ≤ marker.takeoverEpoch) :
    HeldForManual (record.applyTerminalOutcomeMarker marker nowMs).1 := by
  have hlost := record.held_markEvidenceLost nowMs
  rw [TerminalFailureBreakerState.applyTerminalOutcomeMarker]
  split_ifs with hbacklog hcovered hmarked
  · simp [hcritical] at hbacklog
  · omega
  · exact hlost
  · -- Nothing was marked, so the record was held already.
    rw [TerminalFailureBreakerState.markEvidenceLost] at hlost hmarked
    split at hmarked
    · exact absurd rfl hmarked
    · simpa [*] using hlost

end

/-- Over every run, lost evidence holds automatic starts until a person takes over. -/
theorem lost_evidence_holds_starts (start : TerminalFailureBreakerState)
    (events : List BreakerEvent) :
    HoldsUntilTakeover (run TerminalFailureBreakerState.transition start events) := by
  generalize run TerminalFailureBreakerState.transition start events = record
  refine ⟨fun hheld later hlater => ?_, record.takeoverEpoch_transition,
    fun _ _ reason input hnew => held_lostFrame reason input hnew,
    fun _ nowMs hcritical hepoch => held_criticalMarker nowMs hcritical hepoch,
    fun _ input hlost hfirst => held_firstFrame input hlost hfirst⟩
  obtain ⟨block, hblock, halone⟩ := hheld
  have hstays := record.block_run hlater hblock halone
  exact ⟨hstays.trans hblock.symm,
    TerminalFailureBreakerState.refusesAutomatic_of_held ⟨block, hstays, halone⟩⟩

/-! ## A replayed loss -/

def lossOf (clientSeq : Int) : BreakerEvent :=
  .outboxFrame (.evidenceLost (js "daemon-1") clientSeq (js "unreadable")) ⟨0, none, none⟩

def startOf (control : TerminalStartControl) (launchId : JsString) : TerminalClaimInput :=
  ⟨launchId, 0, none, none, true, control, false⟩

def replayedLoss : List BreakerEvent :=
  [lossOf 1, .claim (startOf .humanStart (js "launch-1")), lossOf 1]

/-- Right after a replayed loss an automatic start is admitted. -/
theorem replayed_loss_admits :
    ((run TerminalFailureBreakerState.transition freshTerminalFailureBreakerState
      replayedLoss).claimTerminalStart (startOf .automatic (js "launch-2"))).tokens ≠ [] := by
  decide +kernel

end Raft.TerminalBreaker
