import Raft.TerminalBreaker.Effects

/-!
# Finished records

A transition leaves nothing for the next one to finish: while the breaker is
engaged every unexited entry is protected, and a block whose cause is resolved is
gone.  A claim in a closed circuit therefore starts from the record as it stands.
-/

namespace Raft.TerminalBreaker

open Raft.Foundation TerminalFailureBreakerState

structure Finished (record : TerminalFailureBreakerState) : Prop where
  marked : record.isTerminalBreakerEngaged = true →
    ∀ entry ∈ record.unexited, entry.isProtected = true
  settled : record.settlesNeedsManual = false

theorem map_protect_eq {entries : List TerminalUnexitedEntry}
    (h : ∀ entry ∈ entries, entry.isProtected = true) :
    (entries.map fun entry => { entry with isProtected := true }) = entries := by
  refine (List.map_congr_left fun entry hentry => ?_).trans (List.map_id _)
  have hentry := h entry hentry
  cases entry
  simpa using hentry.symm

namespace TerminalFailureBreakerState

variable (record : TerminalFailureBreakerState)

theorem blockingUnexitedEntries_of_ne_closed (h : record.state ≠ .closed) :
    record.blockingUnexitedEntries = record.unexited := by
  refine List.filter_eq_self.mpr fun entry _ => ?_
  rw [isConfirmedLiveCurrentProcess]
  cases record.currentLaunch <;> simp [h]

theorem settlesNeedsManual_congr {next : TerminalFailureBreakerState}
    (hblocking : next.blockingUnexitedEntries = record.blockingUnexitedEntries)
    (hunexited : next.unexited = record.unexited)
    (hoverflow : next.unexitedOverflow = record.unexitedOverflow)
    (hblock : next.needsManual = record.needsManual) :
    next.settlesNeedsManual = record.settlesNeedsManual := by
  simp only [settlesNeedsManual, causeResolved, hblocking, hunexited, hoverflow, hblock]

theorem settlesNeedsManual_of_none (h : record.needsManual = none) :
    record.settlesNeedsManual = false := by
  rw [settlesNeedsManual, h]

theorem settlesNeedsManual_markProtectedIfEngaged :
    record.markProtectedIfEngaged.settlesNeedsManual = record.settlesNeedsManual := by
  cases hengaged : record.isTerminalBreakerEngaged with
  | false => simp [markProtectedIfEngaged, markedUnexited, hengaged]
  | true =>
      have hblocking : record.markProtectedIfEngaged.blockingUnexitedEntries =
          record.blockingUnexitedEntries.map fun entry => { entry with isProtected := true } := by
        simp only [blockingUnexitedEntries, markProtectedIfEngaged, markedUnexited, hengaged,
          if_true,
          List.filter_map]
        rfl
      have hcause (block : TerminalNeedsManual) :
          record.markProtectedIfEngaged.causeResolved block = record.causeResolved block := by
        rw [causeResolved, causeResolved, hblocking]
        simp only [markProtectedIfEngaged, markedUnexited, hengaged, if_true, List.any_map]
        rfl
      rw [settlesNeedsManual, settlesNeedsManual, hblocking]
      simp only [hcause]
      cases hblock : record.needsManual <;>
        simp [markProtectedIfEngaged, hblock]

theorem marked_markProtectedIfEngaged
    (h : record.markProtectedIfEngaged.isTerminalBreakerEngaged = true) :
    ∀ entry ∈ record.markProtectedIfEngaged.unexited, entry.isProtected = true := by
  have hengaged : record.isTerminalBreakerEngaged = true := h
  simp [markProtectedIfEngaged, markedUnexited, hengaged]

end TerminalFailureBreakerState

namespace Finished

variable {record next : TerminalFailureBreakerState}

theorem fresh : Finished freshTerminalFailureBreakerState where
  marked _ _ hentry := by simp [freshTerminalFailureBreakerState] at hentry
  settled := rfl

theorem mark (h : record.settlesNeedsManual = false) : Finished record.markProtectedIfEngaged where
  marked := record.marked_markProtectedIfEngaged
  settled := (record.settlesNeedsManual_markProtectedIfEngaged).trans h

theorem settlesNeedsManual_settle (record : TerminalFailureBreakerState) :
    record.settleTerminalNeedsManual.settlesNeedsManual = false := by
  cases hsettles : record.settlesNeedsManual with
  | false =>
      have hsame : record.settleTerminalNeedsManual = record := by
        simp [settleTerminalNeedsManual, settledBlock, hsettles]
      rw [hsame, hsettles]
  | true =>
      exact settlesNeedsManual_of_none _ (by simp [settleTerminalNeedsManual, settledBlock,
        hsettles])

theorem finish (record : TerminalFailureBreakerState) : Finished record.finishTransition :=
  mark (settlesNeedsManual_settle record)

theorem untouched (h : Finished record) (hstate : next.state = record.state)
    (hgeneration : next.generation = record.generation)
    (hcurrent : next.currentLaunch = record.currentLaunch)
    (hunexited : next.unexited = record.unexited)
    (hoverflow : next.unexitedOverflow = record.unexitedOverflow)
    (hblock : next.needsManual = record.needsManual)
    (hcount : next.totalCount = record.totalCount)
    (hengaged : next.catchupObligation.any (·.engagedByFailure) = true →
      record.catchupObligation.any (·.engagedByFailure) = true) : Finished next where
  marked hnext := by
    rw [hunexited]
    refine h.marked ?_
    simp only [isTerminalBreakerEngaged, hstate, hcurrent, hblock, hcount, Bool.or_eq_true]
      at hnext ⊢
    tauto
  settled := by
    refine (record.settlesNeedsManual_congr ?_ hunexited hoverflow hblock).trans h.settled
    simp only [blockingUnexitedEntries, isConfirmedLiveCurrentProcess, hstate, hgeneration,
      hcurrent,
      hunexited]

theorem finishTransition_eq (h : Finished record) : record.finishTransition = record := by
  have hsettle : record.settleTerminalNeedsManual = record := by
    simp [settleTerminalNeedsManual, settledBlock, h.settled]
  rw [TerminalFailureBreakerState.finishTransition, hsettle, markProtectedIfEngaged, markedUnexited]
  cases hengaged : record.isTerminalBreakerEngaged with
  | false => rfl
  | true =>
      rw [if_pos rfl, map_protect_eq (h.marked hengaged)]

end Finished

/-! ## What each transition leaves -/

section

variable {record normalized next : TerminalFailureBreakerState}

theorem finished_normalizeTerminalBreakerLease (nowMs : Int) (h : Finished record) :
    Finished (record.normalizeTerminalBreakerLease nowMs) := by
  rw [normalizeTerminalBreakerLease]
  split
  · exact h
  · rename_i lease hlease
    have hhalf : record.state = .halfOpen := by
      by_contra hstate
      simp [expiredLease, hstate] at hlease
    refine Finished.mark ?_
    rw [← h.settled]
    exact record.settlesNeedsManual_congr
      ((blockingUnexitedEntries_of_ne_closed _ (by simp [withTransition])).trans
        (record.blockingUnexitedEntries_of_ne_closed (by simp [hhalf])).symm) rfl rfl rfl

theorem finished_normalizeTerminalBreaker (nowMs : Int) :
    Finished (record.normalizeTerminalBreaker nowMs) :=
  .finish _

theorem FailureEffect.finished {frame : TerminalFailureFrame} {nowMs : Int}
    {unreadCeilings : Option (InsertionMap JsString Int)} (hrecord : Finished record)
    (h : FailureEffect record frame nowMs unreadCeilings normalized next) : Finished next := by
  cases h with
  | ignored => exact hrecord
  | late | probeFailed | counted | opened => exact .finish _

theorem TurnEffect.finished {frame : TurnCompletedFrame} {nowMs : Int} (hrecord : Finished record)
    (h : TurnEffect record frame nowMs normalized next) : Finished next := by
  cases h with
  | ignored => exact hrecord
  | late | recovered | completed => exact .finish _

theorem TerminalFailureBreakerState.automaticRefusal_needsManual
    {refused : TerminalAutomaticRefusal}
    {nowMs : Int} {capability : Bool} {block : TerminalNeedsManual}
    (hrefused : record.automaticRefusal nowMs capability = some refused)
    (hnew : record.refusalBlock refused nowMs = some block) :
    block.reason.settlesAlone = false ∨ record.blockingUnexitedEntries.isEmpty = false ∨
      record.unexitedOverflow = true := by
  rw [refusalBlock] at hnew
  split at hnew
  · rename_i reason hreason hnone
    cases hnew
    cases capability with
    | false =>
        simp only [automaticRefusal, Bool.not_false, if_true, Option.ite_none_right_eq_some,
          Option.some.injEq] at hrefused
        obtain ⟨-, rfl⟩ := hrefused
        cases hreason
        exact .inl rfl
    | true =>
        simp only [automaticRefusal, Bool.not_true, Bool.false_eq_true, if_false, hnone] at hrefused
        split_ifs at hrefused with hhalf hblocking
        · cases hrefused
          cases hreason
        · simp only [Bool.or_eq_true, Bool.not_eq_true'] at hblocking
          exact .inr hblocking
        · cases hrefused
          cases hreason
  · cases hnew

theorem settlesNeedsManual_recordRefusal {refused : TerminalAutomaticRefusal}
    (input : TerminalWakeGateInput)
    (hrefused : record.automaticRefusal input.nowMs input.capability = some refused)
    (hsettled : record.settlesNeedsManual = false) :
    (record.recordRefusal refused input).settlesNeedsManual = false := by
  cases hnew : record.refusalBlock refused input.nowMs with
  | none =>
      rw [← hsettled]
      exact record.settlesNeedsManual_congr rfl rfl rfl (by simp [recordRefusal, hnew])
  | some block =>
      have hblock : (record.recordRefusal refused input).needsManual = some block := by
        simp [recordRefusal, hnew]
      rw [settlesNeedsManual, hblock]
      show (block.reason.settlesAlone && record.blockingUnexitedEntries.isEmpty &&
        !record.unexitedOverflow && _) = false
      rcases record.automaticRefusal_needsManual hrefused hnew with halone | hblocking | hoverflow
      · simp [halone]
      · simp [hblocking]
      · simp [hoverflow]

theorem GateEffect.finished {input : TerminalWakeGateInput} {result : TerminalWakeGateResult}
    (hnormalized : Finished normalized) (h : GateEffect record input normalized result) :
    Finished result.state := by
  cases h with
  | passed | known => exact hnormalized
  | recorded refused _ hrefused =>
      exact .mark (settlesNeedsManual_recordRefusal input hrefused hnormalized.settled)

theorem finished_claimLaunch (input : TerminalClaimInput) (isProbe : Bool)
    (hnone : record.needsManual = none) : Finished (record.claimLaunch input isProbe) := by
  refine .mark (settlesNeedsManual_of_none _ ?_)
  rw [pushPending]
  split
  · exact hnone
  · split <;> exact hnone

theorem ClaimEffect.finished {input : TerminalClaimInput} {result : TerminalClaimResult}
    (hrecord : Finished record) (h : ClaimEffect record input normalized result) :
    Finished (result.stateAfter record) := by
  cases h with
  | refused => exact hrecord
  | takenOver _ state hstate =>
      subst hstate
      exact finished_claimLaunch input false rfl
  | probe _ hadmits _ state hstate =>
      subst hstate
      refine finished_claimLaunch input true ?_
      rw [← (normalized.automaticRefusal_eq_none hadmits).2.1, claimProbe]
      split <;> rfl
  | replaced _ hadmits _ state hstate =>
      subst hstate
      exact finished_claimLaunch input false (normalized.automaticRefusal_eq_none hadmits).2.1

theorem RollbackEffect.finished {token : TerminalClaimToken} {nowMs : Int}
    {dispatchLeftReplica : Bool}
    {result : TerminalFailureBreakerState × TerminalRollbackOutcome} (hrecord : Finished record)
    (h : RollbackEffect record token nowMs dispatchLeftReplica result) : Finished result.1 := by
  cases h with
  | skipped => exact hrecord
  | restored => exact .finish _

theorem ManualStopEffect.finished {nowMs : Int} (hlease : Finished normalized)
    (h : ManualStopEffect nowMs normalized next) : Finished next := by
  cases h with
  | stopped => exact .finish _
  | idle => exact hlease
  | cancelled => exact hlease.untouched rfl rfl rfl rfl rfl rfl rfl id

theorem AckEffect.finished {ack : TerminalStartAck} {marked : TerminalFailureBreakerState}
    (hrecord : Finished record) (h : AckEffect record ack marked next) : Finished next := by
  cases h with
  | notRebind => exact hrecord
  | exited | merged | filled | unmatched => exact .finish _

theorem finished_resetSpawnError (launches : List JsString) (h : Finished record) :
    Finished (record.resetSpawnError launches) := by
  rw [resetSpawnError]
  split
  · exact h.untouched rfl rfl rfl rfl rfl rfl rfl id
  · exact h

theorem SpawnEffect.finished {frame : TerminalProcessSpawnedFrame}
    {reset : TerminalFailureBreakerState}
    (hreset : Finished reset) (h : SpawnEffect frame reset next) : Finished next := by
  cases h with
  | unknownExit => exact hreset
  | acknowledged => exact hreset.untouched rfl rfl rfl rfl rfl rfl rfl id
  | exited | merged | filled | tracked => exact .finish _

theorem ExitEffect.finished {frame : TerminalProcessExitFrame} (h : ExitEffect record frame next) :
    Finished next := by
  cases h with
  | removed | acknowledged | unmatched => exact .finish _

theorem ReadyEffect.finished {daemonInstanceId : JsString} {nowMs : Int} (hrecord : Finished record)
    (h : ReadyEffect record daemonInstanceId nowMs next) : Finished next := by
  cases h with
  | current => exact hrecord
  | retired => exact .finish _

theorem RejectionEffect.finished {input : TerminalStartRejection} (hlease : Finished normalized)
    (h : RejectionEffect input normalized next) : Finished next := by
  cases h with
  | unmatched => exact hlease
  | counted | released | removed => exact .finish _

theorem AttachEffect.finished {batch : CatchupBatch} (hrecord : Finished record)
    (h : AttachEffect record batch next) : Finished next := by
  cases h with
  | attached obligation launch hobligation hlaunch hid =>
      constructor
      · intro hengaged
        refine hrecord.marked ?_
        simpa [isTerminalBreakerEngaged, hobligation, hlaunch] using hengaged
      · rw [← hrecord.settled]
        refine record.settlesNeedsManual_congr ?_ rfl rfl rfl
        simp [blockingUnexitedEntries, isConfirmedLiveCurrentProcess, hlaunch]

theorem finished_settled {obligation : CatchupObligation} (readCursors : InsertionMap JsString Int)
    (hobligation : record.catchupObligation = some obligation) (h : Finished record) :
    Finished { record with
      catchupObligation := (settleCatchupByReadCursor obligation readCursors).1 } := by
  refine h.untouched rfl rfl rfl rfl rfl rfl rfl fun hengaged => ?_
  cases hnext : (settleCatchupByReadCursor obligation readCursors).1 with
  | none => simp [hnext] at hengaged
  | some next =>
      obtain ⟨cursor, rfl⟩ := settleCatchupByReadCursor_eq hnext
      simpa [hnext, hobligation] using hengaged

theorem BuildEffect.finished {readCursors : InsertionMap JsString Int} {batch : Option CatchupBatch}
    (hrecord : Finished record) (h : BuildEffect record readCursors batch next) :
    Finished next := by
  cases h with
  | nothingOwed => exact hrecord
  | settled obligation hobligation => exact finished_settled readCursors hobligation hrecord
  | attached obligation _ _ _ hobligation _ _ hattached =>
      exact hattached.finished (finished_settled readCursors hobligation hrecord)

end

namespace TerminalFailureBreakerState

variable {record : TerminalFailureBreakerState}

theorem finished_markEvidenceLost (nowMs : Int) (h : Finished record) :
    Finished (record.markEvidenceLost nowMs).1 := by
  rw [markEvidenceLost]
  split
  · exact .finish _
  · exact h

theorem finished_spawned (frame : TerminalProcessSpawnedFrame) (h : Finished record) :
    Finished (record.applyTerminalProcessSpawned frame).state :=
  (record.spawnEffect frame).finished (finished_resetSpawnError frame.launches h)

theorem finished_rejected (input : TerminalStartRejection) (h : Finished record) :
    Finished (record.applyTerminalStartRejectedBeforeSpawn input).state :=
  (record.rejectionEffect input).finished (finished_normalizeTerminalBreakerLease _ h)

theorem finished_judged (frame : TerminalOutboxFrame) (input : TerminalOutboxFrameInput)
    (h : Finished record) : Finished (record.judgeOutboxFrame frame input).1 := by
  cases frame with
  | terminalFailure frame => exact (record.failureEffect frame _ _).finished h
  | turnCompleted frame => exact (record.turnEffect frame _ _).finished h
  | processSpawned => exact finished_spawned _ h
  | processExited => exact (record.exitEffect _).finished
  | startRebound => exact (record.ackEffect _).finished h
  | startNotSpawned => exact finished_rejected _ h
  | evidenceLost => exact finished_markEvidenceLost input.nowMs h

theorem finished_outboxFrame (frame : TerminalOutboxFrame) (input : TerminalOutboxFrameInput)
    (h : Finished record) : Finished (record.applyTerminalOutboxFrame frame input).state := by
  have heffect := record.outboxEffect frame input
  generalize record.applyTerminalOutboxFrame frame input = applied at heffect
  cases heffect with
  | replayed => exact h
  | lost => exact (finished_markEvidenceLost _ h).untouched rfl rfl rfl rfl rfl rfl rfl id
  | judged => exact (finished_judged frame input h).untouched rfl rfl rfl rfl rfl rfl rfl id

theorem finished_marker (marker : TerminalOutcomeMarker) (nowMs : Int) (h : Finished record) :
    Finished (record.applyTerminalOutcomeMarker marker nowMs).1 := by
  rw [applyTerminalOutcomeMarker]
  split_ifs
  · exact h
  · exact h
  · exact finished_markEvidenceLost nowMs h
  · exact h

theorem finished_transition (event : BreakerEvent) (h : Finished record) :
    Finished (record.transition event) := by
  cases event with
  | failure frame nowMs unreadCeilings =>
      exact (record.failureEffect frame nowMs unreadCeilings).finished h
  | turnCompleted frame nowMs persistedSessionId =>
      exact (record.turnEffect frame nowMs persistedSessionId).finished h
  | gate input =>
      exact (record.gateEffect input).finished (finished_normalizeTerminalBreaker input.nowMs)
  | claim input => exact (record.claimEffect input).finished h
  | rollback token nowMs dispatchLeftReplica =>
      exact (record.rollbackEffect token nowMs dispatchLeftReplica).finished h
  | lift => exact .finish _
  | manualStop nowMs =>
      exact (record.manualStopEffect nowMs).finished
        (finished_normalizeTerminalBreakerLease nowMs h)
  | startAck ack => exact (record.ackEffect ack).finished h
  | processSpawned frame => exact finished_spawned frame h
  | processExited frame => exact (record.exitEffect frame).finished
  | daemonReady daemonInstanceId nowMs =>
    exact (record.readyEffect daemonInstanceId nowMs).finished h
  | startRejected input => exact finished_rejected input h
  | outboxFrame frame input => exact finished_outboxFrame frame input h
  | marker marker nowMs => exact finished_marker marker nowMs h
  | catchupBuild readCursors batch => exact (record.buildEffect readCursors batch).finished h
  | attachBatch batch =>
      rcases record.attach_cases batch with heq | hattached
      · show Finished ((record.attachCatchupBatch batch).getD record)
        rwa [heq]
      · exact hattached.finished h

end TerminalFailureBreakerState

end Raft.TerminalBreaker
