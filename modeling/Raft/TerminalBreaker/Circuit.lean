import Raft.TerminalBreaker.History

/-!
# The circuit over runs

An open circuit has its times and no live launch, a half-open one a live probe
under a lease, and a closed one neither times nor a lease.  The only transition
that breaks this is a late rollback: of a probe whose circuit closed again, or of
a claim that replaced a live launch and whose own failure opened the circuit.
-/

namespace Raft.TerminalBreaker

open Raft.Foundation TerminalFailureBreakerState

structure WellFormedCircuit (record : TerminalFailureBreakerState) : Prop where
  halfOpen : record.state = .halfOpen ↔ ∃ launch, record.currentLaunch = some launch ∧
    launch.isProbe = true ∧ launch.leaseExpiresAtMs ≠ none ∧ launch.terminal = none
  opened : record.state = .opened → record.openedAtMs ≠ none ∧ record.blockedUntilMs ≠ none ∧
    ∀ launch, record.currentLaunch = some launch → launch.terminal ≠ none
  closed : record.state = .closed → record.openedAtMs = none ∧ record.blockedUntilMs = none ∧
    ∀ launch, record.currentLaunch = some launch → launch.leaseExpiresAtMs = none
  generation : ∀ launch, record.currentLaunch = some launch → launch.generation = record.generation
  transition : ∀ last, record.lastTransition = some last → last.toState = record.state.text

/-! ## The circuit by itself -/

structure Circuit where
  state : TerminalBreakerCircuit
  generation : Nat
  currentLaunch : Option TerminalBreakerLaunch
  openedAtMs : Option Int
  blockedUntilMs : Option Int
  lastTransition : Option TerminalBreakerTransition

def TerminalFailureBreakerState.circuit (record : TerminalFailureBreakerState) : Circuit :=
  ⟨record.state, record.generation, record.currentLaunch, record.openedAtMs, record.blockedUntilMs,
    record.lastTransition⟩

def Circuit.Fits (circuit : Circuit) : Prop :=
  match circuit.state with
  | .closed => circuit.openedAtMs = none ∧ circuit.blockedUntilMs = none ∧
      ∀ launch, circuit.currentLaunch = some launch → launch.leaseExpiresAtMs = none
  | .opened => circuit.openedAtMs ≠ none ∧ circuit.blockedUntilMs ≠ none ∧
      ∀ launch, circuit.currentLaunch = some launch → launch.terminal ≠ none
  | .halfOpen => circuit.openedAtMs ≠ none ∧ circuit.blockedUntilMs ≠ none ∧
      ∃ launch, circuit.currentLaunch = some launch ∧ launch.isProbe = true ∧
        launch.leaseExpiresAtMs ≠ none ∧ launch.terminal = none

structure Circuit.Sound (circuit : Circuit) : Prop where
  fits : circuit.Fits
  generation : ∀ launch, circuit.currentLaunch = some launch →
    launch.generation = circuit.generation
  transition : ∀ last, circuit.lastTransition = some last → last.toState = circuit.state.text

namespace Circuit.Sound

variable {circuit : Circuit}

theorem fresh : Circuit.Sound freshTerminalFailureBreakerState.circuit where
  fits := ⟨rfl, rfl, fun _ h => nomatch h⟩
  generation _ h := nomatch h
  transition _ h := nomatch h

theorem of_closed (h : circuit.Sound) (hclosed : circuit.state = .closed) :
    circuit.openedAtMs = none ∧ circuit.blockedUntilMs = none ∧
      ∀ launch, circuit.currentLaunch = some launch → launch.leaseExpiresAtMs = none := by
  simpa [Fits, hclosed] using h.fits

theorem of_opened (h : circuit.Sound) (hopen : circuit.state = .opened) :
    circuit.openedAtMs ≠ none ∧ circuit.blockedUntilMs ≠ none ∧
      ∀ launch, circuit.currentLaunch = some launch → launch.terminal ≠ none := by
  simpa [Fits, hopen] using h.fits

theorem of_halfOpen (h : circuit.Sound) (hhalf : circuit.state = .halfOpen) :
    circuit.openedAtMs ≠ none ∧ circuit.blockedUntilMs ≠ none ∧
      ∃ launch, circuit.currentLaunch = some launch ∧ launch.isProbe = true ∧
        launch.leaseExpiresAtMs ≠ none ∧ launch.terminal = none := by
  simpa [Fits, hhalf] using h.fits

theorem times (h : circuit.Sound) (hclosed : circuit.state ≠ .closed) :
    circuit.openedAtMs ≠ none ∧ circuit.blockedUntilMs ≠ none := by
  cases hstate : circuit.state with
  | closed => exact absurd hstate hclosed
  | opened => exact ⟨(h.of_opened hstate).1, (h.of_opened hstate).2.1⟩
  | halfOpen => exact ⟨(h.of_halfOpen hstate).1, (h.of_halfOpen hstate).2.1⟩

theorem atOpened (hstate : circuit.state = .opened) (hopened : circuit.openedAtMs ≠ none)
    (hblocked : circuit.blockedUntilMs ≠ none)
    (hlaunch : ∀ launch, circuit.currentLaunch = some launch →
      launch.terminal ≠ none ∧ launch.generation = circuit.generation)
    (htransition : ∀ last, circuit.lastTransition = some last → last.toState = circuit.state.text) :
    circuit.Sound where
  fits := by
    rw [Fits, hstate]
    exact ⟨hopened, hblocked, fun launch h => (hlaunch launch h).1⟩
  generation launch h := (hlaunch launch h).2
  transition := htransition

theorem atClosed (hstate : circuit.state = .closed) (hopened : circuit.openedAtMs = none)
    (hblocked : circuit.blockedUntilMs = none)
    (hlaunch : ∀ launch, circuit.currentLaunch = some launch →
      launch.leaseExpiresAtMs = none ∧ launch.generation = circuit.generation)
    (htransition : ∀ last, circuit.lastTransition = some last → last.toState = circuit.state.text) :
    circuit.Sound where
  fits := by
    rw [Fits, hstate]
    exact ⟨hopened, hblocked, fun launch h => (hlaunch launch h).1⟩
  generation launch h := (hlaunch launch h).2
  transition := htransition

theorem wellFormed {record : TerminalFailureBreakerState} (h : record.circuit.Sound) :
    WellFormedCircuit record where
  halfOpen := by
    constructor
    · exact fun hhalf => (h.of_halfOpen hhalf).2.2
    · rintro ⟨launch, hlaunch, _, hlease, hlive⟩
      cases hstate : record.state with
      | closed => exact absurd ((h.of_closed hstate).2.2 launch hlaunch) hlease
      | opened => exact absurd hlive ((h.of_opened hstate).2.2 launch hlaunch)
      | halfOpen => rfl
  opened := h.of_opened
  closed := h.of_closed
  generation := h.generation
  transition := h.transition

end Circuit.Sound

section

variable {record normalized next : TerminalFailureBreakerState}

theorem sound_replace (h : record.circuit.Sound) (hclosed : record.state = .closed)
    (launch : Option TerminalBreakerLaunch)
    (hcircuit : next.circuit = { record.circuit with currentLaunch := launch })
    (hlaunch : ∀ held, launch = some held →
      held.leaseExpiresAtMs = none ∧ held.generation = record.generation) :
    next.circuit.Sound := by
  have ⟨hopened, hblocked, _⟩ := h.of_closed hclosed
  rw [hcircuit]
  exact .atClosed hclosed hopened hblocked hlaunch h.transition

theorem sound_map (h : record.circuit.Sound)
    (change : TerminalBreakerLaunch → TerminalBreakerLaunch)
    (hchange : ∀ launch, (change launch).isProbe = launch.isProbe ∧
      (change launch).leaseExpiresAtMs = launch.leaseExpiresAtMs ∧
      (change launch).terminal = launch.terminal ∧ (change launch).generation = launch.generation)
    (hcircuit : next.circuit =
      { record.circuit with currentLaunch := record.currentLaunch.map change }) :
    next.circuit.Sound := by
  rw [hcircuit]
  refine ⟨?_, fun launch hlaunch => ?_, h.transition⟩
  · cases hstate : record.circuit.state with
    | closed =>
        have ⟨hopened, hblocked, hlease⟩ := h.of_closed hstate
        simp only [Circuit.Fits, hstate]
        refine ⟨hopened, hblocked, fun launch hlaunch => ?_⟩
        obtain ⟨held, hheld, rfl⟩ := Option.map_eq_some_iff.mp hlaunch
        exact (hchange held).2.1.trans (hlease held hheld)
    | opened =>
        have ⟨hopened, hblocked, hterminal⟩ := h.of_opened hstate
        simp only [Circuit.Fits, hstate]
        refine ⟨hopened, hblocked, fun launch hlaunch => ?_⟩
        obtain ⟨held, hheld, rfl⟩ := Option.map_eq_some_iff.mp hlaunch
        rw [(hchange held).2.2.1]
        exact hterminal held hheld
    | halfOpen =>
        have ⟨hopened, hblocked, held, hheld, hprobe, hlease, hlive⟩ := h.of_halfOpen hstate
        have ⟨sameProbe, sameLease, sameTerminal, _⟩ := hchange held
        simp only [Circuit.Fits, hstate]
        refine ⟨hopened, hblocked, change held, ?_, sameProbe.trans hprobe, ?_,
          sameTerminal.trans hlive⟩
        · exact Option.map_eq_some_iff.mpr ⟨held, hheld, rfl⟩
        · rwa [sameLease]
  · obtain ⟨held, hheld, rfl⟩ := Option.map_eq_some_iff.mp hlaunch
    exact (hchange held).2.2.2.trans (h.generation held hheld)

theorem sound_normalizeTerminalBreakerLease (nowMs : Int) (h : record.circuit.Sound) :
    (record.normalizeTerminalBreakerLease nowMs).circuit.Sound := by
  rw [normalizeTerminalBreakerLease]
  split
  · exact h
  · rename_i lease hlease
    have hhalf : record.state = .halfOpen := by
      by_contra hother
      simp [expiredLease, hother] at hlease
    obtain ⟨hopened, _⟩ := h.times (by rw [show record.circuit.state = _ from hhalf]; decide)
    exact .atOpened rfl hopened (Option.some_ne_none _) (by rintro _ ⟨⟩) (by rintro _ ⟨⟩; rfl)

/-! ## What each transition makes of the circuit -/

theorem FailureEffect.sound {frame : TerminalFailureFrame} {nowMs : Int}
    {unreadCeilings : Option (InsertionMap JsString Int)} (hrecord : record.circuit.Sound)
    (h : normalized.circuit.Sound)
    (heffect : FailureEffect record frame nowMs unreadCeilings normalized next) :
    next.circuit.Sound := by
  cases heffect with
  | ignored => exact hrecord
  | late => exact h
  | probeFailed launch hhalf hlaunch hbound =>
      refine .atOpened rfl (h.of_halfOpen hhalf).1 (Option.some_ne_none _) ?_ (by rintro _ ⟨⟩; rfl)
      rintro held hheld
      simp only [TerminalFailureBreakerState.circuit] at hheld
      cases hheld
      exact ⟨Option.some_ne_none _, hbound.generation⟩
  | counted launch hclosed hlaunch hbound =>
      refine sound_replace h hclosed _ rfl fun held hheld => ?_
      cases hheld
      exact ⟨(h.of_closed hclosed).2.2 launch hlaunch, hbound.generation⟩
  | opened launch trigger hclosed hlaunch hbound =>
      refine .atOpened rfl (Option.some_ne_none _) (Option.some_ne_none _) ?_ (by rintro _ ⟨⟩; rfl)
      rintro _ ⟨⟩
      exact ⟨Option.some_ne_none _, hbound.generation⟩

theorem TurnEffect.sound {frame : TurnCompletedFrame} {nowMs : Int} (hrecord : record.circuit.Sound)
    (h : normalized.circuit.Sound) (heffect : TurnEffect record frame nowMs normalized next) :
    next.circuit.Sound := by
  cases heffect with
  | ignored => exact hrecord
  | late probe _ _ _ hbound | recovered probe _ _ hbound =>
      refine .atClosed rfl rfl rfl ?_ (by rintro _ ⟨⟩; rfl)
      rintro _ ⟨⟩
      exact ⟨rfl, hbound.generation⟩
  | completed launch hclosed hlaunch hbound =>
      refine sound_replace h hclosed _ rfl fun held hheld => ?_
      cases hheld
      exact ⟨(h.of_closed hclosed).2.2 launch hlaunch, hbound.generation⟩

theorem GateEffect.sound {input : TerminalWakeGateInput} {result : TerminalWakeGateResult}
    (h : normalized.circuit.Sound) (heffect : GateEffect record input normalized result) :
    result.state.circuit.Sound := by
  cases heffect <;> exact h

theorem circuit_claimLaunch (input : TerminalClaimInput) (isProbe : Bool) :
    (record.claimLaunch input isProbe).circuit = (record.startLaunch input isProbe).circuit := by
  rw [claimLaunch, pushPending]
  split
  · rfl
  · split <;> rfl

theorem ClaimEffect.sound {input : TerminalClaimInput} {result : TerminalClaimResult}
    (hrecord : record.circuit.Sound) (h : normalized.circuit.Sound)
    (heffect : ClaimEffect record input normalized result) :
    (result.stateAfter record).circuit.Sound := by
  cases heffect with
  | refused => exact hrecord
  | takenOver _ state hstate =>
      subst hstate
      have hlifted : (normalized.takeOver input.nowMs).circuit.Sound :=
        .atClosed rfl rfl rfl (by rintro _ ⟨⟩) (by rintro _ ⟨⟩; rfl)
      show ((normalized.takeOver input.nowMs).claimLaunch input false).circuit.Sound
      rw [circuit_claimLaunch]
      refine sound_replace hlifted rfl _ rfl fun held hheld => ?_
      cases hheld
      exact ⟨rfl, rfl⟩
  | probe _ _ hopen state hstate =>
      subst hstate
      have ⟨hopened, hblocked, _⟩ := h.of_opened hopen
      show ((normalized.claimProbe input.nowMs).claimLaunch input true).circuit.Sound
      rw [circuit_claimLaunch, claimProbe, if_pos hopen]
      refine ⟨⟨hopened, hblocked, _, rfl, rfl, Option.some_ne_none _, rfl⟩, fun held hheld => ?_,
        fun last hlast => ?_⟩
      · cases hheld
        rfl
      · cases hlast
        rfl
  | replaced _ _ hclosed state hstate =>
      subst hstate
      show (normalized.claimLaunch input false).circuit.Sound
      rw [circuit_claimLaunch]
      refine sound_replace h hclosed _ rfl fun held hheld => ?_
      cases hheld
      exact ⟨rfl, rfl⟩

theorem ManualStopEffect.sound {nowMs : Int} (h : normalized.circuit.Sound)
    (heffect : ManualStopEffect nowMs normalized next) : next.circuit.Sound := by
  cases heffect with
  | stopped hhalf =>
      have ⟨hopened, hblocked, _⟩ := h.of_halfOpen hhalf
      exact .atOpened rfl hopened hblocked (by rintro _ ⟨⟩) (by rintro _ ⟨⟩; rfl)
  | idle | cancelled => exact h

theorem AckEffect.sound {ack : TerminalStartAck} (h : record.circuit.Sound)
    (heffect : AckEffect record ack (record.markTakeover ack.launchId) next) :
    next.circuit.Sound := by
  have hmarked : (record.markTakeover ack.launchId).circuit.Sound := by
    refine sound_map h _ (fun launch => ?_) rfl
    split <;> exact ⟨rfl, rfl, rfl, rfl⟩
  cases heffect with
  | notRebind => exact h
  | exited | merged | filled | unmatched => exact hmarked

theorem sound_settleSpawned (frame : TerminalProcessSpawnedFrame) (h : record.circuit.Sound) :
    (record.settleSpawned frame).circuit.Sound := by
  cases hstate : record.state with
  | closed =>
      refine sound_replace h hstate _ rfl fun held hheld => ?_
      obtain ⟨launch, hlaunch, rfl⟩ := Option.map_eq_some_iff.mp hheld
      have hlease := (h.of_closed hstate).2.2 launch hlaunch
      have hgeneration := h.generation launch hlaunch
      split <;> exact ⟨hlease, hgeneration⟩
  | opened | halfOpen =>
      refine sound_map h _ (fun launch => ?_) rfl
      simp [identifyAcknowledged, hstate]

theorem SpawnEffect.sound {frame : TerminalProcessSpawnedFrame} (h : record.circuit.Sound)
    (heffect : SpawnEffect frame record next) : next.circuit.Sound := by
  cases heffect with
  | unknownExit | exited | acknowledged => exact h
  | merged | filled | tracked => exact sound_settleSpawned frame h

theorem circuit_resetSpawnError (launches : List JsString) :
    (record.resetSpawnError launches).circuit = record.circuit := by
  rw [resetSpawnError]
  split <;> rfl

theorem sound_spawned (frame : TerminalProcessSpawnedFrame) (h : record.circuit.Sound) :
    (record.applyTerminalProcessSpawned frame).state.circuit.Sound := by
  rw [← circuit_resetSpawnError frame.launches] at h
  exact (record.spawnEffect frame).sound h

theorem sound_endCarried (carried : List JsString) (atMs : Int) (h : record.circuit.Sound) :
    (record.endCarried carried atMs).1.circuit.Sound := by
  rw [endCarried]
  split
  · rename_i launch hfound
    obtain ⟨hlaunch, hbinds⟩ := Option.filter_eq_some_iff.mp hfound
    have hgeneration := h.generation launch hlaunch
    rw [endLaunch]
    split
    · rename_i hprobe
      simp only [Bool.and_eq_true, decide_eq_true_eq] at hprobe
      refine .atOpened rfl (h.of_halfOpen hprobe.1).1 (Option.some_ne_none _) ?_
        (by rintro _ ⟨⟩; rfl)
      rintro _ ⟨⟩
      exact ⟨Option.some_ne_none _, hgeneration⟩
    · rename_i hother
      rcases record.state_cases with hstate | hstate | hstate
      · refine sound_replace h hstate _ rfl fun held hheld => ?_
        cases hheld
        exact ⟨(h.of_closed hstate).2.2 launch hlaunch, hgeneration⟩
      · have hdead := (h.of_opened hstate).2.2 launch hlaunch
        simp [bindsCurrentLaunch, hdead] at hbinds
      · obtain ⟨_, _, held, hheld, hprobe, _⟩ := h.of_halfOpen hstate
        cases hlaunch.symm.trans hheld
        simp [hstate, hprobe] at hother
  · exact h

@[simp] theorem circuit_finishTransition : record.finishTransition.circuit = record.circuit := by
  simp [circuit, finishTransition, markProtectedIfEngaged, settleTerminalNeedsManual]

@[simp] theorem circuit_recordExit (frame : TerminalProcessExitFrame) :
    (record.recordExit frame).circuit = record.circuit := by
  simp [circuit, recordExit]

@[simp] theorem circuit_removeUnexited (dropped : List Nat) :
    (record.removeUnexited dropped).circuit = record.circuit := by
  simp [circuit, removeUnexited]

@[simp] theorem circuit_removeAcknowledged (index : Nat) :
    (record.removeAcknowledged index).circuit = record.circuit := by
  simp [circuit, removeAcknowledged]

theorem ExitEffect.sound {frame : TerminalProcessExitFrame} (h : record.circuit.Sound)
    (heffect : ExitEffect record frame next) : next.circuit.Sound := by
  cases heffect with
  | removed index =>
      have hremoved : ((record.removeUnexited [index]).recordExit frame).circuit.Sound := by
        simpa using h
      simpa using sound_endCarried _ frame.atMs hremoved
  | acknowledged | unmatched => simpa using h

theorem ReadyEffect.sound {daemonInstanceId : JsString} {nowMs : Int} (h : record.circuit.Sound)
    (heffect : ReadyEffect record daemonInstanceId nowMs next) : next.circuit.Sound := by
  cases heffect with
  | current => exact h
  | retired =>
      have hsame : (record.markProtectedIfEngaged.retireOlder daemonInstanceId nowMs).circuit =
          record.circuit := by
        rw [retireOlder, blockOnRestart, dropUntracked]
        split <;> split <;> rfl
      show (record.markProtectedIfEngaged.retireOlder daemonInstanceId nowMs).circuit.Sound
      rw [hsame]
      exact h

theorem circuit_rejectStart (input : TerminalStartRejection) :
    (record.rejectStart input).circuit = record.circuit := by
  rw [rejectStart]
  split <;> rfl

theorem sound_countSpawnError {launch : TerminalBreakerLaunch} (nowMs : Int)
    (unreadCeilings : Option (InsertionMap JsString Int)) (h : record.circuit.Sound)
    (hgeneration : launch.generation = record.generation) :
    (record.countSpawnError launch nowMs unreadCeilings).circuit.Sound := by
  rw [countSpawnError]
  split
  · rename_i hopen
    refine .atOpened hopen (h.of_opened hopen).1 (Option.some_ne_none _) ?_ h.transition
    rintro _ ⟨⟩
    exact ⟨Option.some_ne_none _, hgeneration⟩
  · refine .atOpened rfl (Option.some_ne_none _) (Option.some_ne_none _) ?_ (by rintro _ ⟨⟩; rfl)
    rintro _ ⟨⟩
    exact ⟨Option.some_ne_none _, hgeneration⟩

theorem RejectionEffect.sound {input : TerminalStartRejection} (h : normalized.circuit.Sound)
    (heffect : RejectionEffect input normalized next) : next.circuit.Sound := by
  have hrejected : (normalized.rejectStart input).circuit.Sound := by
    rw [circuit_rejectStart]
    exact h
  have hcircuit := @circuit_rejectStart normalized input
  cases heffect with
  | unmatched => exact h
  | counted launch _ hbound =>
      refine sound_countSpawnError _ _ hrejected ?_
      exact hbound.generation.trans (congrArg Circuit.generation hcircuit).symm
  | released launch hhalf =>
      have hstate : (normalized.rejectStart input).circuit.state = .halfOpen :=
        (congrArg Circuit.state hcircuit).trans hhalf
      have ⟨hopened, hblocked, _⟩ := hrejected.of_halfOpen hstate
      exact .atOpened rfl hopened hblocked (by rintro _ ⟨⟩) (by rintro _ ⟨⟩; rfl)
  | removed => exact hrejected

theorem sound_markEvidenceLost (nowMs : Int) (h : record.circuit.Sound) :
    (record.markEvidenceLost nowMs).1.circuit.Sound := by
  rw [markEvidenceLost]
  split <;> exact h

theorem AttachEffect.sound {batch : CatchupBatch} (h : record.circuit.Sound)
    (heffect : AttachEffect record batch next) : next.circuit.Sound := by
  cases heffect with
  | attached obligation launch _ hlaunch =>
      refine sound_map h (fun launch => { launch with catchupBatchId := some batch.batchId })
        (fun _ => ⟨rfl, rfl, rfl, rfl⟩) ?_
      simp [circuit, hlaunch]

theorem BuildEffect.sound {readCursors : InsertionMap JsString Int} {batch : Option CatchupBatch}
    (h : record.circuit.Sound) (heffect : BuildEffect record readCursors batch next) :
    next.circuit.Sound := by
  cases heffect with
  | nothingOwed | settled => exact h
  | attached obligation _ _ _ _ _ _ hattached =>
      have hsettled : ({ record with catchupObligation :=
          (settleCatchupByReadCursor obligation readCursors).1 } :
            TerminalFailureBreakerState).circuit.Sound := h
      exact hattached.sound hsettled

theorem circuit_undoClaim (token : TerminalClaimToken) (nowMs : Int) (dispatchLeftReplica : Bool) :
    (record.undoClaim token nowMs dispatchLeftReplica).circuit =
      (record.undoLaunch token nowMs).circuit := by
  rw [undoClaim, dropPending]
  split <;> rfl

/-- What a claim remembers of the launch that it replaced. -/
structure Replaced (token : TerminalClaimToken) (launch : TerminalBreakerLaunch) : Prop where
  notProbe : token.isProbe = false
  lease : launch.leaseExpiresAtMs = none
  generation : launch.generation = token.generation

theorem ClaimEffect.replaced_previous {input : TerminalClaimInput} {token : TerminalClaimToken}
    (h : normalized.circuit.Sound)
    (heffect : ClaimEffect record input normalized (.claimed next token))
    {launch : TerminalBreakerLaunch} (hlaunch : token.previousLaunch = some launch) :
    Replaced token launch := by
  cases heffect with
  | takenOver | probe => cases hlaunch
  | replaced _ _ hclosed _ hstate =>
      subst hstate
      have hgeneration := (currentLaunch_claimLaunch normalized input false).2.1
      exact ⟨rfl, (h.of_closed hclosed).2.2 launch hlaunch,
        (h.generation launch hlaunch).trans hgeneration.symm⟩

end

namespace TerminalFailureBreakerState

variable (record : TerminalFailureBreakerState)

theorem sound_judged (frame : TerminalOutboxFrame) (input : TerminalOutboxFrameInput)
    (h : record.circuit.Sound) : (record.judgeOutboxFrame frame input).1.circuit.Sound := by
  have hlease (nowMs : Int) := sound_normalizeTerminalBreakerLease nowMs h
  cases frame with
  | terminalFailure frame => exact (record.failureEffect frame _ _).sound h (hlease _)
  | turnCompleted frame => exact (record.turnEffect frame _ _).sound h (hlease _)
  | processSpawned _ _ launchId => exact sound_spawned _ h
  | processExited => exact (record.exitEffect _).sound h
  | startRebound => exact (record.ackEffect _).sound h
  | startNotSpawned => exact (record.rejectionEffect _).sound (hlease _)
  | evidenceLost => exact sound_markEvidenceLost input.nowMs h

theorem sound_outboxFrame (frame : TerminalOutboxFrame) (input : TerminalOutboxFrameInput)
    (h : record.circuit.Sound) :
    (record.applyTerminalOutboxFrame frame input).state.circuit.Sound := by
  have heffect := record.outboxEffect frame input
  generalize record.applyTerminalOutboxFrame frame input = applied at heffect
  cases heffect with
  | replayed => exact h
  | lost =>
      have hlost : (record.markEvidenceLost input.nowMs).1.circuit.Sound :=
        sound_markEvidenceLost input.nowMs h
      exact hlost
  | judged => exact record.sound_judged frame input h

theorem sound_transition {event : BreakerEvent} (h : record.circuit.Sound)
    (hrollback : ∀ token nowMs left, event ≠ .rollback token nowMs left) :
    (record.transition event).circuit.Sound := by
  have hlease (nowMs : Int) := sound_normalizeTerminalBreakerLease nowMs h
  cases event with
  | failure frame nowMs unreadCeilings =>
      exact (record.failureEffect frame nowMs unreadCeilings).sound h (hlease _)
  | turnCompleted frame nowMs persistedSessionId =>
      exact (record.turnEffect frame nowMs persistedSessionId).sound h (hlease _)
  | gate input =>
      have hnormalized : (record.normalizeTerminalBreaker input.nowMs).circuit.Sound := hlease _
      exact (record.gateEffect input).sound hnormalized
  | claim input =>
      have hnormalized : (record.normalizeTerminalBreaker input.nowMs).circuit.Sound := hlease _
      exact (record.claimEffect input).sound h hnormalized
  | rollback token nowMs left => exact absurd rfl (hrollback token nowMs left)
  | lift cause nowMs => exact .atClosed rfl rfl rfl (by rintro _ ⟨⟩) (by rintro _ ⟨⟩; rfl)
  | manualStop nowMs => exact (record.manualStopEffect nowMs).sound (hlease _)
  | startAck ack => exact (record.ackEffect ack).sound h
  | processSpawned frame => exact sound_spawned frame h
  | processExited frame => exact (record.exitEffect frame).sound h
  | daemonReady daemonInstanceId nowMs => exact (record.readyEffect daemonInstanceId nowMs).sound h
  | startRejected input => exact (record.rejectionEffect input).sound (hlease _)
  | outboxFrame frame input => exact record.sound_outboxFrame frame input h
  | marker marker nowMs =>
      show (record.applyTerminalOutcomeMarker marker nowMs).1.circuit.Sound
      rw [applyTerminalOutcomeMarker]
      split_ifs <;> first | exact h | exact sound_markEvidenceLost nowMs h
  | catchupBuild readCursors batch => exact (record.buildEffect readCursors batch).sound h
  | attachBatch batch =>
      rcases record.attach_cases batch with heq | hattached
      · show ((record.attachCatchupBatch batch).getD record).circuit.Sound
        rw [heq]
        exact h
      · exact hattached.sound h

/-! ## Rollbacks -/

/-- A late rollback of a probe whose circuit closed again, or of a claim that replaced a live
launch and whose circuit is open by now. -/
def breaksCircuit (token : TerminalClaimToken) : Bool :=
  record.ownsCurrentLaunch token &&
    (token.isProbe && record.state = .closed ||
      !token.isProbe && record.state = .opened && token.previousLaunch.any (·.terminal.isNone))

theorem sound_undoLaunch {token : TerminalClaimToken} (nowMs : Int) (h : record.circuit.Sound)
    (hprevious : ∀ launch, token.previousLaunch = some launch → Replaced token launch)
    (howner : ∃ launch, record.currentLaunch = some launch ∧ launch.isProbe = token.isProbe)
    (hgeneration : record.generation = token.generation)
    (hprobe : token.isProbe = true → record.state ≠ .closed)
    (hlive : token.isProbe = false → record.state = .opened →
      ∀ launch, token.previousLaunch = some launch → launch.terminal ≠ none) :
    (record.undoLaunch token nowMs).circuit.Sound := by
  rw [undoLaunch]
  split
  · rename_i hisProbe
    obtain ⟨hopened, _⟩ := h.times (hprobe hisProbe)
    exact .atOpened rfl hopened (Option.some_ne_none _) (by rintro _ ⟨⟩) (by rintro _ ⟨⟩; rfl)
  · rename_i hplain
    have hplain : token.isProbe = false := by simpa using hplain
    rcases record.state_cases with hstate | hstate | hstate
    · refine sound_replace h hstate _ rfl fun held hheld => ?_
      have hreplaced := hprevious held hheld
      exact ⟨hreplaced.lease, hreplaced.generation.trans hgeneration.symm⟩
    · obtain ⟨hopened, hblocked⟩ :=
        h.times (by rw [show record.circuit.state = _ from hstate]; decide)
      refine .atOpened hstate hopened hblocked (fun held hheld => ?_) h.transition
      exact ⟨hlive hplain hstate held hheld,
        (hprevious held hheld).generation.trans hgeneration.symm⟩
    · obtain ⟨launch, hlaunch, hsame⟩ := howner
      obtain ⟨_, _, held, hheld, hisProbe, _⟩ := h.of_halfOpen hstate
      cases hlaunch.symm.trans hheld
      simp [hplain, hisProbe] at hsame

theorem not_wellFormed_of_breaksCircuit {token : TerminalClaimToken} {nowMs : Int} {left : Bool}
    (h : WellFormedCircuit record) (hbreaks : record.breaksCircuit token = true) :
    ¬ WellFormedCircuit (record.transition (.rollback token nowMs left)) := by
  simp only [breaksCircuit, Bool.and_eq_true, Bool.or_eq_true, Bool.not_eq_true',
    decide_eq_true_eq] at hbreaks
  obtain ⟨howner, hcase⟩ := hbreaks
  have hnext : (record.transition (.rollback token nowMs left)).circuit =
      (record.undoLaunch token nowMs).circuit := by
    show (record.rollbackTerminalClaim token nowMs left).1.circuit = _
    rw [rollbackTerminalClaim, if_pos howner]
    exact circuit_undoClaim token nowMs left
  intro hafter
  rcases hcase with ⟨hprobe, hclosed⟩ | ⟨⟨hplain, hopen⟩, hlive⟩
  · rw [undoLaunch, if_pos hprobe] at hnext
    have hstate := congrArg Circuit.state hnext
    have hopened := congrArg Circuit.openedAtMs hnext
    exact (hafter.opened hstate).1 (hopened.trans (h.closed hclosed).1)
  · rw [undoLaunch, if_neg (by simp [hplain])] at hnext
    have hstate := (congrArg Circuit.state hnext).trans hopen
    have hlaunch := congrArg Circuit.currentLaunch hnext
    cases hprevious : token.previousLaunch with
    | none => simp [hprevious] at hlive
    | some launch =>
        simp only [hprevious, Option.any_some, Option.isNone_iff_eq_none] at hlive
        exact (hafter.opened hstate).2.2 launch (hlaunch.trans hprevious) hlive

end TerminalFailureBreakerState

/-! ## Runs -/

def KeepsCircuit (history : BreakerHistory) : BreakerEvent → Prop
  | .rollback token _ _ => history.record.breaksCircuit token = false
  | _ => True

instance (history : BreakerHistory) (event : BreakerEvent) :
    Decidable (KeepsCircuit history event) :=
  match event with
  | .rollback token _ _ => inferInstanceAs (Decidable (history.record.breaksCircuit token = false))
  | .failure .. | .turnCompleted .. | .gate _ | .claim _ | .lift .. | .manualStop _ | .startAck _
  | .processSpawned _ | .processExited _ | .daemonReady .. | .startRejected _ | .outboxFrame ..
  | .marker .. | .catchupBuild .. | .attachBatch _ => isTrue trivial

structure SoundHistory (history : BreakerHistory) : Prop where
  known : Known history
  circuit : history.record.circuit.Sound
  previous : ∀ token ∈ history.tokens, ∀ launch, token.previousLaunch = some launch →
    Replaced token launch

theorem soundHistory_fresh : SoundHistory freshHistory where
  known := .fresh
  circuit := .fresh
  previous _ htoken := by simp [freshHistory] at htoken

theorem SoundHistory.rollback {history : BreakerHistory} {token : TerminalClaimToken} {nowMs : Int}
    {left : Bool} (h : SoundHistory history) (htoken : token ∈ history.tokens)
    (hkeeps : history.record.breaksCircuit token = false) :
    (history.record.transition (.rollback token nowMs left)).circuit.Sound := by
  have heffect := history.record.rollbackEffect token nowMs left
  show (history.record.rollbackTerminalClaim token nowMs left).1.circuit.Sound
  generalize history.record.rollbackTerminalClaim token nowMs left = result at heffect
  cases heffect with
  | skipped => exact h.circuit
  | restored howner =>
      simp only [breaksCircuit, howner, Bool.true_and, Bool.or_eq_false_iff] at hkeeps
      obtain ⟨launch, hlaunch, hid, _, _, hgeneration⟩ :=
        history.record.ownsCurrentLaunch_iff.mp howner
      have hidentity := h.known.owner_identity htoken hlaunch hid
      show (history.record.undoClaim token nowMs left).circuit.Sound
      rw [circuit_undoClaim]
      refine history.record.sound_undoLaunch nowMs h.circuit (h.previous token htoken)
        ⟨launch, hlaunch, congrArg LaunchIdentity.isProbe hidentity⟩ hgeneration ?_ ?_
      · intro hprobe hclosed
        simp [hprobe, hclosed] at hkeeps
      · intro hplain hopen held hheld hlive
        simp [hplain, hopen, hheld, hlive] at hkeeps

theorem SoundHistory.step {history : BreakerHistory} {event : BreakerEvent}
    (h : SoundHistory history)
    (hallowed : Allowed history event) (hkeeps : KeepsCircuit history event) :
    SoundHistory (historyStep history event) := by
  refine ⟨h.known.step hallowed, ?_, fun token htoken launch hlaunch => ?_⟩
  · cases event with
    | rollback token nowMs left => exact h.rollback hallowed hkeeps
    | _ => exact history.record.sound_transition h.circuit (fun _ _ _ heq => nomatch heq)
  · rcases List.mem_append.mp htoken with hold | hnew
    · exact h.previous token hold launch hlaunch
    · cases event with
      | claim input =>
          have hlease := sound_normalizeTerminalBreakerLease input.nowMs h.circuit
          have hnormalized : (history.record.normalizeTerminalBreaker input.nowMs).circuit.Sound :=
            hlease
          have heffect := history.record.claimEffect input
          simp only [grantedTokens] at hnew
          generalize history.record.claimTerminalStart input = result at heffect hnew
          cases result with
          | refused => simp [TerminalClaimResult.tokens] at hnew
          | claimed state granted =>
              simp only [TerminalClaimResult.tokens, List.mem_singleton] at hnew
              subst hnew
              exact heffect.replaced_previous hnormalized hlaunch
      | _ => simp [grantedTokens] at hnew

/-- Every state of a run is well formed exactly when no rollback of the run breaks the circuit. -/
theorem circuit_well_formed_iff {events : List BreakerEvent}
    (hallowed : Admitted historyStep Allowed freshHistory events) :
    (∀ before, before <+: events → WellFormedCircuit (run historyStep freshHistory before).record) ↔
      Admitted historyStep KeepsCircuit freshHistory events := by
  constructor
  · intro hwell
    rw [admitted_iff_forall_step]
    intro before next hstart
    cases next with
    | rollback token nowMs left =>
        have hnow := hwell before ((List.prefix_append _ _).trans hstart)
        have hafter := hwell _ hstart
        rw [run_concat] at hafter
        by_contra hbreaks
        have hbreaks : (run historyStep freshHistory before).record.breaksCircuit token = true := by
          simpa [KeepsCircuit] using hbreaks
        exact (run historyStep freshHistory before).record.not_wellFormed_of_breaksCircuit
          hnow hbreaks hafter
    | _ => trivial
  · intro hkeeps before hstart
    have hboth : Admitted historyStep
        (fun history event => Allowed history event ∧ KeepsCircuit history event)
          freshHistory before := by
      rw [admitted_iff_forall_step]
      intro first next hfirst
      have hwhole := hfirst.trans hstart
      exact ⟨admitted_iff_forall_step.mp hallowed first next hwhole,
        admitted_iff_forall_step.mp hkeeps first next hwhole⟩
    have hsound := hboth.invariant SoundHistory (fun _ _ h hguard => h.step hguard.1 hguard.2)
      soundHistory_fresh
    exact hsound.circuit.wellFormed

/-! ## A late rollback -/

def startOn (launchId : JsString) (nowMs : Int) : BreakerEvent :=
  .claim ⟨launchId, nowMs, none, some (js "daemon-1"), true, .automatic, false⟩

def spawnOf (launchId processInstanceId : JsString) : BreakerEvent :=
  .processSpawned ⟨launchId, js "daemon-1", processInstanceId, [], false, none⟩

def exitOf (launchId processInstanceId : JsString) (atMs : Int) : BreakerEvent :=
  .processExited ⟨js "daemon-1", processInstanceId, some launchId, launchId, atMs⟩

def failureOf (launchId : JsString) (clientSeq nowMs : Int) : BreakerEvent :=
  .failure ⟨launchId, none, js "daemon-1", clientSeq, js "provider_error", js "fingerprint"⟩
    nowMs none

def lateRollback : List BreakerEvent :=
  [startOn (js "launch-1") 0, spawnOf (js "launch-1") (js "process-1"),
    failureOf (js "launch-1") 1 1,
    exitOf (js "launch-1") (js "process-1") 2, startOn (js "launch-2") 3,
    spawnOf (js "launch-2") (js "process-2"), startOn (js "launch-3") 4,
    failureOf (js "launch-3") 2 5,
    .rollback ⟨js "launch-3", 1, 4, false, .automatic,
      some ⟨js "launch-2", 1, none, false, 3, none, none, none, false, none⟩, 0⟩ 6 true]

theorem lateRollback_live :
    Admitted historyStep Allowed freshHistory lateRollback ∧
      (run historyStep freshHistory lateRollback).record.state = .opened ∧
        (run historyStep freshHistory lateRollback).record.currentLaunch.map (·.terminal) =
          some none := by
  decide +kernel

/-- The circuit is open and yet its current launch is live. -/
theorem late_rollback_breaks_circuit :
    Admitted historyStep Allowed freshHistory lateRollback ∧
      ¬ WellFormedCircuit (run historyStep freshHistory lateRollback).record := by
  obtain ⟨hallowed, hopen, hlive⟩ := lateRollback_live
  refine ⟨hallowed, fun hwell => ?_⟩
  obtain ⟨launch, hcurrent, hterminal⟩ := Option.map_eq_some_iff.mp hlive
  exact (hwell.opened hopen).2.2 launch hcurrent hterminal

/-- Without the rollback every state of the run is well formed. -/
theorem circuit_well_formed_failed :
    WellFormedCircuit (run historyStep freshHistory lateRollback.dropLast).record :=
  (circuit_well_formed_iff (lateRollback_live.1.of_initial (List.dropLast_prefix _))).mpr
    (by decide +kernel) _ (List.prefix_refl _)

end Raft.TerminalBreaker
