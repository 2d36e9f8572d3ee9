import Raft.Foundation.OptimisticStore
import Raft.WakeBreaker.Episode

/-!
# The wake breaker's writers

Each operation reads the record, applies its transition and stores the outcome
if the version is unchanged, and starts over if it is not.  Whatever the writers'
steps do in between, the record is the fold of the transitions that were stored.
-/

namespace Raft.WakeBreaker

open Raft.Foundation

abbrev WakeCrashLoopStateRecord := Versioned WakeCrashLoopEpisodeState

def CAS_MAX_ATTEMPTS : Nat := 16

structure WakeCrashLoopActivityDiagnostic where
  episode : Nat
  earlyExitCount : Nat
  threshold : Nat
  windowMs : Int
  blocked : Bool
  blockedAtMs : Option Int
  firstExitAtMs : Option Int
  lastExitAtMs : Option Int
  lastExitKind : Option WakeCrashLoopExitKind
  lastSignal : Option JsString
  lastLaunchId : Option JsString

structure WakeCrashLoopExitObservation where
  counted : Bool
  rejected : Option WakeCrashLoopExitRejectReason
  blockedNow : Bool
  snapshot : WakeCrashLoopActivityDiagnostic

structure StartFailureRecorded where
  outcome : WakeCrashLoopStartFailureOutcome
  blocked : Bool
  startFailureCount : Nat
  retryAfterMs : Option Int

inductive WakeMutation where
  | recordStart (launchId : Option JsString) (nowMs : Int) (human : Bool)
  | rollbackStart (record : WakeCrashLoopStartRecord)
  | recordManualStop
  | recordExit (exit : WakeCrashLoopExit) (nowMs : Int)
  | recordStartFailure (launchId : Option JsString) (reason : JsString) (nowMs : Int)
  | recordStartSucceeded (launchId : JsString)
  | liftForConfigChange
  | markCatchupCarried (launchId : JsString)
  | confirmCatchupDelivered (launchId : JsString)

inductive WakeMutationResult where
  | started (record : WakeCrashLoopStartRecord)
  | rolledBack (restored : Bool)
  | stopped
  | exited (observation : WakeCrashLoopExitObservation)
  | failed (recorded : StartFailureRecorded)
  | succeeded (changed : Bool)
  | lifted (wasBlocked : Bool)
  | marked
  | confirmed (delivered : Bool)

namespace WakeCrashLoopEpisodeState

variable (rules : WakeCrashLoopRules) (state : WakeCrashLoopEpisodeState)

def wakeCrashLoopSnapshot : WakeCrashLoopActivityDiagnostic where
  episode := state.episode
  earlyExitCount := state.earlyExitCount
  threshold := rules.threshold
  windowMs := rules.windowMs
  blocked := state.blocked
  blockedAtMs := state.blockedAtMs
  firstExitAtMs := state.firstExitAtMs
  lastExitAtMs := state.lastExitAtMs
  lastExitKind := state.lastExitKind
  lastSignal := state.lastSignal
  lastLaunchId := state.lastLaunchId

def observeExit (exit : WakeCrashLoopExit) (nowMs : Int) : WakeCrashLoopExitObservation :=
  let rejected := state.wakeCrashLoopExitRejectReason rules exit nowMs
  let next := state.applyWakeCrashLoopExit rules exit nowMs
  { counted := rejected.isNone
    rejected
    blockedNow := rejected.isNone && rules.threshold ≤ next.earlyExitCount
    snapshot := next.wakeCrashLoopSnapshot rules }

end WakeCrashLoopEpisodeState

def WakeMutation.transition (rules : WakeCrashLoopRules) (mutation : WakeMutation)
    (state : WakeCrashLoopEpisodeState) : Proposal WakeCrashLoopEpisodeState WakeMutationResult :=
  match mutation with
  | .recordStart launchId nowMs human =>
      ⟨state.applyWakeCrashLoopStart rules launchId nowMs human,
        .started ⟨launchId, nowMs, state⟩, true⟩
  | .rollbackStart record =>
      if state.isSameStart record then ⟨record.previous, .rolledBack true, true⟩
      else ⟨state, .rolledBack false, false⟩
  | .recordManualStop => ⟨state.applyWakeCrashLoopManualStop, .stopped, true⟩
  | .recordExit exit nowMs =>
      let observation := state.observeExit rules exit nowMs
      ⟨state.applyWakeCrashLoopExit rules exit nowMs, .exited observation, observation.counted⟩
  | .recordStartFailure launchId reason nowMs =>
      let applied := state.applyWakeCrashLoopStartFailure rules launchId reason nowMs
      ⟨applied.1, .failed ⟨applied.2, applied.1.blocked, applied.1.startFailureCount,
        applied.1.retryAfterMs⟩, applied.2 ≠ .ignored⟩
  | .recordStartSucceeded launchId =>
      let changed := state.lastStartLaunchId = some launchId && state.hasStartFailureStreak
      ⟨state.applyWakeCrashLoopStartSucceeded launchId, .succeeded changed, changed⟩
  | .liftForConfigChange =>
      if state.blocked || state.hasStartFailureStreak then
        ⟨{ freshWakeCrashLoopEpisode (state.episode + 1) with catchupOwed := state.catchupOwed },
          .lifted state.blocked, true⟩
      else if state.lastStartLaunchId.isNone then ⟨state, .lifted false, false⟩
      else ⟨{ state with lastStartLaunchId := none }, .lifted false, true⟩
  | .markCatchupCarried launchId =>
      if state.catchupOwed && state.lastStartLaunchId = some launchId then
        ⟨{ state with catchupCarriedLaunchId := some launchId }, .marked, true⟩
      else ⟨state, .marked, false⟩
  | .confirmCatchupDelivered launchId =>
      if state.catchupOwed && state.catchupCarriedLaunchId = some launchId then
        ⟨{ state with catchupOwed := false, catchupCarriedLaunchId := none }, .confirmed true, true⟩
      else ⟨state, .confirmed false, false⟩

/-- Any number of concurrent calls on one agent's record. -/
def wakeCrashLoopBreaker {ι : Type} (rules : WakeCrashLoopRules) (mutations : ι → WakeMutation) :
    OptimisticStore ι WakeCrashLoopEpisodeState WakeMutationResult where
  fresh := freshWakeCrashLoopEpisode 1
  maxAttempts := CAS_MAX_ATTEMPTS
  transition call := (mutations call).transition rules

theorem transition_unwritten {rules : WakeCrashLoopRules} {mutation : WakeMutation}
    {state : WakeCrashLoopEpisodeState} (h : (mutation.transition rules state).write = false) :
    (mutation.transition rules state).state = state := by
  cases mutation with
  | recordStart launchId nowMs human => cases h
  | recordManualStop => cases h
  | recordExit exit nowMs =>
      simp only [WakeMutation.transition, WakeCrashLoopEpisodeState.observeExit] at h ⊢
      rw [WakeCrashLoopEpisodeState.applyWakeCrashLoopExit, if_pos]
      simpa using h
  | recordStartFailure launchId reason nowMs =>
      simp only [WakeMutation.transition, decide_eq_false_iff_not, not_not] at h ⊢
      obtain ⟨hsame, -⟩ | ⟨-, ⟨hcounted, -⟩, -⟩ :=
        @WakeCrashLoopEpisodeState.applyWakeCrashLoopStartFailure_cases rules state launchId reason
          nowMs
      · exact hsame
      · exact absurd h hcounted
  | recordStartSucceeded launchId =>
      simp only [WakeMutation.transition, Bool.and_eq_false_iff, decide_eq_false_iff_not] at h ⊢
      rw [WakeCrashLoopEpisodeState.applyWakeCrashLoopStartSucceeded, if_pos]
      simpa using h
  | rollbackStart record =>
      simp only [WakeMutation.transition] at h ⊢
      split at h
      · cases h
      · next hother => rw [if_neg hother]
  | liftForConfigChange =>
      simp only [WakeMutation.transition] at h ⊢
      split at h
      · cases h
      · next hopen =>
          split at h
          · next hnone => rw [if_neg hopen, if_pos hnone]
          · cases h
  | markCatchupCarried launchId =>
      simp only [WakeMutation.transition] at h ⊢
      split at h
      · cases h
      · next hother => rw [if_neg hother]
  | confirmCatchupDelivered launchId =>
      simp only [WakeMutation.transition] at h ⊢
      split at h
      · cases h
      · next hother => rw [if_neg hother]

/-- Whatever the schedule, the stored record is the fold of the transitions that were stored, in an
order that respects the calls; every result is its transition's on the state that it met, and a
call that resolved without a write, or gave up, changed nothing. -/
theorem mutations_linearizable {ι : Type} [DecidableEq ι] (rules : WakeCrashLoopRules)
    (mutations : ι → WakeMutation) (record : Option WakeCrashLoopStateRecord) (schedule : List ι) :
    ∃ order, (wakeCrashLoopBreaker rules mutations).Linearizes record schedule order ∧
      ∀ call result,
        ((wakeCrashLoopBreaker rules mutations).reached record schedule).phase call =
          .resolved result false →
        ∃ before after, order = before ++ after ∧
          let met := (wakeCrashLoopBreaker rules mutations).applied
            (record.elim (freshWakeCrashLoopEpisode 1) Versioned.state) before
          (mutations call).transition rules met = ⟨met, result, false⟩ := by
  have horder := @OptimisticStore.linearizes_watched ι _ _ (wakeCrashLoopBreaker rules mutations)
    record _ schedule
  refine ⟨_, horder, fun call result hcall => ?_⟩
  obtain ⟨before, after, hsplit, ⟨hresult, hwrite⟩, -⟩ := horder.unwritten call result hcall
  refine ⟨before, after, hsplit, ?_⟩
  have hsame := transition_unwritten hwrite
  rw [← hresult, ← hwrite]
  exact congrArg (fun state => Proposal.mk state _ _) hsame

end Raft.WakeBreaker
