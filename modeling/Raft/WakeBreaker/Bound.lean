import Raft.Foundation.Run
import Raft.WakeBreaker.Episode

/-!
# Automatic starts are bounded

A start that fails early counts for one of two streaks.  Only a start whose
failure was counted lets a later start reset the early exits, so the failures
so far pay for the early exits that were forgotten.
-/

namespace Raft.WakeBreaker

open Raft.Foundation WakeCrashLoopEpisodeState

/-- The starts recorded, and whether the last one was followed by a counted exit or failure. -/
structure StartTally where
  starts : Nat
  answered : Bool

def tally (rules : WakeCrashLoopRules) (system : WakeSystem) (count : StartTally) :
    WakeOperation → StartTally
  | .recordStart _ _ _ => ⟨count.starts + 1, false⟩
  | .recordExit exit nowMs =>
      { count with answered := count.answered ||
          (system.record.wakeCrashLoopExitRejectReason rules exit nowMs).isNone }
  | .recordStartFailure launchId reason nowMs =>
      let outcome := (system.record.applyWakeCrashLoopStartFailure rules launchId reason nowMs).2
      { count with answered := count.answered ||
          outcome ≠ .ignored && outcome ≠ .owned_by_terminal_breaker }
  | .rollbackStart _ | .recordStartSucceeded _ | .startFailureOwned _ | .recordManualStop
  | .liftForConfigChange | .markCatchupCarried _ | .confirmCatchupDelivered _ => count

/-- Only automatic starts without a hold, each after the answer to the one before. -/
def onlyAutomatic (watched : WakeSystem × StartTally) : WakeOperation → Prop
  | .recordStart _ nowMs human =>
      human = false ∧ wakeCrashLoopAutomaticWakeHold watched.1.record nowMs = none ∧
        watched.2.answered = true
  | .startFailureOwned launchId => watched.1.record.withdrawsFailure launchId = false
  | .rollbackStart _ | .recordStartSucceeded _ | .recordManualStop | .liftForConfigChange => False
  | .recordExit _ _ | .recordStartFailure _ _ _ | .markCatchupCarried _
  | .confirmCatchupDelivered _ => True

def automaticRun (rules : WakeCrashLoopRules) (episode : Nat) (operations : List WakeOperation) :
    WakeSystem × StartTally :=
  run (instrument (wakeStep rules) (tally rules)) (freshWakeSystem episode, ⟨0, true⟩) operations

/-- The start whose failure alone was counted has its failure to pay for it. -/
structure Paid (rules : WakeCrashLoopRules) (state : WakeCrashLoopEpisodeState)
    (count : StartTally) : Prop where
  exits : state.blocked = false → state.earlyExitCount < rules.threshold
  failures : state.blocked = false → state.startFailureCount < rules.failureThreshold
  starts : state.blocked = false → count.starts ≤
    rules.threshold * state.startFailureCount +
      (if count.answered && !state.lastStartCounted then 0 else state.earlyExitCount) +
      if count.answered then 0 else 1
  bound : count.starts ≤ rules.threshold * rules.failureThreshold

theorem Paid.starts_le {rules : WakeCrashLoopRules} {state : WakeCrashLoopEpisodeState}
    {count : StartTally} (h : Paid rules state count) (hopen : state.blocked = false)
    (hanswered : count.answered = true) :
    count.starts + 1 ≤ rules.threshold * rules.failureThreshold := by
  have hexits := h.exits hopen
  have hstarts := h.starts hopen
  rw [hanswered, Bool.true_and, if_pos rfl, Nat.add_zero] at hstarts
  have hearly : (if (!state.lastStartCounted) = true then 0 else state.earlyExitCount) + 1 ≤
      rules.threshold := by
    split <;> omega
  calc count.starts + 1
      ≤ rules.threshold * state.startFailureCount + rules.threshold := by omega
    _ = rules.threshold * (state.startFailureCount + 1) := (Nat.mul_succ _ _).symm
    _ ≤ rules.threshold * rules.failureThreshold := Nat.mul_le_mul_left _ (h.failures hopen)

theorem blocked_of_no_hold {state : WakeCrashLoopEpisodeState} {nowMs : Int}
    (hhold : wakeCrashLoopAutomaticWakeHold state nowMs = none) : state.blocked = false := by
  rw [wakeCrashLoopAutomaticWakeHold] at hhold
  split at hhold
  · cases hhold
  · next hopen => exact Bool.eq_false_of_not_eq_true hopen

theorem Paid.start {rules : WakeCrashLoopRules} {state : WakeCrashLoopEpisodeState}
    {count : StartTally} (h : Paid rules state count) (launchId : Option JsString) {nowMs : Int}
    (hhold : wakeCrashLoopAutomaticWakeHold state nowMs = none)
    (hanswered : count.answered = true) :
    Paid rules (state.applyWakeCrashLoopStart rules launchId nowMs false)
      ⟨count.starts + 1, false⟩ := by
  have hopen := blocked_of_no_hold hhold
  obtain ⟨-, hcounted, -, hcase⟩ :=
    @applyWakeCrashLoopStart_cases rules state launchId nowMs false
  generalize state.applyWakeCrashLoopStart rules launchId nowMs false = next at *
  obtain ⟨hhuman, -⟩ | ⟨hblocked, hfailures, hexits⟩ := hcase
  · cases hhuman
  have hstarts := h.starts hopen
  have hbelow := h.exits hopen
  have hfails := h.failures hopen
  refine ⟨fun _ => ?_, fun _ => hfailures ▸ hfails, fun _ => ?_, h.starts_le hopen hanswered⟩
  · rcases hexits with hsame | ⟨-, hreset⟩ <;> omega
  · rw [hfailures]
    simp only [hanswered, Bool.true_and, if_true, Bool.false_and, Bool.false_eq_true,
      if_false] at hstarts ⊢
    rcases hexits with hsame | ⟨hlast, hreset⟩
    · rw [hsame]
      split at hstarts <;> omega
    · simp only [hlast, Bool.not_false, if_true] at hstarts
      omega

theorem Paid.exit {rules : WakeCrashLoopRules} {state : WakeCrashLoopEpisodeState}
    {count : StartTally} (h : Paid rules state count) (exit : WakeCrashLoopExit) (nowMs : Int) :
    Paid rules (state.applyWakeCrashLoopExit rules exit nowMs)
      { count with answered := count.answered ||
          (state.wakeCrashLoopExitRejectReason rules exit nowMs).isNone } := by
  obtain ⟨hsame, hrejected⟩ | ⟨hopen, hcounts, hcounted, -, -, hfailures, hexits, hbelow⟩ :=
    @applyWakeCrashLoopExit_cases rules state exit nowMs
  · simpa [hsame, hrejected] using h
  · generalize state.applyWakeCrashLoopExit rules exit nowMs = next at *
    have hstarts := h.starts hopen
    refine ⟨hbelow, fun _ => hfailures ▸ h.failures hopen, fun _ => ?_, h.bound⟩
    simp only [hfailures, hexits, hcounted, hcounts, Bool.or_true, Bool.not_true, Bool.and_false,
      Bool.false_eq_true, if_false, if_true]
    split at hstarts <;> split at hstarts <;> omega

theorem Paid.failure {rules : WakeCrashLoopRules} {state : WakeCrashLoopEpisodeState}
    {count : StartTally} (h : Paid rules state count) (launchId : Option JsString)
    (reason : JsString) (nowMs : Int) :
    Paid rules (state.applyWakeCrashLoopStartFailure rules launchId reason nowMs).1
      (tally rules ⟨state, []⟩ count (.recordStartFailure launchId reason nowMs)) := by
  obtain ⟨hsame, hignored⟩ | ⟨hopen, ⟨hnotIgnored, hnotOwned⟩, hcounted, -, -, hexits, hfailures,
      hbelow⟩ :=
    @applyWakeCrashLoopStartFailure_cases rules state launchId reason nowMs
  · have htally : tally rules ⟨state, []⟩ count (.recordStartFailure launchId reason nowMs) =
        count := by
      rcases hignored with hignored | hignored <;> simp [tally, hignored]
    rwa [hsame, htally]
  · have htally : tally rules ⟨state, []⟩ count (.recordStartFailure launchId reason nowMs) =
        { count with answered := true } := by
      simp [tally, hnotIgnored, hnotOwned]
    rw [htally]
    generalize (state.applyWakeCrashLoopStartFailure rules launchId reason nowMs).1 = next at *
    have hstarts := h.starts hopen
    have hearly := h.exits hopen
    refine ⟨fun _ => hexits ▸ hearly, hbelow, fun _ => ?_, h.bound⟩
    rw [hfailures, hexits, hcounted, Nat.mul_succ]
    simp only [Bool.true_and, if_true]
    split at hstarts <;> split at hstarts <;> split <;> omega

theorem Paid.of_same {rules : WakeCrashLoopRules} {state next : WakeCrashLoopEpisodeState}
    {count : StartTally} (h : Paid rules state count) (hblocked : next.blocked = state.blocked)
    (hcounted : next.lastStartCounted = state.lastStartCounted)
    (hexits : next.earlyExitCount = state.earlyExitCount)
    (hfailures : next.startFailureCount = state.startFailureCount) : Paid rules next count where
  exits := by rw [hblocked, hexits]; exact h.exits
  failures := by rw [hblocked, hfailures]; exact h.failures
  starts := by rw [hblocked, hcounted, hexits, hfailures]; exact h.starts
  bound := h.bound

theorem paid_step {rules : WakeCrashLoopRules} {watched : WakeSystem × StartTally}
    {operation : WakeOperation} (h : Paid rules watched.1.record watched.2)
    (hguard : onlyAutomatic watched operation) :
    let next := instrument (wakeStep rules) (tally rules) watched operation
    Paid rules next.1.record next.2 ∧
      (watched.1.record.blocked = true → next.1.record.blocked = true) := by
  obtain ⟨system, count⟩ := watched
  cases operation with
  | recordStart launchId nowMs human =>
      obtain ⟨rfl, hhold, hanswered⟩ := hguard
      refine ⟨h.start launchId hhold hanswered, fun hblocked => ?_⟩
      cases (blocked_of_no_hold hhold).symm.trans hblocked
  | recordExit exit nowMs =>
      refine ⟨h.exit exit nowMs, fun hblocked => ?_⟩
      obtain ⟨hsame, -⟩ | ⟨hopen, -⟩ :=
        @applyWakeCrashLoopExit_cases rules system.record exit nowMs
      · exact (congrArg blocked hsame).trans hblocked
      · simp [hopen] at hblocked
  | recordStartFailure launchId reason nowMs =>
      refine ⟨h.failure launchId reason nowMs, fun hblocked => ?_⟩
      obtain ⟨hsame, -⟩ | ⟨hopen, -⟩ := @applyWakeCrashLoopStartFailure_cases rules
        system.record launchId reason nowMs
      · exact (congrArg blocked hsame).trans hblocked
      · simp [hopen] at hblocked
  | startFailureOwned launchId =>
      obtain ⟨hcounted, -, -, hexits, -, -, hkept⟩ :=
        @applyWakeCrashLoopStartFailureOwned_cases system.record launchId
      obtain ⟨hfailures, hblocked⟩ := hkept hguard
      exact ⟨h.of_same hblocked hcounted hexits hfailures, fun hwas => hblocked.trans hwas⟩
  | markCatchupCarried launchId =>
      have hsame : (system.record.markCatchupCarried launchId).blocked = system.record.blocked ∧
          (system.record.markCatchupCarried launchId).lastStartCounted =
            system.record.lastStartCounted ∧
          (system.record.markCatchupCarried launchId).earlyExitCount =
            system.record.earlyExitCount ∧
          (system.record.markCatchupCarried launchId).startFailureCount =
            system.record.startFailureCount := by
        rw [markCatchupCarried]
        split <;> simp
      exact ⟨h.of_same hsame.1 hsame.2.1 hsame.2.2.1 hsame.2.2.2, fun hwas => hsame.1.trans hwas⟩
  | confirmCatchupDelivered launchId =>
      have hsame : (system.record.confirmCatchupDelivered launchId).blocked =
          system.record.blocked ∧
          (system.record.confirmCatchupDelivered launchId).lastStartCounted =
            system.record.lastStartCounted ∧
          (system.record.confirmCatchupDelivered launchId).earlyExitCount =
            system.record.earlyExitCount ∧
          (system.record.confirmCatchupDelivered launchId).startFailureCount =
            system.record.startFailureCount := by
        rw [confirmCatchupDelivered]
        split <;> simp
      exact ⟨h.of_same hsame.1 hsame.2.1 hsame.2.2.1 hsame.2.2.2, fun hwas => hsame.1.trans hwas⟩
  | rollbackStart token => exact hguard.elim
  | recordStartSucceeded launchId => exact hguard.elim
  | recordManualStop => exact hguard.elim
  | liftForConfigChange => exact hguard.elim

theorem paid_fresh {rules : WakeCrashLoopRules} (hthreshold : 1 ≤ rules.threshold)
    (hfailures : 1 ≤ rules.failureThreshold) (episode : Nat) :
    Paid rules (freshWakeCrashLoopEpisode episode) ⟨0, true⟩ where
  exits _ := hthreshold
  failures _ := hfailures
  starts _ := Nat.zero_le _
  bound := Nat.zero_le _

theorem automatic_starts_bounded (rules : WakeCrashLoopRules) (episode : Nat)
    (operations : List WakeOperation) (hthreshold : 1 ≤ rules.threshold)
    (hfailures : 1 ≤ rules.failureThreshold)
    (hrun : Admitted (instrument (wakeStep rules) (tally rules)) onlyAutomatic
      (freshWakeSystem episode, ⟨0, true⟩) operations) :
    (automaticRun rules episode operations).2.starts ≤
        rules.threshold * rules.failureThreshold ∧
      ∀ before during, before ++ during = operations →
        (automaticRun rules episode before).1.record.blocked = true →
          (automaticRun rules episode operations).1.record.blocked = true := by
  have hpaid : ∀ {watched : WakeSystem × StartTally} {operations : List WakeOperation},
      Paid rules watched.1.record watched.2 →
      Admitted (instrument (wakeStep rules) (tally rules)) onlyAutomatic watched operations →
      Paid rules (run (instrument (wakeStep rules) (tally rules)) watched operations).1.record
        (run (instrument (wakeStep rules) (tally rules)) watched operations).2 :=
    fun hinit hrun => hrun.invariant (fun watched => Paid rules watched.1.record watched.2)
      (fun _ _ h hguard => (paid_step h hguard).1) hinit
  have hfresh := paid_fresh hthreshold hfailures episode
  refine ⟨(hpaid hfresh hrun).bound, ?_⟩
  rintro before during rfl hblocked
  obtain ⟨hbefore, hduring⟩ := admitted_append.mp hrun
  rw [automaticRun, run_append]
  refine hduring.chain (fun watched => Paid rules watched.1.record watched.2)
    (fun first second => first.1.record.blocked = true → second.1.record.blocked = true)
    (fun _ => id) ?_ (fun _ _ h hguard => paid_step h hguard) (hpaid hfresh hbefore) hblocked
  intro first second third hfirst hsecond h
  exact hsecond (hfirst h)

/-- Two starts that fail and one that exits early, under a bound of two and two. -/
theorem automatic_starts_bounded_mixed :
    let rules : WakeCrashLoopRules := ⟨60000, 2, some 2, none⟩
    let exit : WakeCrashLoopExit := ⟨.agent_process_exited, some ⟨some 1, none⟩, some (js "b")⟩
    let operations : List WakeOperation :=
      [.recordStart (some (js "a")) 0 false,
        .recordStartFailure (some (js "a")) (js "spawn_error") 5,
        .recordStart (some (js "b")) 10 false, .recordExit exit 20,
        .recordStart (some (js "c")) 30 false,
        .recordStartFailure (some (js "c")) (js "spawn_error") 40]
    (automaticRun rules 1 operations).2.starts ≤ 4 ∧
      ∀ before during, before ++ during = operations →
        (automaticRun rules 1 before).1.record.blocked = true →
          (automaticRun rules 1 operations).1.record.blocked = true :=
  automatic_starts_bounded _ 1 _ (by decide) (by decide)
    ⟨⟨rfl, by decide, by decide⟩, trivial, ⟨rfl, by decide, by decide⟩, trivial,
      ⟨rfl, by decide, by decide⟩, trivial, trivial⟩

end Raft.WakeBreaker
