import Raft.WakeBreaker.Episode

/-!
# Withdrawing a start failure

The terminal breaker takes over a start's failure before or after its activity
report was counted.  The two orders leave records that later starts and start
failures tell apart only by the last counted launch and by the last counted
reason, which the withdrawal does not give back.
-/

namespace Raft.WakeBreaker

open Raft.Foundation

inductive LaterEvent where
  | start (launchId : Option JsString) (nowMs : Int) (human : Bool)
  | failure (launchId : Option JsString) (reason : JsString) (nowMs : Int)
  deriving DecidableEq

namespace LaterEvent

def launchId : LaterEvent → Option JsString
  | .start launchId _ _ => launchId
  | .failure launchId _ _ => launchId

def avoids (launches : List JsString) (event : LaterEvent) : Prop :=
  ∀ launch ∈ launches, event.launchId ≠ some launch

instance (launches : List JsString) (event : LaterEvent) : Decidable (event.avoids launches) :=
  inferInstanceAs (Decidable (∀ launch ∈ launches, event.launchId ≠ some launch))

end LaterEvent

structure LaterObservation where
  outcome : Option WakeCrashLoopStartFailureOutcome
  blocked : Bool
  deriving DecidableEq

def applyLater (rules : WakeCrashLoopRules) (state : WakeCrashLoopEpisodeState) :
    LaterEvent → WakeCrashLoopEpisodeState × Option WakeCrashLoopStartFailureOutcome
  | .start launchId nowMs human => (state.applyWakeCrashLoopStart rules launchId nowMs human, none)
  | .failure launchId reason nowMs =>
      let applied := state.applyWakeCrashLoopStartFailure rules launchId reason nowMs
      (applied.1, some applied.2)

def observed (rules : WakeCrashLoopRules) :
    WakeCrashLoopEpisodeState → List LaterEvent → List LaterObservation
  | _, [] => []
  | state, event :: events =>
      let next := applyLater rules state event
      ⟨next.2, next.1.blocked⟩ :: observed rules next.1 events

/-- Later events block at the same step and with the same outcomes. -/
def BlocksAlike (rules : WakeCrashLoopRules) (avoided : List JsString)
    (first second : WakeCrashLoopEpisodeState) : Prop :=
  ∀ events : List LaterEvent, (∀ event ∈ events, event.avoids avoided) →
    observed rules first events = observed rules second events

/-! ## Records that cannot be told apart -/

structure Alike (rules : WakeCrashLoopRules) (avoided : List JsString)
    (first second : WakeCrashLoopEpisodeState) : Prop where
  blocked : first.blocked = second.blocked
  earlyExitCount : first.earlyExitCount = second.earlyExitCount
  lastStartAtMs : first.lastStartAtMs = second.lastStartAtMs
  lastStartCounted : first.lastStartCounted = second.lastStartCounted
  lastStartLaunchId : first.lastStartLaunchId = second.lastStartLaunchId
  startFailureCount : first.startFailureCount = second.startFailureCount
  owned : ∀ launch, launch ∉ avoided → first.startFailureOwnedLaunchId ≠ some launch ∧
    second.startFailureOwnedLaunchId ≠ some launch
  counted : ∀ launch, launch ∉ avoided → (first.lastStartFailureLaunchId = some launch ↔
    second.lastStartFailureLaunchId = some launch)
  uncounted : first.startFailureCount = 0 → ∀ launch, launch ∉ avoided →
    first.lastStartFailureLaunchId ≠ some launch ∧ second.lastStartFailureLaunchId ≠ some launch
  reason : 0 < first.startFailureCount → first.startFailureCount + 1 < rules.failureThreshold →
    ∀ reason ∈ RETRY_ONCE_SPAWN_FAILURE_REASONS,
      (first.lastStartFailureReason = some reason ↔ second.lastStartFailureReason = some reason)

section

variable {rules : WakeCrashLoopRules} {avoided : List JsString}
  {first second : WakeCrashLoopEpisodeState}

structure Cleared (avoided : List JsString) (state : WakeCrashLoopEpisodeState) : Prop where
  blocked : state.blocked = false
  earlyExitCount : state.earlyExitCount = 0
  startFailureCount : state.startFailureCount = 0
  owned : ∀ launch, launch ∉ avoided → state.startFailureOwnedLaunchId ≠ some launch
  counted : ∀ launch, launch ∉ avoided → state.lastStartFailureLaunchId ≠ some launch

theorem Cleared.alike (hfirst : Cleared avoided first) (hsecond : Cleared avoided second)
    (hat : first.lastStartAtMs = second.lastStartAtMs)
    (hlast : first.lastStartCounted = second.lastStartCounted)
    (hlaunch : first.lastStartLaunchId = second.lastStartLaunchId) :
    Alike rules avoided first second where
  blocked := hfirst.blocked.trans hsecond.blocked.symm
  earlyExitCount := hfirst.earlyExitCount.trans hsecond.earlyExitCount.symm
  lastStartAtMs := hat
  lastStartCounted := hlast
  lastStartLaunchId := hlaunch
  startFailureCount := hfirst.startFailureCount.trans hsecond.startFailureCount.symm
  owned launch havoided := ⟨hfirst.owned launch havoided, hsecond.owned launch havoided⟩
  counted launch havoided :=
    iff_of_false (hfirst.counted launch havoided) (hsecond.counted launch havoided)
  uncounted _ launch havoided := ⟨hfirst.counted launch havoided, hsecond.counted launch havoided⟩
  reason hpos := absurd hfirst.startFailureCount hpos.ne'

theorem Alike.survivedWindow (h : Alike rules avoided first second) (nowMs : Int) :
    first.survivedWindow rules nowMs = second.survivedWindow rules nowMs := by
  rw [WakeCrashLoopEpisodeState.survivedWindow, WakeCrashLoopEpisodeState.survivedWindow,
    h.lastStartAtMs, h.lastStartCounted]

theorem hasStartFailureStreak_eq_false {state : WakeCrashLoopEpisodeState}
    (h : state.hasStartFailureStreak = false) : state.startFailureCount = 0 := by
  rw [WakeCrashLoopEpisodeState.hasStartFailureStreak, Bool.or_eq_false_iff] at h
  simpa using h.1

theorem cleared_start {state : WakeCrashLoopEpisodeState} (launchId : Option JsString)
    (nowMs : Int)
    (howned : ∀ launch, launch ∉ avoided → state.startFailureOwnedLaunchId ≠ some launch)
    (hcounted : state.startFailureCount = 0 →
      ∀ launch, launch ∉ avoided → state.lastStartFailureLaunchId ≠ some launch) :
    Cleared avoided (state.applyWakeCrashLoopStart rules launchId nowMs true) := by
  simp only [WakeCrashLoopEpisodeState.applyWakeCrashLoopStart, Bool.true_and]
  split
  · exact ⟨rfl, rfl, rfl, by rintro _ _ ⟨⟩, by rintro _ _ ⟨⟩⟩
  · next hopen =>
      simp only [Bool.or_eq_true, decide_eq_true_eq, not_or, Bool.not_eq_true] at hopen
      obtain ⟨⟨hblocked, hearly⟩, hstreak⟩ := hopen
      have hcount := hasStartFailureStreak_eq_false hstreak
      split
      · exact ⟨hblocked, rfl, hcount, howned, hcounted hcount⟩
      · exact ⟨hblocked, Nat.eq_zero_of_not_pos hearly, hcount, howned, hcounted hcount⟩

theorem Alike.start (h : Alike rules avoided first second) (launchId : Option JsString)
    (nowMs : Int) (human : Bool) :
    Alike rules avoided (first.applyWakeCrashLoopStart rules launchId nowMs human)
      (second.applyWakeCrashLoopStart rules launchId nowMs human) := by
  cases human with
  | true =>
      have hfirst := @cleared_start rules avoided first launchId nowMs
        (fun launch havoided => (h.owned launch havoided).1)
        (fun hcount launch havoided => (h.uncounted hcount launch havoided).1)
      have hsecond := @cleared_start rules avoided second launchId nowMs
        (fun launch havoided => (h.owned launch havoided).2)
        (fun hcount launch havoided =>
          (h.uncounted (h.startFailureCount.trans hcount) launch havoided).2)
      exact hfirst.alike hsecond rfl rfl rfl
  | false =>
      simp only [WakeCrashLoopEpisodeState.applyWakeCrashLoopStart, Bool.false_and,
        Bool.false_eq_true, if_false, h.survivedWindow nowMs]
      split
      · exact ⟨h.blocked, rfl, rfl, rfl, rfl, h.startFailureCount, h.owned, h.counted,
          h.uncounted, h.reason⟩
      · exact ⟨h.blocked, h.earlyExitCount, rfl, rfl, rfl, h.startFailureCount, h.owned, h.counted,
          h.uncounted, h.reason⟩

theorem Alike.countFailure (h : Alike rules avoided first second) (launchId reason : JsString)
    (nowMs : Int) :
    (first.countFailure rules launchId reason nowMs).2 =
        (second.countFailure rules launchId reason nowMs).2 ∧
      Alike rules avoided (first.countFailure rules launchId reason nowMs).1
        (second.countFailure rules launchId reason nowMs).1 := by
  have hblocks : (decide (reason ∈ NON_RETRYABLE_SPAWN_FAILURE_REASONS) ||
        decide (reason ∈ RETRY_ONCE_SPAWN_FAILURE_REASONS) &&
          decide (0 < first.startFailureCount) &&
          decide (first.lastStartFailureReason = some reason) ||
        decide (rules.failureThreshold ≤ first.startFailureCount + 1)) =
      (decide (reason ∈ NON_RETRYABLE_SPAWN_FAILURE_REASONS) ||
        decide (reason ∈ RETRY_ONCE_SPAWN_FAILURE_REASONS) &&
          decide (0 < second.startFailureCount) &&
          decide (second.lastStartFailureReason = some reason) ||
        decide (rules.failureThreshold ≤ second.startFailureCount + 1)) := by
    rw [← h.startFailureCount]
    by_cases hretry : reason ∈ RETRY_ONCE_SPAWN_FAILURE_REASONS
    · by_cases hpos : 0 < first.startFailureCount
      · by_cases hbelow : first.startFailureCount + 1 < rules.failureThreshold
        · rw [decide_eq_decide.mpr (h.reason hpos hbelow reason hretry)]
        · simp [not_lt.mp hbelow]
      · simp [hpos]
    · simp [hretry]
  simp only [WakeCrashLoopEpisodeState.countFailure, hblocks]
  have hcount : first.startFailureCount + 1 = second.startFailureCount + 1 :=
    congrArg (· + 1) h.startFailureCount
  split
  · exact ⟨rfl, rfl, h.earlyExitCount, h.lastStartAtMs, h.lastStartCounted, h.lastStartLaunchId,
      hcount, h.owned, fun _ _ => Iff.rfl, by simp, fun _ _ _ _ => Iff.rfl⟩
  · split
    · exact ⟨rfl, h.blocked, h.earlyExitCount, h.lastStartAtMs, h.lastStartCounted,
        h.lastStartLaunchId, hcount, h.owned, fun _ _ => Iff.rfl, by simp, fun _ _ _ _ => Iff.rfl⟩
    · exact ⟨rfl, h.blocked, h.earlyExitCount, h.lastStartAtMs, h.lastStartCounted,
        h.lastStartLaunchId, hcount, h.owned, fun _ _ => Iff.rfl, by simp, fun _ _ _ _ => Iff.rfl⟩

theorem Alike.failure (h : Alike rules avoided first second) {launchId : Option JsString}
    (havoids : ∀ launch ∈ avoided, launchId ≠ some launch) (reason : JsString) (nowMs : Int) :
    (first.applyWakeCrashLoopStartFailure rules launchId reason nowMs).2 =
        (second.applyWakeCrashLoopStartFailure rules launchId reason nowMs).2 ∧
      Alike rules avoided (first.applyWakeCrashLoopStartFailure rules launchId reason nowMs).1
        (second.applyWakeCrashLoopStartFailure rules launchId reason nowMs).1 := by
  cases launchId with
  | none =>
      simp only [WakeCrashLoopEpisodeState.applyWakeCrashLoopStartFailure, ite_self]
      exact ⟨trivial, h⟩
  | some launch =>
      have havoided : launch ∉ avoided := fun hmem => havoids launch hmem rfl
      simp only [WakeCrashLoopEpisodeState.applyWakeCrashLoopStartFailure, h.blocked,
        h.lastStartLaunchId, (h.owned launch havoided).1, (h.owned launch havoided).2,
        h.counted launch havoided, if_false]
      split
      · exact ⟨rfl, h⟩
      · split
        · exact ⟨rfl, h⟩
        · split
          · exact ⟨rfl, h⟩
          · exact h.countFailure launch reason nowMs

theorem Alike.blocksAlike (h : Alike rules avoided first second) :
    BlocksAlike rules avoided first second := by
  intro events havoids
  induction events generalizing first second with
  | nil => rfl
  | cons event events ih =>
      have hrest := fun other hother => havoids other (List.mem_cons_of_mem _ hother)
      have hevent := havoids event List.mem_cons_self
      rw [observed, observed]
      cases event with
      | start launchId nowMs human =>
          have hnext := h.start launchId nowMs human
          simp only [applyLater]
          rw [hnext.blocked, ih hnext hrest]
      | failure launchId reason nowMs =>
          obtain ⟨houtcome, hnext⟩ :=
            @Alike.failure rules avoided first second h launchId hevent reason nowMs
          simp only [applyLater]
          rw [houtcome, hnext.blocked, ih hnext hrest]

end

/-! ## The two orders -/

section Orders

variable (rules : WakeCrashLoopRules) (state : WakeCrashLoopEpisodeState)
  (launchId reason : JsString) (nowMs : Int)

/-- The activity report is counted first, and its owner takes the failure over. -/
def reportedFirst : WakeCrashLoopEpisodeState :=
  (state.applyWakeCrashLoopStartFailure rules (some launchId) reason
    nowMs).1.applyWakeCrashLoopStartFailureOwned launchId

/-- The owner takes the failure over before its activity report arrives. -/
def ownedFirst : WakeCrashLoopEpisodeState :=
  ((state.applyWakeCrashLoopStartFailureOwned launchId).applyWakeCrashLoopStartFailure rules
    (some launchId) reason nowMs).1

/-- The withdrawn report's reason stands in for the one counted before it, as far as a later
failure can tell. -/
def KeepsReason : Prop :=
  state.startFailureCount = 0 ∨ rules.failureThreshold ≤ state.startFailureCount + 1 ∨
    ∀ retried ∈ RETRY_ONCE_SPAWN_FAILURE_REASONS,
      (reason = retried ↔ state.lastStartFailureReason = some retried)

end Orders

section

variable {rules : WakeCrashLoopRules} {state : WakeCrashLoopEpisodeState}
  {launchId reason : JsString} {nowMs : Int}

variable (rules reason nowMs) in
theorem ownedFirst_eq (hopen : state.blocked = false)
    (hcurrent : state.lastStartLaunchId = some launchId)
    (hcounted : state.lastStartFailureLaunchId ≠ some launchId) :
    ownedFirst rules state launchId reason nowMs =
      { state with startFailureOwnedLaunchId := some launchId } := by
  simp [ownedFirst, WakeCrashLoopEpisodeState.applyWakeCrashLoopStartFailureOwned,
    WakeCrashLoopEpisodeState.applyWakeCrashLoopStartFailure, hopen, hcurrent, hcounted]

structure GivesBack (state : WakeCrashLoopEpisodeState) (launchId reason : JsString)
    (next : WakeCrashLoopEpisodeState) : Prop where
  blocked : next.blocked = false
  earlyExitCount : next.earlyExitCount = state.earlyExitCount
  lastStartAtMs : next.lastStartAtMs = state.lastStartAtMs
  lastStartCounted : next.lastStartCounted = state.lastStartCounted
  lastStartLaunchId : next.lastStartLaunchId = some launchId
  startFailureCount : next.startFailureCount = state.startFailureCount
  owned : next.startFailureOwnedLaunchId = some launchId
  counted : next.lastStartFailureLaunchId = none
  reason : next.lastStartFailureReason = if state.startFailureCount = 0 then none else some reason

variable (rules reason nowMs) in
theorem reportedFirst_gives_back (hopen : state.blocked = false)
    (hcurrent : state.lastStartLaunchId = some launchId)
    (howned : state.startFailureOwnedLaunchId ≠ some launchId)
    (hcounted : state.lastStartFailureLaunchId ≠ some launchId) :
    GivesBack state launchId reason (reportedFirst rules state launchId reason nowMs) := by
  simp only [reportedFirst, WakeCrashLoopEpisodeState.applyWakeCrashLoopStartFailure, hopen,
    hcurrent, howned, hcounted, Bool.false_eq_true, ne_eq, not_true_eq_false, if_false,
    WakeCrashLoopEpisodeState.countFailure]
  split
  · constructor <;> simp [WakeCrashLoopEpisodeState.applyWakeCrashLoopStartFailureOwned]
  · split <;> constructor <;>
      simp [WakeCrashLoopEpisodeState.applyWakeCrashLoopStartFailureOwned]

theorem BlocksAlike.mono {avoided more : List JsString} {first second : WakeCrashLoopEpisodeState}
    (h : BlocksAlike rules avoided first second) (hsubset : avoided ⊆ more) :
    BlocksAlike rules more first second := fun events havoids =>
  h events fun event hevent launch hlaunch => havoids event hevent launch (hsubset hlaunch)

def nextOutcome (rules : WakeCrashLoopRules) (state : WakeCrashLoopEpisodeState)
    (launch failed : JsString) : WakeCrashLoopStartFailureOutcome :=
  ((state.applyWakeCrashLoopStart rules (some launch) 0 false).applyWakeCrashLoopStartFailure rules
    (some launch) failed 0).2

theorem BlocksAlike.nextOutcome {avoided : List JsString}
    {first second : WakeCrashLoopEpisodeState} (h : BlocksAlike rules avoided first second)
    {launch : JsString} (havoided : launch ∉ avoided) (failed : JsString) :
    nextOutcome rules first launch failed = nextOutcome rules second launch failed := by
  have hevents := h [.start (some launch) 0 false, .failure (some launch) failed 0] (by
    intro event hevent other hother
    have hlaunch : event.launchId = some launch := by
      rcases List.mem_pair.mp hevent with rfl | rfl <;> rfl
    rw [hlaunch]
    rintro ⟨⟩
    exact havoided hother)
  simp only [observed, applyLater, List.cons.injEq, LaterObservation.mk.injEq,
    Option.some.injEq] at hevents
  exact hevents.2.1.1

/-- What a failure of the launch just started comes to while the circuit is closed. -/
def closedOutcome (rules : WakeCrashLoopRules) (state : WakeCrashLoopEpisodeState)
    (launch failed : JsString) : WakeCrashLoopStartFailureOutcome :=
  if state.lastStartFailureLaunchId = some launch then .ignored
  else if failed ∈ NON_RETRYABLE_SPAWN_FAILURE_REASONS ∨
      (failed ∈ RETRY_ONCE_SPAWN_FAILURE_REASONS ∧ 0 < state.startFailureCount) ∧
        state.lastStartFailureReason = some failed ∨
      rules.failureThreshold ≤ state.startFailureCount + 1 then .blocked
  else if failed ∈ RETRY_ONCE_SPAWN_FAILURE_REASONS then .retry_scheduled
  else .counted

theorem failureOutcome_eq {launch : JsString} (hopen : state.blocked = false)
    (hcurrent : state.lastStartLaunchId = some launch)
    (howned : state.startFailureOwnedLaunchId ≠ some launch) (failed : JsString) :
    (state.applyWakeCrashLoopStartFailure rules (some launch) failed nowMs).2 =
      closedOutcome rules state launch failed := by
  simp only [closedOutcome, WakeCrashLoopEpisodeState.applyWakeCrashLoopStartFailure,
    WakeCrashLoopEpisodeState.countFailure, hopen, hcurrent, howned, ne_eq, not_true_eq_false,
    Bool.false_eq_true, if_false, Bool.or_eq_true, Bool.and_eq_true, decide_eq_true_eq, or_assoc]
  split
  · rfl
  · split
    · rfl
    · split <;> rfl

theorem nextOutcome_eq {launch : JsString} (hopen : state.blocked = false)
    (howned : state.startFailureOwnedLaunchId ≠ some launch) (failed : JsString) :
    nextOutcome rules state launch failed =
      closedOutcome rules state launch failed := by
  simp only [nextOutcome, WakeCrashLoopEpisodeState.applyWakeCrashLoopStart, Bool.false_and,
    Bool.false_eq_true, if_false]
  split
  · refine failureOutcome_eq ?_ ?_ ?_ failed
    exacts [hopen, rfl, howned]
  · refine failureOutcome_eq ?_ ?_ ?_ failed
    exacts [hopen, rfl, howned]

end

theorem retried_not_final : ∀ retried ∈ RETRY_ONCE_SPAWN_FAILURE_REASONS,
    retried ∉ NON_RETRYABLE_SPAWN_FAILURE_REASONS := by
  decide

/-- While a failure more does not reach the threshold, a failure that is to be retried once blocks
exactly when the one before it had its reason. -/
theorem nextOutcome_eq_blocked_iff {rules : WakeCrashLoopRules} {state : WakeCrashLoopEpisodeState}
    {launch retried : JsString} (hopen : state.blocked = false)
    (howned : state.startFailureOwnedLaunchId ≠ some launch)
    (hcounted : state.lastStartFailureLaunchId ≠ some launch)
    (hpos : 0 < state.startFailureCount)
    (hbelow : state.startFailureCount + 1 < rules.failureThreshold)
    (hretried : retried ∈ RETRY_ONCE_SPAWN_FAILURE_REASONS) :
    nextOutcome rules state launch retried = .blocked ↔
      state.lastStartFailureReason = some retried := by
  rw [nextOutcome_eq hopen howned, closedOutcome, if_neg hcounted]
  simp [retried_not_final retried hretried, hretried, hpos, hbelow]

section Compared

variable {rules : WakeCrashLoopRules} {state first second : WakeCrashLoopEpisodeState}
  {launchId reason : JsString} (hgives : GivesBack state launchId reason first)
  (hsecond : second = { state with startFailureOwnedLaunchId := some launchId })
  (hopen : state.blocked = false)

include hgives hsecond hopen

theorem alike_of_keepsReason (hcurrent : state.lastStartLaunchId = some launchId)
    (hkeeps : KeepsReason rules state reason) :
    Alike rules (launchId :: state.lastStartFailureLaunchId.toList) first second := by
  subst hsecond
  have hfree : ∀ launch, launch ∉ launchId :: state.lastStartFailureLaunchId.toList →
      first.lastStartFailureLaunchId ≠ some launch ∧
        state.lastStartFailureLaunchId ≠ some launch := by
    intro launch havoided
    rw [hgives.counted]
    refine ⟨nofun, fun hlaunch => havoided ?_⟩
    simp [hlaunch]
  refine ⟨hgives.blocked.trans hopen.symm, hgives.earlyExitCount, hgives.lastStartAtMs,
    hgives.lastStartCounted, hgives.lastStartLaunchId.trans hcurrent.symm,
    hgives.startFailureCount, fun launch havoided => ?_,
    fun launch havoided => iff_of_false (hfree launch havoided).1 (hfree launch havoided).2,
    fun _ => hfree, fun hpos hbelow retried hretried => ?_⟩
  · have hne : some launchId ≠ some launch := by
      rintro ⟨⟩
      exact havoided List.mem_cons_self
    exact ⟨hgives.owned ▸ hne, hne⟩
  · rw [hgives.startFailureCount] at hpos hbelow
    rw [hgives.reason, if_neg hpos.ne', Option.some.injEq]
    rcases hkeeps with hzero | hreached | hsame
    · exact absurd hzero hpos.ne'
    · exact absurd hbelow (not_lt.mpr hreached)
    · exact hsame retried hretried

theorem keepsReason_of_blocksAlike
    (h : BlocksAlike rules (launchId :: state.lastStartFailureLaunchId.toList) first second) :
    KeepsReason rules state reason := by
  subst hsecond
  by_contra hdiffers
  simp only [KeepsReason, not_or, not_le] at hdiffers
  obtain ⟨hcount, hbelow, hdiffers⟩ := hdiffers
  have hpos := Nat.pos_of_ne_zero hcount
  obtain ⟨launch, havoided⟩ := Infinite.exists_notMem_finset
    (launchId :: state.lastStartFailureLaunchId.toList).toFinset
  rw [List.mem_toFinset] at havoided
  have hne : some launchId ≠ some launch := by
    rintro ⟨⟩
    exact havoided List.mem_cons_self
  refine hdiffers fun retried hretried => ?_
  have hfirst : nextOutcome rules first launch retried = .blocked ↔
      first.lastStartFailureReason = some retried :=
    nextOutcome_eq_blocked_iff hgives.blocked (hgives.owned ▸ hne) (by simp [hgives.counted])
      (hgives.startFailureCount ▸ hpos) (hgives.startFailureCount ▸ hbelow) hretried
  have hsecond : nextOutcome rules { state with startFailureOwnedLaunchId := some launchId } launch
      retried = .blocked ↔ state.lastStartFailureReason = some retried :=
    nextOutcome_eq_blocked_iff hopen hne
      (fun hlaunch => havoided (by
        change state.lastStartFailureLaunchId = some launch at hlaunch
        simp [hlaunch])) hpos hbelow hretried
  rw [hgives.reason, if_neg hcount, Option.some.injEq] at hfirst
  rw [← hfirst, ← hsecond, h.nextOutcome havoided]

theorem uncounted_of_blocksAlike (hcounted : state.lastStartFailureLaunchId ≠ some launchId)
    (h : BlocksAlike rules [launchId] first second) : state.lastStartFailureLaunchId = none := by
  subst hsecond
  by_contra hsome
  obtain ⟨launch, hlaunch⟩ := Option.ne_none_iff_exists'.mp hsome
  have hne : launchId ≠ launch := by
    rintro rfl
    exact hcounted hlaunch
  have hsame := h.nextOutcome (show launch ∉ [launchId] by simpa using hne.symm) []
  have hrepeated : nextOutcome rules
      { state with startFailureOwnedLaunchId := some launchId } launch [] = .ignored := by
    refine (nextOutcome_eq ?_ ?_ []).trans (if_pos hlaunch)
    · exact hopen
    · simpa using hne
  rw [hrepeated, nextOutcome_eq hgives.blocked (by simpa [hgives.owned] using hne),
    closedOutcome, hgives.counted, if_neg nofun] at hsame
  split at hsame
  · cases hsame
  · split at hsame <;> cases hsame

end Compared

/-- The two orders block alike exactly when the withdrawn report's reason makes no difference and
no other launch was counted before it; without starts of that launch the reason decides alone. -/
theorem orders_block_alike_iff (rules : WakeCrashLoopRules) (state : WakeCrashLoopEpisodeState)
    (launchId reason : JsString) (nowMs : Int) (hopen : state.blocked = false)
    (hcurrent : state.lastStartLaunchId = some launchId)
    (howned : state.startFailureOwnedLaunchId ≠ some launchId)
    (hcounted : state.lastStartFailureLaunchId ≠ some launchId) :
    (BlocksAlike rules [launchId] (reportedFirst rules state launchId reason nowMs)
        (ownedFirst rules state launchId reason nowMs) ↔
      state.lastStartFailureLaunchId = none ∧ KeepsReason rules state reason) ∧
    (BlocksAlike rules (launchId :: state.lastStartFailureLaunchId.toList)
        (reportedFirst rules state launchId reason nowMs)
        (ownedFirst rules state launchId reason nowMs) ↔
      KeepsReason rules state reason) := by
  have hgives := reportedFirst_gives_back rules reason nowMs hopen hcurrent howned hcounted
  have hsecond := ownedFirst_eq rules reason nowMs hopen hcurrent hcounted
  refine ⟨⟨fun h => ⟨uncounted_of_blocksAlike hgives hsecond hopen hcounted h,
      keepsReason_of_blocksAlike hgives hsecond hopen
        (h.mono (List.cons_subset_cons _ (List.nil_subset _)))⟩, ?_⟩,
    keepsReason_of_blocksAlike hgives hsecond hopen,
    fun hkeeps => (alike_of_keepsReason hgives hsecond hopen hcurrent hkeeps).blocksAlike⟩
  rintro ⟨hfree, hkeeps⟩
  have h := (alike_of_keepsReason hgives hsecond hopen hcurrent hkeeps).blocksAlike
  rwa [hfree] at h

def failedOnce : WakeCrashLoopEpisodeState :=
  { freshWakeCrashLoopEpisode 1 with
    lastStartAtMs := some 5
    lastStartLaunchId := some (js "b")
    startFailureCount := 1
    lastStartFailureReason := some (js "spawn_failed")
    lastStartFailureLaunchId := some (js "a") }

def defaultRules : WakeCrashLoopRules := ⟨60000, 3, none, none⟩

theorem orders_block_alike_same_reason :
    BlocksAlike defaultRules [js "b", js "a"]
      (reportedFirst defaultRules failedOnce (js "b") (js "spawn_failed") 6)
      (ownedFirst defaultRules failedOnce (js "b") (js "spawn_failed") 6) :=
  (orders_block_alike_iff defaultRules failedOnce (js "b") (js "spawn_failed") 6 rfl rfl nofun
    (by decide)).2.mpr (.inr (.inr (by decide)))

/-- The withdrawn report leaves its reason, and the next launch that fails for it is blocked. -/
theorem withdrawn_reason_blocks :
    ¬ BlocksAlike defaultRules [js "b"]
      (reportedFirst defaultRules failedOnce (js "b") (js "model_not_found") 6)
      (ownedFirst defaultRules failedOnce (js "b") (js "model_not_found") 6) := by
  intro h
  have hevents := h [.start (some (js "c")) 7 false,
    .failure (some (js "c")) (js "model_not_found") 8] (by decide)
  revert hevents
  decide

end Raft.WakeBreaker
