import Raft.Foundation.JsString

/-!
# The wake crash-loop breaker of one agent

Automatic starts stop after enough early exits in a row, or enough failed
starts in a row.  A field that older records lack reads as `null`, zero or
false, and is modelled so.
-/

namespace Raft.WakeBreaker

open Raft.Foundation

def NON_RETRYABLE_SPAWN_FAILURE_REASONS : List JsString :=
  [js "model_not_configured", js "runtime_login_required", js "runtime_config_invalid",
    js "session_needs_reset"]

def RETRY_ONCE_SPAWN_FAILURE_REASONS : List JsString := [js "model_not_found"]

def SPAWN_FAILURE_RETRY_ONCE_DELAY_MS : Int := 60000

def START_FAILURE_THRESHOLD : Nat := 5

inductive WakeCrashLoopExitKind where
  | machine_disconnected
  | agent_process_exited
  deriving DecidableEq

structure WakeCrashLoopExitEvidence where
  code : Option Int
  signal : Option JsString
  deriving DecidableEq

structure WakeCrashLoopExit where
  kind : WakeCrashLoopExitKind
  evidence : Option WakeCrashLoopExitEvidence
  launchId : Option JsString
  deriving DecidableEq

inductive WakeCrashLoopExitRejectReason where
  | not_process_exit
  | no_exit_evidence
  | launch_mismatch
  | no_start
  | outside_window
  | already_counted
  | already_blocked
  deriving DecidableEq

structure WakeCrashLoopEpisodeState where
  episode : Nat
  earlyExitCount : Nat
  blocked : Bool
  blockedAtMs : Option Int
  lastStartAtMs : Option Int
  lastStartLaunchId : Option JsString
  lastStartCounted : Bool
  firstExitAtMs : Option Int
  lastExitAtMs : Option Int
  lastExitKind : Option WakeCrashLoopExitKind
  lastSignal : Option JsString
  lastLaunchId : Option JsString
  needsActionReason : Option JsString
  catchupOwed : Bool
  catchupCarriedLaunchId : Option JsString
  startFailureCount : Nat
  lastStartFailureReason : Option JsString
  lastStartFailureLaunchId : Option JsString
  retryAfterMs : Option Int
  startFailureOwnedLaunchId : Option JsString
  blockedByLaunchId : Option JsString
  deriving DecidableEq

structure WakeCrashLoopStartRecord where
  launchId : Option JsString
  nowMs : Int
  previous : WakeCrashLoopEpisodeState

structure WakeCrashLoopRules where
  windowMs : Int
  threshold : Nat
  startFailureThreshold : Option Nat
  retryOnceDelayMs : Option Int

def WakeCrashLoopRules.failureThreshold (rules : WakeCrashLoopRules) : Nat :=
  rules.startFailureThreshold.getD START_FAILURE_THRESHOLD

def freshWakeCrashLoopEpisode (episode : Nat) : WakeCrashLoopEpisodeState where
  episode := episode
  earlyExitCount := 0
  blocked := false
  blockedAtMs := none
  lastStartAtMs := none
  lastStartLaunchId := none
  lastStartCounted := false
  firstExitAtMs := none
  lastExitAtMs := none
  lastExitKind := none
  lastSignal := none
  lastLaunchId := none
  needsActionReason := none
  catchupOwed := false
  catchupCarriedLaunchId := none
  startFailureCount := 0
  lastStartFailureReason := none
  lastStartFailureLaunchId := none
  retryAfterMs := none
  startFailureOwnedLaunchId := none
  blockedByLaunchId := none

namespace WakeCrashLoopEpisodeState

variable (rules : WakeCrashLoopRules) (current : WakeCrashLoopEpisodeState)

def hasStartFailureStreak : Bool := 0 < current.startFailureCount || current.retryAfterMs.isSome

/-- The run before ended without an early exit, after the window. -/
def survivedWindow (nowMs : Int) : Bool :=
  current.lastStartAtMs.any fun startedAt =>
    !current.lastStartCounted && nowMs - startedAt > rules.windowMs

def applyWakeCrashLoopStart (launchId : Option JsString) (nowMs : Int) (human : Bool) :
    WakeCrashLoopEpisodeState :=
  let state :=
    if human &&
        (current.blocked || 0 < current.earlyExitCount || current.hasStartFailureStreak) then
      { freshWakeCrashLoopEpisode (current.episode + 1) with catchupOwed := current.catchupOwed }
    else if current.survivedWindow rules nowMs then
      { current with earlyExitCount := 0, firstExitAtMs := none }
    else current
  { state with
    lastStartAtMs := some nowMs
    lastStartLaunchId := launchId
    lastStartCounted := false
    catchupCarriedLaunchId := none }

def applyWakeCrashLoopManualStop : WakeCrashLoopEpisodeState :=
  { freshWakeCrashLoopEpisode current.episode with
    catchupOwed := current.catchupOwed
    catchupCarriedLaunchId := none }

def wakeCrashLoopExitRejectReason (exit : WakeCrashLoopExit) (nowMs : Int) :
    Option WakeCrashLoopExitRejectReason :=
  if exit.kind ≠ .agent_process_exited then some .not_process_exit
  else if exit.evidence.isNone then some .no_exit_evidence
  else
    match current.lastStartAtMs, current.lastStartLaunchId with
    | some startedAt, some launchId =>
        if exit.launchId ≠ some launchId then some .launch_mismatch
        else if current.blocked then some .already_blocked
        else if current.lastStartCounted then some .already_counted
        else if nowMs - startedAt > rules.windowMs then some .outside_window
        else none
    | none, _ | _, none => some .no_start

def countExit (exit : WakeCrashLoopExit) (nowMs : Int) : WakeCrashLoopEpisodeState :=
  let state := { current with
    lastStartCounted := true
    earlyExitCount := current.earlyExitCount + 1
    firstExitAtMs := current.firstExitAtMs.or (some nowMs)
    lastExitAtMs := some nowMs
    lastExitKind := some exit.kind
    lastSignal := exit.evidence.bind WakeCrashLoopExitEvidence.signal
    lastLaunchId := exit.launchId }
  if rules.threshold ≤ state.earlyExitCount then
    { state with blocked := true, blockedAtMs := some nowMs }
  else state

def applyWakeCrashLoopExit (exit : WakeCrashLoopExit) (nowMs : Int) : WakeCrashLoopEpisodeState :=
  if (current.wakeCrashLoopExitRejectReason rules exit nowMs).isSome then current
  else current.countExit rules exit nowMs

end WakeCrashLoopEpisodeState

inductive WakeCrashLoopStartFailureOutcome where
  | ignored
  | counted
  | retry_scheduled
  | blocked
  | owned_by_terminal_breaker
  deriving DecidableEq

namespace WakeCrashLoopEpisodeState

variable (rules : WakeCrashLoopRules) (current : WakeCrashLoopEpisodeState)

def countFailure (launchId reason : JsString) (nowMs : Int) :
    WakeCrashLoopEpisodeState × WakeCrashLoopStartFailureOutcome :=
  let count := current.startFailureCount + 1
  let counted := { current with
    startFailureCount := count
    lastStartFailureReason := some reason
    lastStartFailureLaunchId := some launchId
    retryAfterMs := none }
  let retryOnce : Bool := reason ∈ RETRY_ONCE_SPAWN_FAILURE_REASONS
  let block : Bool := reason ∈ NON_RETRYABLE_SPAWN_FAILURE_REASONS ||
    retryOnce && 0 < current.startFailureCount && current.lastStartFailureReason = some reason ||
    rules.failureThreshold ≤ count
  if block then
    ({ counted with
      blocked := true
      blockedAtMs := some nowMs
      lastLaunchId := some launchId
      needsActionReason := some reason
      blockedByLaunchId := some launchId
      catchupOwed := true }, .blocked)
  else if retryOnce then
    ({ counted with
      retryAfterMs :=
        some (nowMs + rules.retryOnceDelayMs.getD SPAWN_FAILURE_RETRY_ONCE_DELAY_MS)
      catchupOwed := true }, .retry_scheduled)
  else (counted, .counted)

def applyWakeCrashLoopStartFailure (launchId : Option JsString) (reason : JsString)
    (nowMs : Int) : WakeCrashLoopEpisodeState × WakeCrashLoopStartFailureOutcome :=
  if current.blocked then (current, .ignored)
  else
    match launchId with
    | none => (current, .ignored)
    | some launchId =>
        if current.lastStartLaunchId ≠ some launchId then (current, .ignored)
        else if current.startFailureOwnedLaunchId = some launchId then
          (current, .owned_by_terminal_breaker)
        else if current.lastStartFailureLaunchId = some launchId then (current, .ignored)
        else current.countFailure rules launchId reason nowMs

def withdrawsFailure (launchId : JsString) : Bool :=
  current.lastStartLaunchId = some launchId && current.lastStartFailureLaunchId = some launchId

def applyWakeCrashLoopStartFailureOwned (launchId : JsString) : WakeCrashLoopEpisodeState :=
  if current.lastStartLaunchId ≠ some launchId then current
  else
    let state := { current with startFailureOwnedLaunchId := some launchId }
    if current.lastStartFailureLaunchId ≠ some launchId then state
    else
      let count := current.startFailureCount - 1
      let withdrawn := { state with
        startFailureCount := count
        lastStartFailureLaunchId := none
        lastStartFailureReason := if count = 0 then none else state.lastStartFailureReason
        retryAfterMs := none }
      if current.blocked && current.blockedByLaunchId = some launchId then
        { withdrawn with
          blocked := false
          blockedAtMs := none
          needsActionReason := none
          blockedByLaunchId := none }
      else withdrawn

def applyWakeCrashLoopStartSucceeded (launchId : JsString) : WakeCrashLoopEpisodeState :=
  if current.lastStartLaunchId ≠ some launchId || !current.hasStartFailureStreak then current
  else
    { current with
      startFailureCount := 0
      lastStartFailureReason := none
      lastStartFailureLaunchId := none
      retryAfterMs := none }

end WakeCrashLoopEpisodeState

inductive WakeCrashLoopAutomaticWakeHold where
  | blocked (reason : Option JsString)
  | retry_pending (retryAfterMs : Int)
  deriving DecidableEq

def wakeCrashLoopAutomaticWakeHold (state : WakeCrashLoopEpisodeState) (nowMs : Int) :
    Option WakeCrashLoopAutomaticWakeHold :=
  if state.blocked then some (.blocked state.needsActionReason)
  else (state.retryAfterMs.filter (nowMs < ·)).map .retry_pending

/-! ## The breaker's operations -/

/-- Every operation is one transition of the record, since its compare-and-set is retried. -/
inductive WakeOperation where
  | recordStart (launchId : Option JsString) (nowMs : Int) (human : Bool)
  | rollbackStart (token : Nat)
  | recordExit (exit : WakeCrashLoopExit) (nowMs : Int)
  | recordStartFailure (launchId : Option JsString) (reason : JsString) (nowMs : Int)
  | recordStartSucceeded (launchId : JsString)
  | startFailureOwned (launchId : JsString)
  | recordManualStop
  | liftForConfigChange
  | markCatchupCarried (launchId : JsString)
  | confirmCatchupDelivered (launchId : JsString)
  deriving DecidableEq

structure WakeSystem where
  record : WakeCrashLoopEpisodeState
  tokens : List WakeCrashLoopStartRecord

namespace WakeCrashLoopEpisodeState

variable (state : WakeCrashLoopEpisodeState)

def markCatchupCarried (launchId : JsString) : WakeCrashLoopEpisodeState :=
  if state.catchupOwed && state.lastStartLaunchId = some launchId then
    { state with catchupCarriedLaunchId := some launchId }
  else state

def confirmCatchupDelivered (launchId : JsString) : WakeCrashLoopEpisodeState :=
  if state.catchupOwed && state.catchupCarriedLaunchId = some launchId then
    { state with catchupOwed := false, catchupCarriedLaunchId := none }
  else state

def isSameStart (record : WakeCrashLoopStartRecord) : Bool :=
  state.lastStartAtMs = some record.nowMs && state.lastStartLaunchId = record.launchId &&
    !state.lastStartCounted

def rollbackStart (record : WakeCrashLoopStartRecord) : WakeCrashLoopEpisodeState :=
  if state.isSameStart record then record.previous else state

def liftForConfigChange : WakeCrashLoopEpisodeState :=
  if state.blocked || state.hasStartFailureStreak then
    { freshWakeCrashLoopEpisode (state.episode + 1) with catchupOwed := state.catchupOwed }
  else { state with lastStartLaunchId := none }

end WakeCrashLoopEpisodeState

def wakeStep (rules : WakeCrashLoopRules) (system : WakeSystem) : WakeOperation → WakeSystem
  | .recordStart launchId nowMs human =>
      { record := system.record.applyWakeCrashLoopStart rules launchId nowMs human
        tokens := system.tokens ++ [⟨launchId, nowMs, system.record⟩] }
  | .rollbackStart token =>
      { system with record := system.tokens[token]?.elim system.record system.record.rollbackStart }
  | .recordExit exit nowMs =>
      { system with record := system.record.applyWakeCrashLoopExit rules exit nowMs }
  | .recordStartFailure launchId reason nowMs =>
      { system with
        record := (system.record.applyWakeCrashLoopStartFailure rules launchId reason nowMs).1 }
  | .recordStartSucceeded launchId =>
      { system with record := system.record.applyWakeCrashLoopStartSucceeded launchId }
  | .startFailureOwned launchId =>
      { system with record := system.record.applyWakeCrashLoopStartFailureOwned launchId }
  | .recordManualStop => { system with record := system.record.applyWakeCrashLoopManualStop }
  | .liftForConfigChange => { system with record := system.record.liftForConfigChange }
  | .markCatchupCarried launchId =>
      { system with record := system.record.markCatchupCarried launchId }
  | .confirmCatchupDelivered launchId =>
      { system with record := system.record.confirmCatchupDelivered launchId }

def freshWakeSystem (episode : Nat) : WakeSystem := ⟨freshWakeCrashLoopEpisode episode, []⟩

/-! ## What each transition can do -/

namespace WakeCrashLoopEpisodeState

variable {rules : WakeCrashLoopRules} {current : WakeCrashLoopEpisodeState}

/-- A start keeps the counts, up to a window survived, or a person opens a new episode. -/
theorem applyWakeCrashLoopStart_cases (launchId : Option JsString) (nowMs : Int) (human : Bool) :
    let next := current.applyWakeCrashLoopStart rules launchId nowMs human
    next.catchupOwed = current.catchupOwed ∧ next.lastStartCounted = false ∧
      next.catchupCarriedLaunchId = none ∧
      (human = true ∧ next.blocked = false ∧ next.startFailureCount = 0 ∨
        next.blocked = current.blocked ∧ next.startFailureCount = current.startFailureCount ∧
          (next.earlyExitCount = current.earlyExitCount ∨
            current.lastStartCounted = false ∧ next.earlyExitCount = 0)) := by
  simp only [applyWakeCrashLoopStart]
  split
  · next hopen =>
      rw [Bool.and_eq_true] at hopen
      simp [hopen.1, freshWakeCrashLoopEpisode]
  · split
    · next hsurvived =>
        have hcounted : current.lastStartCounted = false := by
          rw [survivedWindow] at hsurvived
          cases hstart : current.lastStartAtMs <;> simp_all
        simp [hcounted]
    · simp

theorem applyWakeCrashLoopExit_cases (exit : WakeCrashLoopExit) (nowMs : Int) :
    let next := current.applyWakeCrashLoopExit rules exit nowMs
    let rejected := current.wakeCrashLoopExitRejectReason rules exit nowMs
    next = current ∧ rejected.isNone = false ∨
      current.blocked = false ∧ rejected.isNone = true ∧ next.lastStartCounted = true ∧
        next.catchupOwed = current.catchupOwed ∧
        next.catchupCarriedLaunchId = current.catchupCarriedLaunchId ∧
        next.startFailureCount = current.startFailureCount ∧
        next.earlyExitCount = current.earlyExitCount + 1 ∧
        (next.blocked = false → next.earlyExitCount < rules.threshold) := by
  simp only [applyWakeCrashLoopExit]
  split
  · next hrejected => exact .inl ⟨rfl, by simpa using hrejected⟩
  · next hcounts =>
      have hopen : current.blocked = false := by
        by_contra hblocked
        refine hcounts ?_
        simp only [wakeCrashLoopExitRejectReason]
        repeat' split
        all_goals simp_all
      refine .inr ⟨hopen, by simpa using hcounts, ?_⟩
      simp only [countExit]
      split
      · exact ⟨rfl, rfl, rfl, rfl, rfl, nofun⟩
      · next hbelow => exact ⟨rfl, rfl, rfl, rfl, rfl, fun _ => Nat.lt_of_not_le hbelow⟩

theorem applyWakeCrashLoopStartFailure_cases (launchId : Option JsString) (reason : JsString)
    (nowMs : Int) :
    let next := current.applyWakeCrashLoopStartFailure rules launchId reason nowMs
    next.1 = current ∧ (next.2 = .ignored ∨ next.2 = .owned_by_terminal_breaker) ∨
      current.blocked = false ∧ (next.2 ≠ .ignored ∧ next.2 ≠ .owned_by_terminal_breaker) ∧
        next.1.lastStartCounted = current.lastStartCounted ∧
        (current.catchupOwed = true → next.1.catchupOwed = true) ∧
        next.1.catchupCarriedLaunchId = current.catchupCarriedLaunchId ∧
        next.1.earlyExitCount = current.earlyExitCount ∧
        next.1.startFailureCount = current.startFailureCount + 1 ∧
        (next.1.blocked = false → next.1.startFailureCount < rules.failureThreshold) := by
  simp only [applyWakeCrashLoopStartFailure]
  split
  · exact .inl ⟨rfl, .inl rfl⟩
  · next hopen =>
      split
      · exact .inl ⟨rfl, .inl rfl⟩
      · split
        · exact .inl ⟨rfl, .inl rfl⟩
        · split
          · exact .inl ⟨rfl, .inr rfl⟩
          · split
            · exact .inl ⟨rfl, .inl rfl⟩
            · refine .inr ⟨Bool.eq_false_of_not_eq_true hopen, ?_⟩
              simp only [countFailure]
              split
              · exact ⟨⟨nofun, nofun⟩, rfl, fun _ => rfl, rfl, rfl, rfl, nofun⟩
              · next hbelow =>
                  have hlt : current.startFailureCount + 1 < rules.failureThreshold := by
                    simp only [Bool.or_eq_true, decide_eq_true_eq, not_or] at hbelow
                    omega
                  split
                  · exact ⟨⟨nofun, nofun⟩, rfl, fun _ => rfl, rfl, rfl, rfl, fun _ => hlt⟩
                  · exact ⟨⟨nofun, nofun⟩, rfl, id, rfl, rfl, rfl, fun _ => hlt⟩

/-- An owner withdraws no more than the launch's own failure and its own block. -/
theorem applyWakeCrashLoopStartFailureOwned_cases (launchId : JsString) :
    let next := current.applyWakeCrashLoopStartFailureOwned launchId
    next.lastStartCounted = current.lastStartCounted ∧ next.catchupOwed = current.catchupOwed ∧
      next.catchupCarriedLaunchId = current.catchupCarriedLaunchId ∧
      next.earlyExitCount = current.earlyExitCount ∧
      next.startFailureCount ≤ current.startFailureCount ∧
      (next.blocked = current.blocked ∨
        next.blocked = false ∧ current.blockedByLaunchId = some launchId) ∧
      (current.withdrawsFailure launchId = false →
        next.startFailureCount = current.startFailureCount ∧ next.blocked = current.blocked) := by
  simp only [applyWakeCrashLoopStartFailureOwned, withdrawsFailure]
  split
  · exact ⟨rfl, rfl, rfl, rfl, le_rfl, .inl rfl, fun _ => ⟨rfl, rfl⟩⟩
  · split
    · exact ⟨rfl, rfl, rfl, rfl, le_rfl, .inl rfl, fun _ => ⟨rfl, rfl⟩⟩
    · split
      · next hblocked =>
          rw [Bool.and_eq_true, decide_eq_true_eq] at hblocked
          exact ⟨rfl, rfl, rfl, rfl, Nat.sub_le _ _, .inr ⟨rfl, hblocked.2⟩, by simp_all⟩
      · exact ⟨rfl, rfl, rfl, rfl, Nat.sub_le _ _, .inl rfl, by simp_all⟩

theorem applyWakeCrashLoopStartSucceeded_cases (launchId : JsString) :
    let next := current.applyWakeCrashLoopStartSucceeded launchId
    next.lastStartCounted = current.lastStartCounted ∧ next.blocked = current.blocked ∧
      next.catchupOwed = current.catchupOwed ∧
      next.catchupCarriedLaunchId = current.catchupCarriedLaunchId ∧
      next.startFailureCount ≤ current.startFailureCount := by
  simp only [applyWakeCrashLoopStartSucceeded]
  split
  · exact ⟨rfl, rfl, rfl, rfl, le_rfl⟩
  · exact ⟨rfl, rfl, rfl, rfl, Nat.zero_le _⟩

end WakeCrashLoopEpisodeState

end Raft.WakeBreaker
