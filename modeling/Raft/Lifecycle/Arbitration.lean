import Mathlib.Data.Prod.Lex
import Raft.Foundation.JsString
import Raft.Foundation.MaxRegister
import Raft.Foundation.Run

/-!
# Lifecycle arbitration

The kernel of the agent lifecycle reducer: a verdict on one signal, and the
mechanical fold of the verdict into the arbitration state.  Timestamps are
drawn from any linear order.  On observed signals of the current generation
the fold is a register for the lexicographic maximum of timestamp and authority
priority.
-/

namespace Raft.Lifecycle

open Raft.Foundation

inductive LifecycleObservationClass where
  | observed
  | observedTurnActive
  | replayed
  | synthetic
  | diagnostic
  | control
  deriving DecidableEq

inductive LifecycleCanonicalProjection where
  | unknown
  | offline
  | online
  | idle
  | working
  | thinking
  | stopping
  | error
  deriving DecidableEq

namespace LifecycleCanonicalProjection

def priority : LifecycleCanonicalProjection → Nat
  | unknown => 0
  | offline => 1
  | online => 2
  | idle => 3
  | working => 4
  | thinking => 5
  | stopping => 6
  | error => 7

theorem priority_injective : Function.Injective priority := by
  intro first second h
  cases first <;> cases second <;> first | rfl | cases h

end LifecycleCanonicalProjection

/-- A missing generation is `none`, whether the field is absent or null. -/
structure LifecycleArbitrationState (τ : Type) where
  currentLaunchGeneration : Option JsString
  lastObservedAtMs : τ
  projection : LifecycleCanonicalProjection
  startingAffordance : Option Bool
  deriving DecidableEq

structure LifecycleArbitrationSignal (τ : Type) where
  atMs : τ
  launchGeneration : Option JsString
  observationClass : LifecycleObservationClass
  projection : LifecycleCanonicalProjection

inductive ReplaceReason where
  | freshObservedSameGeneration
  | controlCommandAuthority
  deriving DecidableEq

inductive PreserveReason where
  | diagnosticNoAuthority
  | replayedNoAuthority
  | staleObserved
  | staleGeneration
  | syntheticNoAuthority
  deriving DecidableEq

/-- The reason of the other three actions is fixed by the action. -/
inductive LifecycleArbitrationVerdict where
  | replace (freshnessAdvanced : Bool) (projection : LifecycleCanonicalProjection)
      (reason : ReplaceReason)
  | arbitrate (freshnessAdvanced : Bool) (projection : LifecycleCanonicalProjection)
  | degradeUnknown
  | preserve (projection : LifecycleCanonicalProjection) (reason : PreserveReason)
  | resolveStarting
  deriving DecidableEq

namespace LifecycleArbitrationVerdict

def projection : LifecycleArbitrationVerdict → LifecycleCanonicalProjection
  | replace _ projection _ => projection
  | arbitrate _ projection => projection
  | degradeUnknown => .unknown
  | preserve projection _ => projection
  | resolveStarting => .idle

def isAdmitted : LifecycleArbitrationVerdict → Bool
  | replace _ _ _ | arbitrate _ _ => true
  | degradeUnknown | preserve _ _ | resolveStarting => false

end LifecycleArbitrationVerdict

variable {τ : Type} [LinearOrder τ]

def staleGeneration (state : LifecycleArbitrationState τ) (signal : LifecycleArbitrationSignal τ) :
    Bool :=
  match signal.launchGeneration, state.currentLaunchGeneration with
  | some launched, some current => launched ≠ current
  | _, _ => false

def isObservedAuthority : LifecycleObservationClass → Bool
  | .observed | .observedTurnActive => true
  | .replayed | .synthetic | .diagnostic | .control => false

def isLive : LifecycleCanonicalProjection → Bool
  | .working | .thinking => true
  | .unknown | .offline | .online | .idle | .stopping | .error => false

def noAuthority : LifecycleObservationClass → PreserveReason
  | .synthetic => .syntheticNoAuthority
  | .replayed => .replayedNoAuthority
  | .observed | .observedTurnActive | .diagnostic | .control => .diagnosticNoAuthority

def arbitrateLifecycleProjection (state : LifecycleArbitrationState τ)
    (signal : LifecycleArbitrationSignal τ) : LifecycleArbitrationVerdict :=
  if staleGeneration state signal then
    if state.startingAffordance = some true then .resolveStarting
    else .preserve state.projection .staleGeneration
  else if signal.observationClass = .control then
    if signal.projection = .unknown then .degradeUnknown
    else .replace false signal.projection .controlCommandAuthority
  else if !isObservedAuthority signal.observationClass then
    if signal.projection = .unknown then .degradeUnknown
    else .preserve state.projection (noAuthority signal.observationClass)
  else if signal.atMs > state.lastObservedAtMs then
    .replace (isLive signal.projection) signal.projection .freshObservedSameGeneration
  else if signal.atMs < state.lastObservedAtMs then .preserve state.projection .staleObserved
  else
    let winner :=
      if signal.projection.priority ≥ state.projection.priority then signal.projection
      else state.projection
    .arbitrate (isLive winner) winner

def foldLifecycleArbitration (state : LifecycleArbitrationState τ)
    (signal : LifecycleArbitrationSignal τ) :
    LifecycleArbitrationState τ × LifecycleArbitrationVerdict :=
  let verdict := arbitrateLifecycleProjection state signal
  let admitted := verdict.isAdmitted
  let observedAdmitted := admitted && isObservedAuthority signal.observationClass
  ({ currentLaunchGeneration := state.currentLaunchGeneration
     lastObservedAtMs :=
       if observedAdmitted then max state.lastObservedAtMs signal.atMs else state.lastObservedAtMs
     projection := verdict.projection
     startingAffordance :=
       if admitted || verdict = .resolveStarting then some false else state.startingAffordance },
    verdict)

def arbitrationStep (state : LifecycleArbitrationState τ) (signal : LifecycleArbitrationSignal τ) :
    LifecycleArbitrationState τ :=
  (foldLifecycleArbitration state signal).1

/-! ## What one signal does -/

section Step

variable {state : LifecycleArbitrationState τ} {signal : LifecycleArbitrationSignal τ}

omit [LinearOrder τ] in
theorem staleGeneration_congr {other : LifecycleArbitrationState τ}
    (h : other.currentLaunchGeneration = state.currentLaunchGeneration) :
    staleGeneration other signal = staleGeneration state signal := by
  rw [staleGeneration, staleGeneration, h]

theorem step_startingAffordance (h : state.startingAffordance ≠ some true) :
    (arbitrationStep state signal).startingAffordance ≠ some true := by
  simp only [arbitrationStep, foldLifecycleArbitration]
  split
  · simp
  · exact h

theorem step_of_stale (hstale : staleGeneration state signal = true) :
    arbitrationStep state signal =
      if state.startingAffordance = some true then
        { state with projection := .idle, startingAffordance := some false }
      else state := by
  by_cases hstarting : state.startingAffordance = some true
  · simp [arbitrationStep, foldLifecycleArbitration, arbitrateLifecycleProjection, hstale,
      hstarting, LifecycleArbitrationVerdict.isAdmitted, LifecycleArbitrationVerdict.projection]
  · simp [arbitrationStep, foldLifecycleArbitration, arbitrateLifecycleProjection, hstale,
      hstarting, LifecycleArbitrationVerdict.isAdmitted, LifecycleArbitrationVerdict.projection]

/-- Synthetic, replayed and diagnostic signals have no authority over the projection. -/
def isNoise : LifecycleObservationClass → Bool
  | .replayed | .synthetic | .diagnostic => true
  | .observed | .observedTurnActive | .control => false

theorem step_of_noise (hfresh : staleGeneration state signal = false)
    (hnoise : isNoise signal.observationClass = true) :
    arbitrationStep state signal =
      if signal.projection = .unknown then { state with projection := .unknown } else state := by
  have hcontrol : signal.observationClass ≠ .control := by
    intro h
    rw [h] at hnoise
    cases hnoise
  have hobserved : isObservedAuthority signal.observationClass = false := by
    cases hclass : signal.observationClass <;> simp_all [isNoise, isObservedAuthority]
  by_cases hunknown : signal.projection = .unknown
  · simp [arbitrationStep, foldLifecycleArbitration, arbitrateLifecycleProjection, hfresh,
      hcontrol, hobserved, hunknown, LifecycleArbitrationVerdict.isAdmitted,
      LifecycleArbitrationVerdict.projection]
  · simp [arbitrationStep, foldLifecycleArbitration, arbitrateLifecycleProjection, hfresh,
      hcontrol, hobserved, hunknown, LifecycleArbitrationVerdict.isAdmitted,
      LifecycleArbitrationVerdict.projection]

end Step

/-! ## Observed signals are offers to a register -/

section Register

def observationRank (observation : τ × LifecycleCanonicalProjection) : τ ×ₗ Nat :=
  toLex (observation.1, observation.2.priority)

def LifecycleArbitrationState.observation (state : LifecycleArbitrationState τ) :
    τ × LifecycleCanonicalProjection :=
  (state.lastObservedAtMs, state.projection)

def LifecycleArbitrationSignal.observation (signal : LifecycleArbitrationSignal τ) :
    τ × LifecycleCanonicalProjection :=
  (signal.atMs, signal.projection)

omit [LinearOrder τ] in
theorem observationRank_injective :
    Function.Injective (observationRank : τ × LifecycleCanonicalProjection → τ ×ₗ Nat) := by
  rintro ⟨firstTime, first⟩ ⟨secondTime, second⟩ h
  obtain ⟨htime, hpriority⟩ := Prod.ext_iff.mp (toLex_inj.mp h)
  exact Prod.ext htime (LifecycleCanonicalProjection.priority_injective hpriority)

theorem observationRank_lt {first second : τ × LifecycleCanonicalProjection} :
    observationRank first < observationRank second ↔
      first.1 < second.1 ∨ first.1 = second.1 ∧ first.2.priority < second.2.priority :=
  Prod.Lex.toLex_lt_toLex

theorem observationRank_le {first second : τ × LifecycleCanonicalProjection} :
    observationRank first ≤ observationRank second ↔
      first.1 < second.1 ∨ first.1 = second.1 ∧ first.2.priority ≤ second.2.priority :=
  Prod.Lex.toLex_le_toLex

variable {state : LifecycleArbitrationState τ} {signal : LifecycleArbitrationSignal τ}

theorem step_of_observed (hfresh : staleGeneration state signal = false)
    (hobserved : isObservedAuthority signal.observationClass = true) :
    some (arbitrationStep state signal).observation =
      offer observationRank (some state.observation) signal.observation := by
  have hcontrol : signal.observationClass ≠ .control := by
    intro h
    rw [h] at hobserved
    cases hobserved
  rcases lt_trichotomy state.lastObservedAtMs signal.atMs with hlt | heq | hgt
  · rw [offer_of_lt _ (observationRank_lt.mpr (Or.inl hlt))]
    simp [arbitrationStep, foldLifecycleArbitration, arbitrateLifecycleProjection, hfresh,
      hcontrol, hobserved, hlt, LifecycleArbitrationVerdict.isAdmitted,
      LifecycleArbitrationVerdict.projection, LifecycleArbitrationState.observation,
      LifecycleArbitrationSignal.observation, hlt.le]
  · by_cases hpriority : state.projection.priority < signal.projection.priority
    · rw [offer_of_lt _ (observationRank_lt.mpr (Or.inr ⟨heq, hpriority⟩))]
      simp [arbitrationStep, foldLifecycleArbitration, arbitrateLifecycleProjection, hfresh,
        hcontrol, hobserved, heq, hpriority.le, LifecycleArbitrationVerdict.isAdmitted,
        LifecycleArbitrationVerdict.projection, LifecycleArbitrationState.observation,
        LifecycleArbitrationSignal.observation]
    · rw [offer_of_le _ (observationRank_le.mpr (Or.inr ⟨heq.symm, not_lt.mp hpriority⟩))]
      have hwinner : (if state.projection.priority ≤ signal.projection.priority then
          signal.projection else state.projection) = state.projection := by
        split
        · exact LifecycleCanonicalProjection.priority_injective
            (le_antisymm (not_lt.mp hpriority) ‹_›)
        · rfl
      simp [arbitrationStep, foldLifecycleArbitration, arbitrateLifecycleProjection, hfresh,
        hcontrol, hobserved, heq, LifecycleArbitrationVerdict.isAdmitted,
        LifecycleArbitrationVerdict.projection, LifecycleArbitrationState.observation, hwinner]
  · rw [offer_of_le _ (observationRank_le.mpr (Or.inl hgt))]
    simp [arbitrationStep, foldLifecycleArbitration, arbitrateLifecycleProjection, hfresh,
      hcontrol, hobserved, hgt, not_lt.mpr hgt.le, LifecycleArbitrationVerdict.isAdmitted,
      LifecycleArbitrationVerdict.projection, LifecycleArbitrationState.observation]

theorem freshObservation_run {state : LifecycleArbitrationState τ}
    (hstarting : state.startingAffordance ≠ some true)
    {signals : List (LifecycleArbitrationSignal τ)}
    (hobserved : ∀ signal ∈ signals, isObservedAuthority signal.observationClass = true) :
    some (run arbitrationStep state signals).observation =
      offerAll observationRank (some state.observation)
        ((signals.filter fun signal => !staleGeneration state signal).map
          LifecycleArbitrationSignal.observation) := by
  induction signals generalizing state with
  | nil => rfl
  | cons signal signals ih =>
      have hrest := ih (@step_startingAffordance _ _ _ signal hstarting)
        fun other hother => hobserved other (List.mem_cons_of_mem _ hother)
      have hstale : ∀ other : LifecycleArbitrationSignal τ,
          staleGeneration (arbitrationStep state signal) other = staleGeneration state other :=
        fun other => staleGeneration_congr rfl
      simp only [hstale] at hrest
      rw [run_cons, hrest]
      cases hcurrent : staleGeneration state signal with
      | true => simp [step_of_stale hcurrent, hstarting, hcurrent]
      | false =>
          rw [step_of_observed hcurrent (hobserved signal List.mem_cons_self)]
          simp [hcurrent, offerAll]

end Register

/-! ## Order independence -/

section OrderIndependence

/-- The lexicographic maximum of what was held and what the current generation observed. -/
structure Arbitrates (state : LifecycleArbitrationState τ)
    (signals : List (LifecycleArbitrationSignal τ)) (final : LifecycleArbitrationState τ) :
    Prop where
  observed_or_held : final.lastObservedAtMs = state.lastObservedAtMs ∨
    ∃ signal ∈ signals, staleGeneration state signal = false ∧
      signal.atMs = final.lastObservedAtMs
  held_le : state.lastObservedAtMs ≤ final.lastObservedAtMs
  observed_le : ∀ signal ∈ signals, staleGeneration state signal = false →
    signal.atMs ≤ final.lastObservedAtMs
  projection_mem :
    (state.lastObservedAtMs = final.lastObservedAtMs ∧ final.projection = state.projection) ∨
      ∃ signal ∈ signals, staleGeneration state signal = false ∧
        signal.atMs = final.lastObservedAtMs ∧ signal.projection = final.projection
  held_priority : state.lastObservedAtMs = final.lastObservedAtMs →
    state.projection.priority ≤ final.projection.priority
  observed_priority : ∀ signal ∈ signals, staleGeneration state signal = false →
    signal.atMs = final.lastObservedAtMs →
    signal.projection.priority ≤ final.projection.priority

theorem priority_le_of_rank_le {first second : τ × LifecycleCanonicalProjection}
    (h : observationRank first ≤ observationRank second) (htime : first.1 = second.1) :
    first.2.priority ≤ second.2.priority := by
  rcases observationRank_le.mp h with hlt | ⟨-, hle⟩
  · exact absurd htime (ne_of_lt hlt)
  · exact hle

theorem time_le_of_rank_le {first second : τ × LifecycleCanonicalProjection}
    (h : observationRank first ≤ observationRank second) : first.1 ≤ second.1 := by
  rcases observationRank_le.mp h with hlt | ⟨heq, -⟩
  · exact hlt.le
  · exact heq.le

theorem arbitrates_run {state : LifecycleArbitrationState τ}
    (hstarting : state.startingAffordance ≠ some true)
    {signals : List (LifecycleArbitrationSignal τ)}
    (hobserved : ∀ signal ∈ signals, isObservedAuthority signal.observationClass = true) :
    Arbitrates state signals (run arbitrationStep state signals) := by
  obtain ⟨hsource, hheld, hall⟩ :=
    offerAll_spec observationRank (freshObservation_run hstarting hobserved).symm
  have hheld := hheld _ rfl
  have hsignal : ∀ signal ∈ signals, staleGeneration state signal = false →
      observationRank signal.observation ≤
        observationRank (run arbitrationStep state signals).observation :=
    fun signal hmem hfresh => hall _ (List.mem_map.mpr
      ⟨signal, List.mem_filter.mpr ⟨hmem, by simp [hfresh]⟩, rfl⟩)
  have hcases : state.observation = (run arbitrationStep state signals).observation ∨
      ∃ signal ∈ signals, staleGeneration state signal = false ∧
        signal.observation = (run arbitrationStep state signals).observation := by
    rcases hsource with hinitial | hmem
    · exact Or.inl (Option.some.inj hinitial)
    · obtain ⟨signal, hsignal, heq⟩ := List.mem_map.mp hmem
      obtain ⟨hmem, hfresh⟩ := List.mem_filter.mp hsignal
      exact Or.inr ⟨signal, hmem, by simpa using hfresh, heq⟩
  refine ⟨?_, time_le_of_rank_le hheld, fun signal hmem hfresh =>
    time_le_of_rank_le (hsignal signal hmem hfresh), ?_, priority_le_of_rank_le hheld,
    fun signal hmem hfresh => priority_le_of_rank_le (hsignal signal hmem hfresh)⟩
  · rcases hcases with hinitial | ⟨signal, hmem, hfresh, heq⟩
    · exact Or.inl (congrArg Prod.fst hinitial).symm
    · exact Or.inr ⟨signal, hmem, hfresh, congrArg Prod.fst heq⟩
  · rcases hcases with hinitial | ⟨signal, hmem, hfresh, heq⟩
    · exact Or.inl ⟨congrArg Prod.fst hinitial, (congrArg Prod.snd hinitial).symm⟩
    · exact Or.inr ⟨signal, hmem, hfresh, congrArg Prod.fst heq, congrArg Prod.snd heq⟩

/-- Every order of arrival of the same observations ends in one projection and one freshness,
the lexicographic maximum of what the state held and what its generation observed. -/
theorem arbitration_order_independent (state : LifecycleArbitrationState τ)
    (hstarting : state.startingAffordance ≠ some true)
    {signals : List (LifecycleArbitrationSignal τ)}
    (hobserved : ∀ signal ∈ signals, isObservedAuthority signal.observationClass = true)
    {reordered : List (LifecycleArbitrationSignal τ)} (hperm : reordered.Perm signals) :
    (run arbitrationStep state reordered).projection =
        (run arbitrationStep state signals).projection ∧
      (run arbitrationStep state reordered).lastObservedAtMs =
        (run arbitrationStep state signals).lastObservedAtMs ∧
      Arbitrates state signals (run arbitrationStep state reordered) := by
  have hreordered : ∀ signal ∈ reordered, isObservedAuthority signal.observationClass = true :=
    fun signal hmem => hobserved signal (hperm.mem_iff.mp hmem)
  have hfirst := freshObservation_run hstarting hreordered
  have hsecond := freshObservation_run hstarting hobserved
  have hsame : offerAll observationRank none (state.observation ::
        (reordered.filter fun signal => !staleGeneration state signal).map
          LifecycleArbitrationSignal.observation) =
      offerAll observationRank none (state.observation ::
        (signals.filter fun signal => !staleGeneration state signal).map
          LifecycleArbitrationSignal.observation) := by
    apply offerAll_congr
    · exact fun observation => (((hperm.filter _).map _).cons _).mem_iff
    · exact fun first _ second _ h => observationRank_injective h
  have heq : (run arbitrationStep state reordered).observation =
      (run arbitrationStep state signals).observation :=
    Option.some.inj (hfirst.trans (hsame.trans hsecond.symm))
  have hprojection := congrArg Prod.snd heq
  have htime := congrArg Prod.fst heq
  refine ⟨hprojection, htime, ?_⟩
  have harbitrates := arbitrates_run hstarting hreordered
  have hmem : ∀ signal, signal ∈ reordered ↔ signal ∈ signals := fun signal => hperm.mem_iff
  constructor
  · simpa only [hmem] using harbitrates.observed_or_held
  · exact harbitrates.held_le
  · exact fun signal hsignal => harbitrates.observed_le signal ((hmem signal).mpr hsignal)
  · simpa only [hmem] using harbitrates.projection_mem
  · exact harbitrates.held_priority
  · exact fun signal hsignal => harbitrates.observed_priority signal ((hmem signal).mpr hsignal)

def idleAt (atMs : Nat) : LifecycleArbitrationState Nat where
  currentLaunchGeneration := some (js "g1")
  lastObservedAtMs := atMs
  projection := .idle
  startingAffordance := none

def observedAt (generation : Option JsString) (atMs : Nat)
    (projection : LifecycleCanonicalProjection) : LifecycleArbitrationSignal Nat :=
  ⟨atMs, generation, .observed, projection⟩

/-- A tie at the last tick, reported in both orders, beside a signal of an older launch. -/
theorem arbitration_order_independent_tie :
    let working := observedAt (some (js "g1")) 7 .working
    let error := observedAt none 7 .error
    let noise := observedAt (some (js "g0")) 9 .offline
    (run arbitrationStep (idleAt 5) [error, noise, working]).projection =
      (run arbitrationStep (idleAt 5) [working, error, noise]).projection :=
  (arbitration_order_independent (idleAt 5) (by decide) (by decide)
    (@List.perm_append_comm _ [_, _] [_])).1

end OrderIndependence

end Raft.Lifecycle
