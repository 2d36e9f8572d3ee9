import Raft.Lifecycle.Arbitration

/-!
# Liveness is observed

What signals without observed authority can do to a run: freshness comes from
observed signals of the current generation only, the projection changes without
them in two named ways, and noise can be left out except where a stale launch
resolves the Starting affordance.
-/

namespace Raft.Lifecycle

open Raft.Foundation

variable {τ : Type} [LinearOrder τ]

/-! ## Freshness -/

section Freshness

variable {state : LifecycleArbitrationState τ} {signal : LifecycleArbitrationSignal τ}

theorem step_lastObservedAtMs (state : LifecycleArbitrationState τ)
    (signal : LifecycleArbitrationSignal τ) :
    (arbitrationStep state signal).lastObservedAtMs = state.lastObservedAtMs ∨
      (isObservedAuthority signal.observationClass = true ∧
        staleGeneration state signal = false ∧
        state.lastObservedAtMs ≤ signal.atMs ∧
        (arbitrationStep state signal).lastObservedAtMs = signal.atMs) := by
  cases hstale : staleGeneration state signal with
  | true =>
      rw [step_of_stale hstale]
      split <;> exact Or.inl rfl
  | false =>
      cases hobserved : isObservedAuthority signal.observationClass with
      | true =>
          obtain ⟨kept, hkept, hsource, -, hheld⟩ :=
            offer_spec observationRank (some state.observation) signal.observation
          rw [← step_of_observed hstale hobserved] at hkept
          cases hkept
          rcases hsource with hstate | hsignal
          · exact Or.inl (congrArg Prod.fst (Option.some.inj hstate)).symm
          · have htime : signal.atMs = (arbitrationStep state signal).lastObservedAtMs :=
              congrArg Prod.fst hsignal
            have hle := time_le_of_rank_le (hheld _ rfl)
            exact Or.inr ⟨rfl, rfl, hle.trans htime.ge, htime.symm⟩
      | false =>
          left
          simp [arbitrationStep, foldLifecycleArbitration, hobserved]

/-- Freshness never moves back, and where it moves an observation of the generation says so. -/
structure FreshnessObserved (signals : List (LifecycleArbitrationSignal τ))
    (state final : LifecycleArbitrationState τ) : Prop where
  monotone : state.lastObservedAtMs ≤ final.lastObservedAtMs
  source : final.lastObservedAtMs = state.lastObservedAtMs ∨
    ∃ signal ∈ signals, isObservedAuthority signal.observationClass = true ∧
      staleGeneration state signal = false ∧ signal.atMs = final.lastObservedAtMs

theorem freshnessObserved_run (state : LifecycleArbitrationState τ)
    (signals : List (LifecycleArbitrationSignal τ)) :
    FreshnessObserved signals state (run arbitrationStep state signals) := by
  induction signals generalizing state with
  | nil => exact ⟨le_refl _, Or.inl rfl⟩
  | cons signal signals ih =>
      obtain ⟨hmono, hsource⟩ := ih (arbitrationStep state signal)
      have hlater : (∃ other ∈ signals, isObservedAuthority other.observationClass = true ∧
            staleGeneration (arbitrationStep state signal) other = false ∧
            other.atMs = (run arbitrationStep state (signal :: signals)).lastObservedAtMs) →
          ∃ other ∈ signal :: signals, isObservedAuthority other.observationClass = true ∧
            staleGeneration state other = false ∧
            other.atMs = (run arbitrationStep state (signal :: signals)).lastObservedAtMs := by
        rintro ⟨other, hmem, hclass, hfresh, htime⟩
        exact ⟨other, List.mem_cons_of_mem _ hmem, hclass,
          (staleGeneration_congr rfl).symm.trans hfresh, htime⟩
      rcases step_lastObservedAtMs state signal with hsame | ⟨hclass, hfresh, hle, htime⟩
      · exact ⟨hsame ▸ hmono, hsource.imp (·.trans hsame) hlater⟩
      · refine ⟨hle.trans (htime ▸ hmono), Or.inr ?_⟩
        rcases hsource with hsame | hfound
        · exact ⟨signal, List.mem_cons_self, hclass, hfresh, (hsame.trans htime).symm⟩
        · exact hlater hfound

end Freshness

/-! ## The projection without authority -/

section Projection

variable {state : LifecycleArbitrationState τ} {signal : LifecycleArbitrationSignal τ}

theorem step_projection_of_noise
    (h : isNoise signal.observationClass = true ∨ staleGeneration state signal = true) :
    (arbitrationStep state signal).projection = state.projection ∨
      ((arbitrationStep state signal).projection = .unknown ∧ signal.projection = .unknown ∧
        staleGeneration state signal = false) ∨
      ((arbitrationStep state signal).projection = .idle ∧
        state.startingAffordance = some true ∧ staleGeneration state signal = true) := by
  cases hstale : staleGeneration state signal with
  | true =>
      rw [step_of_stale hstale]
      split
      · exact Or.inr (Or.inr ⟨rfl, ‹_›, rfl⟩)
      · exact Or.inl rfl
  | false =>
      have hnoise := h.resolve_right (by simp [hstale])
      rw [step_of_noise hstale hnoise]
      split
      · exact Or.inr (Or.inl ⟨rfl, ‹_›, rfl⟩)
      · exact Or.inl rfl

end Projection

/-! ## Leaving noise out -/

section Noise

def isIdleNoise (signal : LifecycleArbitrationSignal τ) : Bool :=
  isNoise signal.observationClass && signal.projection ≠ .unknown

/-- The stale launch that resolves the Starting affordance. -/
def resolvesStarting (state : LifecycleArbitrationState τ)
    (signal : LifecycleArbitrationSignal τ) : Bool :=
  staleGeneration state signal && state.startingAffordance = some true

/-- The sequence without its idle noise; a signal that resolves the affordance stays. -/
def withoutNoise (state : LifecycleArbitrationState τ) :
    List (LifecycleArbitrationSignal τ) → List (LifecycleArbitrationSignal τ)
  | [] => []
  | signal :: signals =>
      let rest := withoutNoise (arbitrationStep state signal) signals
      if isIdleNoise signal && !resolvesStarting state signal then rest else signal :: rest

theorem step_of_idleNoise {state : LifecycleArbitrationState τ}
    {signal : LifecycleArbitrationSignal τ}
    (h : (isIdleNoise signal && !resolvesStarting state signal) = true) :
    arbitrationStep state signal = state := by
  simp only [isIdleNoise, resolvesStarting, Bool.and_eq_true, Bool.not_eq_true',
    decide_eq_true_eq] at h
  obtain ⟨⟨hnoise, hprojection⟩, hresolves⟩ := h
  cases hstale : staleGeneration state signal with
  | true =>
      rw [step_of_stale hstale, if_neg (by simpa [hstale] using hresolves)]
  | false => rw [step_of_noise hstale hnoise, if_neg hprojection]

theorem run_withoutNoise (state : LifecycleArbitrationState τ)
    (signals : List (LifecycleArbitrationSignal τ)) :
    run arbitrationStep state (withoutNoise state signals) =
      run arbitrationStep state signals := by
  induction signals generalizing state with
  | nil => rfl
  | cons signal signals ih =>
      have hrest := ih (arbitrationStep state signal)
      simp only [withoutNoise]
      split
      · rename_i hnoise
        rw [run_cons, ← hrest, step_of_idleNoise hnoise]
      · rw [run_cons, run_cons, hrest]

end Noise

/-- Freshness is observed, noise and stale launches change the projection in two named ways
only, and leaving out the noise that resolves no Starting affordance changes nothing. -/
theorem liveness_observed (state : LifecycleArbitrationState τ)
    (signals : List (LifecycleArbitrationSignal τ)) :
    (∀ first second, first ++ second = signals →
      (run arbitrationStep state first).lastObservedAtMs ≤
        (run arbitrationStep state signals).lastObservedAtMs) ∧
    ((run arbitrationStep state signals).lastObservedAtMs = state.lastObservedAtMs ∨
      ∃ signal ∈ signals, isObservedAuthority signal.observationClass = true ∧
        staleGeneration state signal = false ∧
        signal.atMs = (run arbitrationStep state signals).lastObservedAtMs) ∧
    (∀ before signal, before ++ [signal] <+: signals →
      isNoise signal.observationClass = true ∨ staleGeneration state signal = true →
      (run arbitrationStep state (before ++ [signal])).projection =
          (run arbitrationStep state before).projection ∨
        ((run arbitrationStep state (before ++ [signal])).projection = .unknown ∧
          signal.projection = .unknown ∧ staleGeneration state signal = false) ∨
        ((run arbitrationStep state (before ++ [signal])).projection = .idle ∧
          (run arbitrationStep state before).startingAffordance = some true ∧
          staleGeneration state signal = true)) ∧
    run arbitrationStep state (withoutNoise state signals) = run arbitrationStep state signals := by
  refine ⟨?_, (freshnessObserved_run state signals).source, ?_, run_withoutNoise state signals⟩
  · rintro first second rfl
    rw [run_append]
    exact (freshnessObserved_run _ second).monotone
  · intro before signal _ hnoise
    have hgeneration : (run arbitrationStep state before).currentLaunchGeneration =
        state.currentLaunchGeneration :=
      run_invariant (fun next : LifecycleArbitrationState τ =>
        next.currentLaunchGeneration = state.currentLaunchGeneration) before (fun _ _ h => h) rfl
    rw [run_concat, ← staleGeneration_congr hgeneration]
    exact step_projection_of_noise
      (hnoise.imp_right (staleGeneration_congr hgeneration).trans)

def startingAgent : LifecycleArbitrationState Nat where
  currentLaunchGeneration := some (js "g1")
  lastObservedAtMs := 5
  projection := .working
  startingAffordance := some true

/-- A synthetic readiness signal of an older launch clears the spinner of the current one. -/
theorem stale_noise_resolves_starting :
    let noise : LifecycleArbitrationSignal Nat := ⟨9, some (js "g0"), .synthetic, .online⟩
    isIdleNoise noise = true ∧
      run arbitrationStep startingAgent [noise] ≠
        run arbitrationStep startingAgent ([noise].filter fun signal => !isIdleNoise signal) := by
  decide

end Raft.Lifecycle
