import Mathlib.Data.List.Infix
import Mathlib.Order.Basic

/-!
# Guarded runs of a deterministic step function

A run feeds a list of inputs to a step function.  `Admitted` says that every
input satisfies a guard in the state that input meets, so a guard may mention
both.  The rules below carry an invariant, or a preorder between consecutive
states, from one step to a whole run and to each of its prefixes.
-/

namespace Raft.Foundation

variable {σ ι : Type*}

def run (step : σ → ι → σ) (state : σ) (inputs : List ι) : σ :=
  inputs.foldl step state

@[simp] theorem run_nil (step : σ → ι → σ) (state : σ) : run step state [] = state := rfl

@[simp] theorem run_cons (step : σ → ι → σ) (state : σ) (input : ι) (inputs : List ι) :
    run step state (input :: inputs) = run step (step state input) inputs := rfl

theorem run_append (step : σ → ι → σ) (state : σ) (first second : List ι) :
    run step state (first ++ second) = run step (run step state first) second :=
  List.foldl_append

theorem run_concat (step : σ → ι → σ) (state : σ) (inputs : List ι) (input : ι) :
    run step state (inputs ++ [input]) = step (run step state inputs) input := by
  rw [run_append, run_cons, run_nil]

def Admitted (step : σ → ι → σ) (guard : σ → ι → Prop) : σ → List ι → Prop
  | _, [] => True
  | state, input :: inputs =>
      guard state input ∧ Admitted step guard (step state input) inputs

instance Admitted.decidable (step : σ → ι → σ) (guard : σ → ι → Prop)
    [∀ state input, Decidable (guard state input)] :
    ∀ state inputs, Decidable (Admitted step guard state inputs)
  | _, [] => isTrue trivial
  | state, input :: inputs =>
      have := Admitted.decidable step guard (step state input) inputs
      inferInstanceAs (Decidable (guard state input ∧
        Admitted step guard (step state input) inputs))

variable {step : σ → ι → σ} {guard : σ → ι → Prop}

theorem admitted_append {state : σ} {first second : List ι} :
    Admitted step guard state (first ++ second) ↔
      Admitted step guard state first ∧
        Admitted step guard (run step state first) second := by
  induction first generalizing state with
  | nil => simp [Admitted]
  | cons input first ih => simp [Admitted, ih, and_assoc]

theorem admitted_concat {state : σ} {inputs : List ι} {input : ι} :
    Admitted step guard state (inputs ++ [input]) ↔
      Admitted step guard state inputs ∧ guard (run step state inputs) input := by
  simp [admitted_append, Admitted]

theorem admitted_of_forall {state : σ} {inputs : List ι}
    (h : ∀ state, ∀ input ∈ inputs, guard state input) :
    Admitted step guard state inputs := by
  induction inputs generalizing state with
  | nil => trivial
  | cons input inputs ih =>
      exact ⟨h _ _ List.mem_cons_self,
        ih fun state input hmem => h state input (List.mem_cons_of_mem _ hmem)⟩

theorem Admitted.of_initial {state : σ} {inputs before : List ι}
    (hrun : Admitted step guard state inputs) (hstart : before <+: inputs) :
    Admitted step guard state before := by
  obtain ⟨rest, rfl⟩ := hstart
  exact (admitted_append.mp hrun).1

theorem admitted_iff_forall_step {state : σ} {inputs : List ι} :
    Admitted step guard state inputs ↔
      ∀ before next, before ++ [next] <+: inputs → guard (run step state before) next := by
  constructor
  · intro hrun before next hstart
    exact (admitted_concat.mp (hrun.of_initial hstart)).2
  · intro hall
    induction inputs using List.reverseRecOn with
    | nil => trivial
    | append_singleton inputs last ih =>
        refine admitted_concat.mpr ⟨ih ?_, hall inputs last (List.prefix_refl _)⟩
        exact fun before next hstart =>
          hall before next (hstart.trans (List.prefix_append _ _))

/-- An invariant that every admitted step keeps holds at the end of every admitted run. -/
theorem Admitted.invariant (Inv : σ → Prop) {state : σ} {inputs : List ι}
    (hstep : ∀ state input, Inv state → guard state input → Inv (step state input))
    (hinit : Inv state) (hrun : Admitted step guard state inputs) :
    Inv (run step state inputs) := by
  induction inputs generalizing state with
  | nil => exact hinit
  | cons input inputs ih => exact ih (hstep _ _ hinit hrun.1) hrun.2

/-- A property of the steps that, under an invariant, is the guard holds along a run exactly when
the run is admitted. -/
theorem forall_step_iff_admitted (Inv : σ → Prop) (P : σ → ι → Prop) {state : σ} (inputs : List ι)
    (hstep : ∀ state input, Inv state → (P state input ↔ guard state input))
    (hkept : ∀ state input, Inv state → guard state input → Inv (step state input))
    (hinit : Inv state) :
    (∀ before input, before ++ [input] <+: inputs → P (run step state before) input) ↔
      Admitted step guard state inputs := by
  constructor
  · induction inputs using List.reverseRecOn with
    | nil => exact fun _ => trivial
    | append_singleton inputs last ih =>
        intro hall
        have hrun := ih fun before input hstart =>
          hall before input (hstart.trans (List.prefix_append _ _))
        refine admitted_concat.mpr ⟨hrun, (hstep _ _ (hrun.invariant Inv hkept hinit)).mp ?_⟩
        exact hall inputs last (List.prefix_refl _)
  · intro hrun before input hstart
    obtain ⟨hbefore, hguard⟩ := admitted_concat.mp (hrun.of_initial hstart)
    exact (hstep _ _ (hbefore.invariant Inv hkept hinit)).mpr hguard

theorem run_invariant (Inv : σ → Prop) {state : σ} (inputs : List ι)
    (hstep : ∀ state input, Inv state → Inv (step state input)) (hinit : Inv state) :
    Inv (run step state inputs) := by
  have hrun : Admitted step (fun _ _ => True) state inputs :=
    admitted_of_forall fun _ _ _ => trivial
  exact hrun.invariant Inv (fun state input h _ => hstep state input h) hinit

/-- A measure that grows by one with the inputs of a kind counts them. -/
theorem run_counter (measure : σ → Nat) (counted : ι → Bool)
    (hstep : ∀ state input, measure (step state input) =
      measure state + if counted input then 1 else 0)
    (state : σ) (inputs : List ι) :
    measure (run step state inputs) = measure state + inputs.countP counted := by
  induction inputs generalizing state with
  | nil => rfl
  | cons input inputs ih =>
      rw [run_cons, ih, hstep, List.countP_cons]
      omega

theorem Admitted.chain (Inv : σ → Prop) (R : σ → σ → Prop) {state : σ} {inputs : List ι}
    (hrefl : ∀ state, R state state)
    (htrans : ∀ {first second third}, R first second → R second third → R first third)
    (hstep : ∀ state input, Inv state → guard state input →
      Inv (step state input) ∧ R state (step state input))
    (hinit : Inv state) (hrun : Admitted step guard state inputs) :
    R state (run step state inputs) := by
  induction inputs generalizing state with
  | nil => exact hrefl state
  | cons input inputs ih =>
      obtain ⟨hinv, hrel⟩ := hstep state input hinit hrun.1
      exact htrans hrel (ih hinv hrun.2)

/-! ## Ghost state -/

variable {γ : Type*}

/-- The step function paired with a ghost that watches it and never feeds back. -/
def instrument (step : σ → ι → σ) (observe : σ → γ → ι → γ) (state : σ × γ) (input : ι) : σ × γ :=
  (step state.1 input, observe state.1 state.2 input)

theorem run_instrument_fst (observe : σ → γ → ι → γ) (state : σ × γ) (inputs : List ι) :
    (run (instrument step observe) state inputs).1 = run step state.1 inputs := by
  induction inputs generalizing state with
  | nil => rfl
  | cons input inputs ih => rw [run_cons, run_cons, ih, instrument]

theorem admitted_instrument {observe : σ → γ → ι → γ} {state : σ × γ} {inputs : List ι} :
    Admitted (instrument step observe) (fun state => guard state.1) state inputs ↔
      Admitted step guard state.1 inputs := by
  induction inputs generalizing state with
  | nil => exact Iff.rfl
  | cons input inputs ih => exact and_congr_right fun _ => ih

end Raft.Foundation
