import Raft.Foundation.Run
import Raft.SlackBridgeDelivery.Contract

/-!
# Runs of one delivery

The worker alternates plans and results.  A plan that lets the provider be
called takes a lease, and a result ends it.  Beside the delivery stand the state
the lease was taken from and whether the last finished attempt was ambiguous.
-/

namespace Raft.SlackBridgeDelivery

open Raft.Foundation

inductive DeliveryStep where
  | plan (context : PlanContext)
  | result (result : SlackBridgeProviderAttemptResult) (now : Option Int)

/-- `ambiguous` says that an attempt ended ambiguous and no attempt has ended since. -/
structure DeliveryRun where
  delivery : SlackBridgeOutboundDeliverySnapshot
  leaseOrigin : Option SlackBridgeOutboundDeliveryState
  ambiguous : Bool

def startRun (delivery : SlackBridgeOutboundDeliverySnapshot) : DeliveryRun :=
  ⟨delivery, none, false⟩

def permitsCall : SlackBridgePartitionWorkPlan → Bool
  | .dispatch => true
  | .reconcile_or_redispatch automaticRedispatchAllowed => automaticRedispatchAllowed
  | .advance_cursor | .blocked _ => false

def leased (delivery : SlackBridgeOutboundDeliverySnapshot) : SlackBridgeOutboundDeliverySnapshot :=
  { delivery with state := .dispatching, nextAttemptAt := none }

def recorded (delivery : SlackBridgeOutboundDeliverySnapshot)
    (transition : SlackBridgeProviderAttemptTransition) : SlackBridgeOutboundDeliverySnapshot :=
  { delivery with
    state := transition.state
    providerAttempts := transition.providerAttempts
    ambiguityBudgetProviderAttempts := transition.ambiguityBudgetProviderAttempts
    dispatchedFailureAttempts := transition.dispatchedFailureAttempts
    firstDispatchedAt := transition.firstDispatchedAt
    nextAttemptAt := transition.nextAttemptAt }

def ambiguousAfter (ambiguous : Bool) : SlackBridgeProviderAttemptResult → Bool
  | .pre_io_lease_reclaimed => ambiguous
  | .outcome_ambiguous => true
  | .accepted _ | .rate_limited _ | .transient_failure _ _ | .deterministic_failure => false

section

variable (dates : DateTexts)

def DeliveryRun.step (state : DeliveryRun) : DeliveryStep → DeliveryRun
  | .plan context =>
      if permitsCall (planSlackBridgePartitionWork dates state.delivery context) then
        { state with delivery := leased state.delivery, leaseOrigin := some state.delivery.state }
      else state
  | .result result now =>
      match applySlackBridgeProviderAttemptResult dates state.delivery result now with
      | .error _ => state
      | .ok transition =>
          ⟨recorded state.delivery transition, none, ambiguousAfter state.ambiguous result⟩

def Aged (delivery : SlackBridgeOutboundDeliverySnapshot) (now : Int) : Prop :=
  ∃ first ∈ parseTimestamp dates delivery.firstDispatchedAt, ageBudgetExhausted first now = true

/-- After an ambiguous outcome nothing is dispatched plainly, and an old delivery not at all. -/
structure Cautious (state : DeliveryRun) (context : PlanContext) : Prop where
  reconciles : state.ambiguous = true →
    planSlackBridgePartitionWork dates state.delivery context ≠ .dispatch
  young : ∀ now ∈ context.now,
    permitsCall (planSlackBridgePartitionWork dates state.delivery context) = true →
      ¬ Aged dates state.delivery now

/-! ## The branches without an age check -/

structure Runnable (delivery : SlackBridgeOutboundDeliverySnapshot) (context : PlanContext) :
    Prop where
  valid : validSnapshot dates delivery = true
  cursor : isNonNegativeInteger context.partitionCursorPosition = true
  head : delivery.partitionPosition = context.partitionCursorPosition + 1
  active : context.runtimeActive = true
  revision : delivery.enqueueRuntimeRevision = context.currentRuntimeRevision

/-- The planner comes to its `queued` branch, or to its `retry_wait` branch when the retry is due,
with calls left. -/
structure Unchecked (delivery : SlackBridgeOutboundDeliverySnapshot) (context : PlanContext)
    (now : Int) : Prop extends Runnable dates delivery context where
  budget : withinBudget delivery = true
  branch : delivery.state = .queued ∨ delivery.state = .retry_wait ∧
    ∃ nextAttemptAt ∈ parseTimestamp dates delivery.nextAttemptAt, nextAttemptAt ≤ now

/--
The steps a run may take: a lease taken from an unknown outcome is not reclaimed before provider
I/O, and no plan reads a delivery of the maximal age in a branch without an age check.
-/
def Heeded (state : DeliveryRun) : DeliveryStep → Prop
  | .plan context => ∀ now ∈ context.now, Aged dates state.delivery now →
      ¬ Unchecked dates state.delivery context now
  | .result result now => result = .pre_io_lease_reclaimed → now.isSome = true →
      state.leaseOrigin ≠ some .outcome_unknown

variable {dates} {delivery : SlackBridgeOutboundDeliverySnapshot} {context : PlanContext}

theorem planRunnable_dispatch {now : Int} :
    planRunnable dates delivery now = .dispatch ↔
      withinBudget delivery = true ∧ (delivery.state = .queued ∨ delivery.state = .retry_wait ∧
        ∃ nextAttemptAt ∈ parseTimestamp dates delivery.nextAttemptAt, nextAttemptAt ≤ now) := by
  unfold planRunnable
  cases hstate : delivery.state with
  | queued => cases withinBudget delivery <;> simp
  | retry_wait =>
      cases parseTimestamp dates delivery.nextAttemptAt with
      | none => simp
      | some nextAttemptAt =>
          cases withinBudget delivery with
          | false => simp
          | true => by_cases hdue : nextAttemptAt ≤ now <;> simp [hdue]
  | _ => simp

theorem planRunnable_permits {now : Int}
    (h : permitsCall (planRunnable dates delivery now) = true) :
    planRunnable dates delivery now = .dispatch ∨
      delivery.state = .outcome_unknown ∧ withinBudget delivery = true ∧
        ageBudgetExhausted (firstDispatchMs dates delivery now) now = false := by
  cases hstate : delivery.state with
  | outcome_unknown => exact .inr ⟨rfl, by simpa [planRunnable, hstate, permitsCall] using h⟩
  | queued =>
      refine .inl (planRunnable_dispatch.mpr ⟨?_, .inl hstate⟩)
      by_contra hbudget
      simp [planRunnable, hstate, hbudget, permitsCall] at h
  | retry_wait =>
      refine .inl ?_
      revert h
      unfold planRunnable
      rw [hstate]
      dsimp only
      split
      · exact fun h => absurd h Bool.false_ne_true
      · split_ifs
        · exact fun h => absurd h Bool.false_ne_true
        · exact fun _ => rfl
        · exact fun h => absurd h Bool.false_ne_true
  | _ => simp [planRunnable, hstate, permitsCall] at h

theorem plan_permits
    (h : permitsCall (planSlackBridgePartitionWork dates delivery context) = true) :
    ∃ now, context.now = some now ∧ Runnable dates delivery context ∧
      planSlackBridgePartitionWork dates delivery context = planRunnable dates delivery now := by
  unfold planSlackBridgePartitionWork at h ⊢
  cases hnow : context.now with
  | none => simp [hnow, permitsCall] at h
  | some now =>
      refine ⟨now, rfl, ?_⟩
      simp only [hnow] at h ⊢
      split_ifs at h ⊢ with hvalid hhead hstate hskip hadvance hterminal hactive hrevision
      all_goals first | exact absurd h Bool.false_ne_true | skip
      simp only [Bool.or_eq_true, Bool.not_eq_true', not_or, Bool.not_eq_false] at hvalid
      exact ⟨⟨hvalid.1, hvalid.2, not_not.mp hhead, by simpa using hactive,
        not_not.mp hrevision⟩, rfl⟩

theorem plan_of_unchecked {now : Int} (hnow : context.now = some now)
    (h : Unchecked dates delivery context now) :
    planSlackBridgePartitionWork dates delivery context = .dispatch := by
  have hdispatch := planRunnable_dispatch.mpr ⟨h.budget, h.branch⟩
  have hstate : delivery.state = .queued ∨ delivery.state = .retry_wait :=
    h.branch.imp_right And.left
  unfold planSlackBridgePartitionWork
  rw [hnow]
  obtain hstate | hstate := hstate <;>
    simp [h.valid, h.cursor, ← h.head, hstate, h.active, h.revision, hdispatch]

theorem plan_dispatch_iff :
    planSlackBridgePartitionWork dates delivery context = .dispatch ↔
      ∃ now, context.now = some now ∧ Unchecked dates delivery context now := by
  constructor
  · intro h
    obtain ⟨now, hnow, hrunnable, heq⟩ := plan_permits (by rw [h]; rfl)
    obtain ⟨hbudget, hbranch⟩ := planRunnable_dispatch.mp (heq.symm.trans h)
    exact ⟨now, hnow, { hrunnable with budget := hbudget, branch := hbranch }⟩
  · rintro ⟨now, hnow, h⟩
    exact plan_of_unchecked hnow h

/-! ## What a run keeps -/

variable (dates) in
/-- An ambiguous outcome shows in the state, or in the lease that was taken from it. -/
structure Remembered (state : DeliveryRun) : Prop where
  unknown : state.delivery.state = .outcome_unknown → state.ambiguous = true
  origin : state.leaseOrigin = some .outcome_unknown →
    state.delivery.state = .dispatching ∧ state.ambiguous = true ∧
      withinBudget state.delivery = true ∧ validSnapshot dates state.delivery = true
  shown : state.ambiguous = true →
    state.delivery.state = .outcome_unknown ∨ state.delivery.state = .dead ∨
      state.delivery.state = .dispatching ∧ state.leaseOrigin = some .outcome_unknown

theorem validSnapshot_leased (h : validSnapshot dates delivery = true) :
    validSnapshot dates (leased delivery) = true := by
  simp only [validSnapshot, leased, Bool.and_eq_true] at h ⊢
  obtain ⟨⟨⟨⟨h, -⟩, hfirst⟩, -⟩, -⟩ := h
  exact ⟨⟨⟨⟨h, rfl⟩, hfirst⟩, rfl⟩, rfl⟩

theorem Remembered.startRun (h : delivery.state = .queued) :
    Remembered dates (startRun delivery) :=
  ⟨fun hunknown => absurd (h.symm.trans hunknown) nofun, nofun, nofun⟩

/-! ## Results -/

section

variable {attempt : ProviderAttempt} {transition : SlackBridgeProviderAttemptTransition}

theorem bind_ok {α β : Type} {first : Except JsString α} {next : α → Except JsString β} {value : β}
    (h : (first >>= next) = .ok value) :
    ∃ middle, first = .ok middle ∧ next middle = .ok value := by
  cases first with
  | error _ => cases h
  | ok middle => exact ⟨middle, rfl, h⟩

theorem rate_limited_state {nowMs : Int} {retryAfterMs : JsNumber}
    (h : endYoungAttempt dates delivery attempt nowMs (.rate_limited retryAfterMs) =
      .ok transition) :
    transition.state = .retry_wait := by
  simp only [endYoungAttempt] at h
  split at h
  · split at h
    · obtain ⟨nextAttemptAt, -, hend⟩ := bind_ok h
      obtain rfl := Except.ok.inj hend
      rfl
    · cases h
  · cases h

theorem transient_failure_state {nowMs : Int} {baseDelayMs jitterUnit : JsNumber}
    (h : endYoungAttempt dates delivery attempt nowMs (.transient_failure baseDelayMs jitterUnit) =
      .ok transition) :
    transition.state = .retry_wait ∨ transition.state = .dead := by
  simp only [endYoungAttempt] at h
  split at h
  · split at h
    · split at h
      · obtain rfl := Except.ok.inj h
        exact .inr rfl
      · obtain ⟨nextAttemptAt, -, hend⟩ := bind_ok h
        obtain rfl := Except.ok.inj hend
        exact .inl rfl
    · cases h
  · cases h

theorem apply_ok {result : SlackBridgeProviderAttemptResult} {now : Option Int}
    (h : applySlackBridgeProviderAttemptResult dates delivery result now = .ok transition) :
    delivery.state = .dispatching ∧ now.isSome = true ∧
      (transition.state = .outcome_unknown → result = .outcome_ambiguous) ∧
      (result = .outcome_ambiguous →
        transition.state = .outcome_unknown ∨ transition.state = .dead) := by
  unfold applySlackBridgeProviderAttemptResult at h
  cases now with
  | none => cases h
  | some nowMs =>
      dsimp only at h
      split at h
      · cases h
      · next hready =>
          have hstate : delivery.state = .dispatching := by
            simp only [Bool.or_eq_true, decide_eq_true_eq, not_or, not_not] at hready
            exact hready.2
          refine ⟨hstate, rfl, ?_⟩
          split at h
          · obtain rfl := Except.ok.inj h
            exact ⟨nofun, nofun⟩
          · obtain ⟨attempt, -, hend⟩ := bind_ok h
            obtain rfl := Except.ok.inj hend
            exact ⟨nofun, nofun⟩
          · next hreclaimed haccepted =>
              obtain ⟨attempt, -, hend⟩ := bind_ok h
              split at hend
              · obtain rfl := Except.ok.inj hend
                exact ⟨nofun, fun _ => .inr rfl⟩
              · cases result with
                | pre_io_lease_reclaimed => exact absurd rfl hreclaimed
                | accepted reconciled => exact absurd rfl (haccepted reconciled)
                | rate_limited retryAfterMs =>
                    have hwait := rate_limited_state hend
                    exact ⟨fun hunknown => absurd (hwait.symm.trans hunknown) nofun, nofun⟩
                | transient_failure baseDelayMs jitterUnit =>
                    refine ⟨fun hunknown => ?_, nofun⟩
                    obtain hwait | hdead := transient_failure_state hend
                    · exact absurd (hwait.symm.trans hunknown) nofun
                    · exact absurd (hdead.symm.trans hunknown) nofun
                | deterministic_failure =>
                    obtain rfl := Except.ok.inj hend
                    exact ⟨nofun, nofun⟩
                | outcome_ambiguous =>
                    obtain rfl := Except.ok.inj hend
                    exact ⟨fun _ => rfl, fun _ => .inl rfl⟩

end

/-! ## Steps -/

theorem Remembered.plan {state : DeliveryRun} (h : Remembered dates state) (context : PlanContext) :
    Remembered dates (state.step dates (.plan context)) := by
  rw [DeliveryRun.step]
  split
  · next hpermits =>
      obtain ⟨now, -, hrunnable, heq⟩ := plan_permits hpermits
      rw [heq] at hpermits
      obtain hdispatch | ⟨hunknown, hbudget, -⟩ := planRunnable_permits hpermits
      · have hstate : state.delivery.state = .queued ∨ state.delivery.state = .retry_wait :=
          (planRunnable_dispatch.mp hdispatch).2.imp_right And.left
        have hclear : state.ambiguous = false := by
          by_contra hambiguous
          obtain hshown | hshown | ⟨hshown, -⟩ := h.shown (by simpa using hambiguous) <;>
            simp [hshown] at hstate
        refine ⟨nofun, fun horigin => ?_, fun hambiguous => ?_⟩
        · have horigin : state.delivery.state = .outcome_unknown := Option.some_inj.mp horigin
          simp [horigin] at hstate
        · exact absurd (hclear.symm.trans hambiguous) Bool.false_ne_true
      · refine ⟨nofun, fun _ => ⟨rfl, h.unknown hunknown, hbudget,
          validSnapshot_leased hrunnable.valid⟩, fun _ => .inr (.inr ⟨rfl, ?_⟩)⟩
        exact congrArg some hunknown
  · exact h

theorem Remembered.result {state : DeliveryRun} (h : Remembered dates state)
    {result : SlackBridgeProviderAttemptResult} {now : Option Int}
    (hheeded : Heeded dates state (.result result now)) :
    Remembered dates (state.step dates (.result result now)) := by
  rw [DeliveryRun.step]
  split
  · exact h
  · next transition hok =>
      obtain ⟨hdispatching, hnow, hunknown, hambiguous⟩ := apply_ok hok
      refine ⟨fun hstate => ?_, nofun, fun hafter => ?_⟩
      · rw [hunknown hstate]
        rfl
      · cases result with
        | pre_io_lease_reclaimed =>
            obtain hshown | hshown | ⟨-, horigin⟩ := h.shown hafter
            · exact absurd (hdispatching.symm.trans hshown) nofun
            · exact absurd (hdispatching.symm.trans hshown) nofun
            · exact absurd horigin (hheeded rfl hnow)
        | outcome_ambiguous => exact (hambiguous rfl).imp_right .inl
        | accepted reconciled => exact absurd hafter Bool.false_ne_true
        | rate_limited retryAfterMs => exact absurd hafter Bool.false_ne_true
        | transient_failure baseDelayMs jitterUnit => exact absurd hafter Bool.false_ne_true
        | deterministic_failure => exact absurd hafter Bool.false_ne_true

theorem Remembered.step {state : DeliveryRun} (h : Remembered dates state) (step : DeliveryStep)
    (hheeded : Heeded dates state step) : Remembered dates (state.step dates step) := by
  cases step with
  | plan context => exact h.plan context
  | result result now => exact h.result hheeded

theorem Remembered.cautious {state : DeliveryRun} (h : Remembered dates state)
    (hheeded : Heeded dates state (.plan context)) : Cautious dates state context := by
  refine ⟨fun hambiguous hdispatch => ?_, fun now hnow hpermits haged => ?_⟩
  · obtain ⟨now, -, hunchecked⟩ := plan_dispatch_iff.mp hdispatch
    obtain hshown | hshown | ⟨hshown, -⟩ := h.shown hambiguous <;>
      simpa [hshown] using hunchecked.branch
  · obtain ⟨now', hnow', hrunnable, heq⟩ := plan_permits hpermits
    obtain rfl : now = now' := Option.some_inj.mp ((Option.mem_def.mp hnow).symm.trans hnow')
    obtain hdispatch | ⟨-, -, hyoung⟩ := planRunnable_permits (heq ▸ hpermits)
    · obtain ⟨now', hnow', hunchecked⟩ := plan_dispatch_iff.mp (heq.trans hdispatch)
      obtain rfl : now = now' := Option.some_inj.mp ((Option.mem_def.mp hnow).symm.trans hnow')
      exact hheeded now hnow haged hunchecked
    · obtain ⟨first, hfirst, hage⟩ := haged
      rw [firstDispatchMs, Option.mem_def.mp hfirst, Option.getD_some, hage] at hyoung
      cases hyoung

/-! ## Steps that do not heed -/

variable (dates) in
def Breaks (state : DeliveryRun) : DeliveryStep → Prop
  | .plan context => ¬ Cautious dates state context
  | .result result now =>
      ∃ context, ¬ Cautious dates (state.step dates (.result result now)) context

def headContext (delivery : SlackBridgeOutboundDeliverySnapshot) (now : Int) : PlanContext :=
  ⟨delivery.partitionPosition - 1, delivery.enqueueRuntimeRevision, true, none, some now⟩

theorem runnable_headContext (h : validSnapshot dates delivery = true) (now : Int) :
    Runnable dates delivery (headContext delivery now) := by
  refine ⟨h, ?_, (sub_add_cancel _ _).symm, rfl, rfl⟩
  simp only [validSnapshot, Bool.and_eq_true, isPositiveInteger, decide_eq_true_eq] at h
  change isNonNegativeInteger (delivery.partitionPosition - 1) = true
  rw [isNonNegativeInteger, Bool.and_eq_true, decide_eq_true_eq, decide_eq_true_eq]
  constructor <;> omega

def requeued (delivery : SlackBridgeOutboundDeliverySnapshot) :
    SlackBridgeOutboundDeliverySnapshot :=
  { delivery with state := .queued, nextAttemptAt := none }

theorem validSnapshot_requeued (h : validSnapshot dates delivery = true) :
    validSnapshot dates (requeued delivery) = true := by
  simp only [validSnapshot, requeued, Bool.and_eq_true] at h ⊢
  obtain ⟨⟨⟨⟨h, -⟩, hfirst⟩, -⟩, -⟩ := h
  exact ⟨⟨⟨⟨h, rfl⟩, hfirst⟩, rfl⟩, rfl⟩

theorem step_reclaimed {state : DeliveryRun} {now : Int}
    (hvalid : validSnapshot dates state.delivery = true)
    (hdispatching : state.delivery.state = .dispatching) :
    state.step dates (.result .pre_io_lease_reclaimed (some now)) =
      ⟨requeued state.delivery, none, state.ambiguous⟩ := by
  have hready : ¬ (!validSnapshot dates state.delivery ||
      decide (state.delivery.state ≠ .dispatching)) = true := by
    rw [hvalid, hdispatching]
    exact Bool.false_ne_true
  unfold DeliveryRun.step applySlackBridgeProviderAttemptResult
  dsimp only
  rw [if_neg hready]
  rfl

theorem Remembered.breaks {state : DeliveryRun} (h : Remembered dates state) {step : DeliveryStep}
    (hstep : ¬ Heeded dates state step) : Breaks dates state step := by
  cases step with
  | plan context =>
      intro hcautious
      refine hstep fun now hnow haged hunchecked => hcautious.young now hnow ?_ haged
      rw [plan_of_unchecked hnow hunchecked]
      rfl
  | result result now =>
      simp only [Heeded, Classical.not_imp, not_not] at hstep
      obtain ⟨rfl, hnow, horigin⟩ := hstep
      obtain ⟨nowMs, rfl⟩ := Option.isSome_iff_exists.mp hnow
      obtain ⟨hdispatching, hambiguous, hbudget, hvalid⟩ := h.origin horigin
      refine ⟨headContext (requeued state.delivery) nowMs, ?_⟩
      rw [step_reclaimed hvalid hdispatching]
      intro hcautious
      refine hcautious.reconciles hambiguous (plan_of_unchecked rfl ?_)
      exact { runnable_headContext (validSnapshot_requeued hvalid) nowMs with
        budget := hbudget, branch := .inl rfl }

end

/--
In every run of a queued delivery whose steps heed the condition each plan is cautious, and every
further step that does not heed it makes a plan that is not.
-/
theorem planSlackBridgePartitionWork_cautious (dates : DateTexts)
    (delivery : SlackBridgeOutboundDeliverySnapshot) (hqueued : delivery.state = .queued)
    (steps : List DeliveryStep)
    (hsteps : Admitted (DeliveryRun.step dates) (Heeded dates) (startRun delivery) steps) :
    (∀ before context, before ++ [.plan context] <+: steps →
      Cautious dates (run (DeliveryRun.step dates) (startRun delivery) before) context) ∧
      ∀ step, ¬ Heeded dates (run (DeliveryRun.step dates) (startRun delivery) steps) step →
        Breaks dates (run (DeliveryRun.step dates) (startRun delivery) steps) step := by
  have hkept : ∀ before, before <+: steps →
      Remembered dates (run (DeliveryRun.step dates) (startRun delivery) before) :=
    fun before hstart => (hsteps.of_initial hstart).invariant (Remembered dates)
      (fun _ step hstate hheeded => hstate.step step hheeded) (.startRun hqueued)
  constructor
  · intro before context hstart
    have hbefore : before <+: steps := (List.prefix_append _ _).trans hstart
    exact (hkept before hbefore).cautious (admitted_concat.mp (hsteps.of_initial hstart)).2
  · exact fun step hstep => (hkept steps (List.prefix_refl steps)).breaks hstep

section

private def epochText : JsString := js "1970-01-01T00:00:00.000Z"

private def epochDates : DateTexts where
  parse text := if text = epochText then some 0 else none
  toISOString time := if time = 0 then some epochText else none

private def queuedPost : SlackBridgeOutboundDeliverySnapshot :=
  ⟨js "d1", js "b1", 7, 11, js "r4", .queued, 0, 0, 0, none, none⟩

private def headAt (now : Int) : PlanContext := headContext queuedPost now

private def afterSteps (steps : List DeliveryStep) : DeliveryRun :=
  run (DeliveryRun.step epochDates) (startRun queuedPost) steps

theorem planSlackBridgePartitionWork_cautious_redispatch :
    Cautious epochDates (afterSteps [.plan (headAt 0), .result .outcome_ambiguous (some 0)])
      (headAt 5) ∧
      Breaks epochDates
        (afterSteps [.plan (headAt 0), .result .outcome_ambiguous (some 0), .plan (headAt 5)])
        (.result .pre_io_lease_reclaimed (some 9)) := by
  have hsteps : Admitted (DeliveryRun.step epochDates) (Heeded epochDates) (startRun queuedPost)
      [.plan (headAt 0), .result .outcome_ambiguous (some 0), .plan (headAt 5)] := by
    refine ⟨?_, nofun, ?_, trivial⟩
    · rintro now - ⟨first, hfirst, -⟩
      cases hfirst
    · rintro now - - hunchecked
      have hunknown : (afterSteps [.plan (headAt 0), .result .outcome_ambiguous
        (some 0)]).delivery.state =
          .outcome_unknown := by decide +kernel
      obtain hqueued | ⟨hwait, -⟩ := hunchecked.branch
      · exact absurd (hqueued.symm.trans hunknown) nofun
      · exact absurd (hwait.symm.trans hunknown) nofun
  obtain ⟨hcautious, hbreaks⟩ :=
    planSlackBridgePartitionWork_cautious epochDates queuedPost rfl _ hsteps
  refine ⟨hcautious [.plan (headAt 0), .result .outcome_ambiguous (some 0)] (headAt 5)
    (List.prefix_refl _), hbreaks _ fun hheeded => hheeded rfl rfl ?_⟩
  decide +kernel

/-- A lease reclaimed from an unknown outcome is dispatched plainly, and a retry is dispatched a
day after the first attempt. -/
theorem not_planSlackBridgePartitionWork_cautious_reclaimed :
    ¬ Cautious epochDates (afterSteps [.plan (headAt 0), .result .outcome_ambiguous (some 0),
        .plan (headAt 5), .result .pre_io_lease_reclaimed (some 9)]) (headAt 9) ∧
      ¬ Cautious epochDates (afterSteps [.plan (headAt 0),
        .result (.rate_limited (.ofNat 0)) (some 0)]) (headAt 86400000) := by
  constructor
  · intro hcautious
    exact hcautious.reconciles (by decide +kernel) (by decide +kernel)
  · intro hcautious
    exact hcautious.young 86400000 rfl (by decide +kernel) ⟨0, by decide +kernel, by decide +kernel⟩

end

end Raft.SlackBridgeDelivery
