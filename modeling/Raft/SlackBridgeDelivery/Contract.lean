import Mathlib.Algebra.Order.Floor.Defs
import Mathlib.Data.Rat.Floor
import Raft.Foundation.JsComparison
import Raft.Foundation.JsText

/-!
# The outbound delivery contract of the Slack bridge

A worker asks `planSlackBridgePartitionWork` what may be done with the delivery
at the head of a partition, persists a `dispatching` lease before it calls the
provider, and records how the attempt ended with
`applySlackBridgeProviderAttemptResult`.
-/

namespace Raft.SlackBridgeDelivery

open Raft.Foundation

inductive SlackBridgeOutboundDeliveryState where
  | not_queued
  | queued
  | dispatching
  | accepted
  | retry_wait
  | outcome_unknown
  | dead
  | skipped
  | revoked
  | quarantined
  deriving DecidableEq

def SLACK_BRIDGE_MAX_FAILURE_ATTEMPTS : Int := 24

def SLACK_BRIDGE_MAX_AUTOMATIC_PROVIDER_ATTEMPTS_AFTER_AMBIGUITY : Int := 3

def SLACK_BRIDGE_MAX_DELIVERY_AGE_MS : Int := 24 * 60 * 60 * 1000

def SLACK_BRIDGE_MAX_RETRY_DELAY_MS : ℚ := 60 * 60 * 1000

structure SlackBridgeOutboundDeliverySnapshot where
  logicalDeliveryId : JsString
  bindingId : JsString
  bindingEpoch : Int
  partitionPosition : Int
  enqueueRuntimeRevision : JsString
  state : SlackBridgeOutboundDeliveryState
  providerAttempts : Int
  ambiguityBudgetProviderAttempts : Int
  dispatchedFailureAttempts : Int
  firstDispatchedAt : Option JsString
  nextAttemptAt : Option JsString
  deriving DecidableEq

inductive BlockedReason where
  | invalid_snapshot
  | not_partition_head
  | runtime_inactive
  | runtime_revision_mismatch
  | retry_not_due
  | lease_owned
  | automatic_provider_budget_exhausted
  | terminal_partition_head
  deriving DecidableEq

inductive SlackBridgePartitionWorkPlan where
  | dispatch
  | reconcile_or_redispatch (automaticRedispatchAllowed : Bool)
  | advance_cursor
  | blocked (reason : BlockedReason)
  deriving DecidableEq

structure SlackBridgeExplicitSkipReceipt where
  logicalDeliveryId : JsString
  bindingId : JsString
  bindingEpoch : Int
  partitionPosition : Int
  actorId : JsString
  reason : JsString
  decisionRevision : Int
  deriving DecidableEq

/-- What the planner is told beside the delivery; the time of an invalid date is `none`. -/
structure PlanContext where
  partitionCursorPosition : Int
  currentRuntimeRevision : JsString
  runtimeActive : Bool
  skipReceipt : Option SlackBridgeExplicitSkipReceipt
  now : Option Int
  deriving DecidableEq

inductive SlackBridgeProviderAttemptResult where
  | pre_io_lease_reclaimed
  | accepted (reconciled : Bool)
  | rate_limited (retryAfterMs : JsNumber)
  | transient_failure (baseDelayMs jitterUnit : JsNumber)
  | deterministic_failure
  | outcome_ambiguous
  deriving DecidableEq

inductive TransitionReason where
  | lease_reclaimed_before_provider_io
  | provider_accepted
  | provider_rate_limited
  | provider_transient_failure
  | deterministic_failure
  | failure_budget_exhausted
  | age_budget_exhausted
  | provider_outcome_ambiguous
  | provider_reconciled
  deriving DecidableEq

structure SlackBridgeProviderAttemptTransition where
  state : SlackBridgeOutboundDeliveryState
  providerAttempts : Int
  ambiguityBudgetProviderAttempts : Int
  dispatchedFailureAttempts : Int
  firstDispatchedAt : Option JsString
  nextAttemptAt : Option JsString
  automaticRedispatchAllowed : Bool
  reason : TransitionReason
  deriving DecidableEq

/-- `Date.parse`, and `toISOString` of the date at a time in milliseconds, which throws for times
out of range. -/
structure DateTexts where
  parse : JsString → Option Int
  toISOString : Int → Option JsString

def isNonNegativeInteger (value : Int) : Bool := 0 ≤ value && value ≤ maxSafeInteger

def isPositiveInteger (value : Int) : Bool := 0 < value && value ≤ maxSafeInteger

def stateRequiresProviderAttemptEvidence : SlackBridgeOutboundDeliveryState → Bool
  | .accepted | .retry_wait | .outcome_unknown | .dead => true
  | _ => false

section

variable (dates : DateTexts)

def parseTimestamp (value : Option JsString) : Option Int := value.bind dates.parse

def validSnapshot (snapshot : SlackBridgeOutboundDeliverySnapshot) : Bool :=
  trim snapshot.logicalDeliveryId ≠ [] &&
    trim snapshot.bindingId ≠ [] &&
    isPositiveInteger snapshot.bindingEpoch &&
    isPositiveInteger snapshot.partitionPosition &&
    trim snapshot.enqueueRuntimeRevision ≠ [] &&
    isNonNegativeInteger snapshot.providerAttempts &&
    isNonNegativeInteger snapshot.ambiguityBudgetProviderAttempts &&
    snapshot.ambiguityBudgetProviderAttempts ≤ snapshot.providerAttempts &&
    isNonNegativeInteger snapshot.dispatchedFailureAttempts &&
    snapshot.dispatchedFailureAttempts ≤ snapshot.providerAttempts &&
    (snapshot.firstDispatchedAt.isNone ||
      (parseTimestamp dates snapshot.firstDispatchedAt).isSome) &&
    (snapshot.nextAttemptAt.isNone || (parseTimestamp dates snapshot.nextAttemptAt).isSome) &&
    (if snapshot.providerAttempts = 0 then snapshot.firstDispatchedAt.isNone
      else snapshot.firstDispatchedAt.isSome) &&
    (!stateRequiresProviderAttemptEvidence snapshot.state || 0 < snapshot.providerAttempts) &&
    (if snapshot.state = .retry_wait then snapshot.nextAttemptAt.isSome
      else snapshot.nextAttemptAt.isNone)

def canAdvanceSlackBridgePartitionCursor (delivery : SlackBridgeOutboundDeliverySnapshot)
    (skipReceipt : Option SlackBridgeExplicitSkipReceipt) : Bool :=
  if !validSnapshot dates delivery then false
  else if delivery.state = .accepted then true
  else
    match skipReceipt with
    | some receipt =>
        delivery.state = .skipped &&
          receipt.logicalDeliveryId = delivery.logicalDeliveryId &&
          receipt.bindingId = delivery.bindingId &&
          receipt.bindingEpoch = delivery.bindingEpoch &&
          receipt.partitionPosition = delivery.partitionPosition &&
          trim receipt.actorId ≠ [] && trim receipt.reason ≠ [] &&
          isPositiveInteger receipt.decisionRevision
    | none => false

def ageBudgetExhausted (firstDispatchMsValue nowMs : Int) : Bool :=
  SLACK_BRIDGE_MAX_DELIVERY_AGE_MS ≤ nowMs - firstDispatchMsValue

def firstDispatchMs (snapshot : SlackBridgeOutboundDeliverySnapshot) (nowMs : Int) : Int :=
  (parseTimestamp dates snapshot.firstDispatchedAt).getD nowMs

def withinBudget (delivery : SlackBridgeOutboundDeliverySnapshot) : Bool :=
  delivery.ambiguityBudgetProviderAttempts <
    SLACK_BRIDGE_MAX_AUTOMATIC_PROVIDER_ATTEMPTS_AFTER_AMBIGUITY

def planRunnable (delivery : SlackBridgeOutboundDeliverySnapshot) (now : Int) :
    SlackBridgePartitionWorkPlan :=
  match delivery.state with
  | .queued =>
      if withinBudget delivery then .dispatch else .blocked .automatic_provider_budget_exhausted
  | .retry_wait =>
      match parseTimestamp dates delivery.nextAttemptAt with
      | none => .blocked .invalid_snapshot
      | some nextAttemptAt =>
          if !withinBudget delivery then .blocked .automatic_provider_budget_exhausted
          else if nextAttemptAt ≤ now then .dispatch
          else .blocked .retry_not_due
  | .dispatching => .blocked .lease_owned
  | .outcome_unknown =>
      .reconcile_or_redispatch
        (withinBudget delivery && !ageBudgetExhausted (firstDispatchMs dates delivery now) now)
  | _ => .blocked .terminal_partition_head

def planSlackBridgePartitionWork (delivery : SlackBridgeOutboundDeliverySnapshot)
    (context : PlanContext) : SlackBridgePartitionWorkPlan :=
  match context.now with
  | none => .blocked .invalid_snapshot
  | some now =>
      if !validSnapshot dates delivery || !isNonNegativeInteger context.partitionCursorPosition then
        .blocked .invalid_snapshot
      else if delivery.partitionPosition ≠ context.partitionCursorPosition + 1 then
        .blocked .not_partition_head
      else if delivery.state = .accepted then .advance_cursor
      else if delivery.state = .skipped then
        if canAdvanceSlackBridgePartitionCursor dates delivery context.skipReceipt then
          .advance_cursor
        else .blocked .terminal_partition_head
      else if delivery.state = .not_queued ∨ delivery.state = .dead ∨ delivery.state = .revoked ∨
          delivery.state = .quarantined then
        .blocked .terminal_partition_head
      else if !context.runtimeActive then .blocked .runtime_inactive
      else if delivery.enqueueRuntimeRevision ≠ context.currentRuntimeRevision then
        .blocked .runtime_revision_mismatch
      else planRunnable dates delivery now

/-! ## Results of attempts -/

def finiteValue : JsNumber → Option ℚ
  | .finite value => some value
  | .negativeZero => some 0
  | .nan | .infinity _ => none

def wholeMs (time : ℚ) : Int := if 0 ≤ time then ⌊time⌋ else ⌈time⌉

def invalidTime : JsString := js "Invalid time value"

def dateText (time : Int) : Except JsString (Option JsString) :=
  match dates.toISOString time with
  | some text => .ok (some text)
  | none => .error invalidTime

structure ProviderAttempt where
  providerAttempts : Int
  firstDispatchedAt : Option JsString
  firstDispatchedAtMs : Int
  deriving DecidableEq

def withProviderAttempt (snapshot : SlackBridgeOutboundDeliverySnapshot) (nowMs : Int) :
    Except JsString ProviderAttempt := do
  let firstDispatchedAt ← dateText dates (firstDispatchMs dates snapshot nowMs)
  return ⟨snapshot.providerAttempts + 1, firstDispatchedAt, firstDispatchMs dates snapshot nowMs⟩

/-- A transition out of a provider attempt, with what it adds to the two budgets. -/
def endAttempt (snapshot : SlackBridgeOutboundDeliverySnapshot) (attempt : ProviderAttempt)
    (state : SlackBridgeOutboundDeliveryState) (budget failures : Int)
    (nextAttemptAt : Option JsString) (automaticRedispatchAllowed : Bool)
    (reason : TransitionReason) : SlackBridgeProviderAttemptTransition where
  state := state
  providerAttempts := attempt.providerAttempts
  ambiguityBudgetProviderAttempts := snapshot.ambiguityBudgetProviderAttempts + budget
  dispatchedFailureAttempts := snapshot.dispatchedFailureAttempts + failures
  firstDispatchedAt := attempt.firstDispatchedAt
  nextAttemptAt := nextAttemptAt
  automaticRedispatchAllowed := automaticRedispatchAllowed
  reason := reason

def countsAsFailure : SlackBridgeProviderAttemptResult → Int
  | .transient_failure _ _ | .deterministic_failure => 1
  | _ => 0

def countsInBudget : SlackBridgeProviderAttemptResult → Int
  | .rate_limited _ => 0
  | _ => 1

def retryDelayMs (dispatchedFailureAttempts : Int) (baseDelayMs jitterUnit : ℚ) : Int :=
  ⌊min SLACK_BRIDGE_MAX_RETRY_DELAY_MS
    (baseDelayMs * 2 ^ (max 0 (dispatchedFailureAttempts - 1)).toNat) * jitterUnit⌋

def endYoungAttempt (snapshot : SlackBridgeOutboundDeliverySnapshot) (attempt : ProviderAttempt)
    (nowMs : Int) :
    SlackBridgeProviderAttemptResult → Except JsString SlackBridgeProviderAttemptTransition
  | .rate_limited retryAfterMs =>
      match finiteValue retryAfterMs with
      | some delay =>
          if 0 ≤ delay then do
            let nextAttemptAt ← dateText dates (wholeMs (nowMs + delay))
            return endAttempt snapshot attempt .retry_wait 0 0 nextAttemptAt false
              .provider_rate_limited
          else .error (js "Slack Bridge Retry-After must be a non-negative finite duration")
      | none => .error (js "Slack Bridge Retry-After must be a non-negative finite duration")
  | .deterministic_failure =>
      .ok (endAttempt snapshot attempt .dead 1 1 none false .deterministic_failure)
  | .transient_failure baseDelayMs jitterUnit =>
      match finiteValue baseDelayMs, finiteValue jitterUnit with
      | some baseDelay, some jitter =>
          if 0 ≤ baseDelay ∧ 0 ≤ jitter ∧ jitter < 1 then
            if SLACK_BRIDGE_MAX_FAILURE_ATTEMPTS ≤ snapshot.dispatchedFailureAttempts + 1 then
              .ok (endAttempt snapshot attempt .dead 1 1 none false .failure_budget_exhausted)
            else do
              let nextAttemptAt ← dateText dates
                (nowMs + retryDelayMs (snapshot.dispatchedFailureAttempts + 1) baseDelay jitter)
              return endAttempt snapshot attempt .retry_wait 1 1 nextAttemptAt false
                .provider_transient_failure
          else .error (js "Slack Bridge retry requires finite base delay and jitter in [0, 1)")
      | _, _ => .error (js "Slack Bridge retry requires finite base delay and jitter in [0, 1)")
  | .outcome_ambiguous | .accepted _ | .pre_io_lease_reclaimed =>
      .ok (endAttempt snapshot attempt .outcome_unknown 1 0 none
        (snapshot.ambiguityBudgetProviderAttempts + 1 <
          SLACK_BRIDGE_MAX_AUTOMATIC_PROVIDER_ATTEMPTS_AFTER_AMBIGUITY) .provider_outcome_ambiguous)

def applySlackBridgeProviderAttemptResult (snapshot : SlackBridgeOutboundDeliverySnapshot)
    (result : SlackBridgeProviderAttemptResult) (now : Option Int) :
    Except JsString SlackBridgeProviderAttemptTransition :=
  match now with
  | none => .error (js "Slack Bridge provider attempt requires a valid dispatching snapshot")
  | some nowMs =>
      if !validSnapshot dates snapshot || snapshot.state ≠ .dispatching then
        .error (js "Slack Bridge provider attempt requires a valid dispatching snapshot")
      else
        match result with
        | .pre_io_lease_reclaimed =>
            .ok { state := .queued
                  providerAttempts := snapshot.providerAttempts
                  ambiguityBudgetProviderAttempts := snapshot.ambiguityBudgetProviderAttempts
                  dispatchedFailureAttempts := snapshot.dispatchedFailureAttempts
                  firstDispatchedAt := snapshot.firstDispatchedAt
                  nextAttemptAt := none
                  automaticRedispatchAllowed := false
                  reason := .lease_reclaimed_before_provider_io }
        | .accepted reconciled => do
            let attempt ← withProviderAttempt dates snapshot nowMs
            return endAttempt snapshot attempt .accepted 1 0 none false
              (if reconciled then .provider_reconciled else .provider_accepted)
        | result => do
            let attempt ← withProviderAttempt dates snapshot nowMs
            if ageBudgetExhausted attempt.firstDispatchedAtMs nowMs then
              return endAttempt snapshot attempt .dead (countsInBudget result)
                (countsAsFailure result) none false .age_budget_exhausted
            else endYoungAttempt dates snapshot attempt nowMs result

end

end Raft.SlackBridgeDelivery
