import Mathlib.Algebra.Order.Field.Rat
import Raft.Foundation.JsValue

/-!
# Event buffer options and metrics

The validated options carry their bounds.  Byte and time limits are any
positive finite numbers, row limits positive integers.  The metrics are plain
counters, one for each reason where the source keeps one for each reason.
-/

namespace Raft.RaftEventBuffer

open Raft.Foundation

/-! ## Options -/

structure EventBufferOptions where
  maxQueueRows : JsNumber
  maxQueueBytes : JsNumber
  maxBatchRows : JsNumber
  maxBatchBytes : JsNumber
  maxBatchAgeMs : JsNumber
  maxQps : JsNumber
  rateLimitBackoffMs : Option JsNumber
  maxRateLimitBackoffMs : Option JsNumber

structure ValidOptions where
  maxQueueRows : Nat
  maxQueueBytes : ℚ
  maxBatchRows : Nat
  maxBatchBytes : ℚ
  maxBatchAgeMs : ℚ
  maxQps : ℚ
  rateLimitBackoffMs : ℚ
  maxRateLimitBackoffMs : ℚ
  maxBatchRows_pos : 0 < maxBatchRows
  maxBatchBytes_pos : 0 < maxBatchBytes
  maxBatchAgeMs_pos : 0 < maxBatchAgeMs
  maxQps_pos : 0 < maxQps
  maxQps_le : maxQps ≤ 3
  maxBatchRows_le : maxBatchRows ≤ maxQueueRows
  maxBatchBytes_le : maxBatchBytes ≤ maxQueueBytes
  rateLimitBackoffMs_pos : 0 < rateLimitBackoffMs
  rateLimitBackoffMs_le : rateLimitBackoffMs ≤ maxRateLimitBackoffMs

def DEFAULT_RATE_LIMIT_BACKOFF_MS : ℚ := 1000

def DEFAULT_MAX_RATE_LIMIT_BACKOFF_MS : ℚ := 30000

def MAX_QPS : ℚ := 3

def requirePositiveInteger (name : String) (value : JsNumber) : Except JsString ℕ+ :=
  match value.positiveInteger with
  | some n => .ok n
  | none => .error (js name ++ js " must be a positive integer")

def requirePositive (name : String) (value : JsNumber) : Except JsString { v : ℚ // 0 < v } :=
  match value.positiveFinite with
  | some v => .ok v
  | none => .error (js name ++ js " must be a positive finite number")

def requireAtMost {α : Type} [LE α] [DecidableLE α] (bound value : α) (message : JsString) :
    Except JsString (PLift (value ≤ bound)) :=
  if h : value ≤ bound then .ok ⟨h⟩ else .error message

def backoffMs (option : Option JsNumber) (default : ℚ) (message : JsString) :
    Except JsString ℚ :=
  match option.getD (.finite default) with
  | .finite value => .ok value
  | .negativeZero => .ok 0
  | .nan | .infinity _ => .error message

def validateOptions (options : EventBufferOptions) : Except JsString ValidOptions := do
  let maxQueueRows ← requirePositiveInteger "maxQueueRows" options.maxQueueRows
  let maxBatchRows ← requirePositiveInteger "maxBatchRows" options.maxBatchRows
  let maxQueueBytes ← requirePositive "maxQueueBytes" options.maxQueueBytes
  let maxBatchBytes ← requirePositive "maxBatchBytes" options.maxBatchBytes
  let maxBatchAgeMs ← requirePositive "maxBatchAgeMs" options.maxBatchAgeMs
  let maxQps ← requirePositive "maxQps" options.maxQps
  let qps ← requireAtMost MAX_QPS maxQps.1 (js "maxQps must be <= 3")
  let rows ← requireAtMost (maxQueueRows : Nat) maxBatchRows
    (js "maxBatchRows must be <= maxQueueRows")
  let bytes ← requireAtMost maxQueueBytes.1 maxBatchBytes.1
    (js "maxBatchBytes must be <= maxQueueBytes")
  let positiveBackoff := js "rateLimitBackoffMs must be positive"
  let orderedBackoff := js "maxRateLimitBackoffMs must be >= rateLimitBackoffMs"
  let backoff ← backoffMs options.rateLimitBackoffMs DEFAULT_RATE_LIMIT_BACKOFF_MS positiveBackoff
  if hpos : 0 < backoff then
    let maxBackoff ← backoffMs options.maxRateLimitBackoffMs DEFAULT_MAX_RATE_LIMIT_BACKOFF_MS
      orderedBackoff
    let ordered ← requireAtMost maxBackoff backoff orderedBackoff
    .ok {
      maxQueueRows := maxQueueRows
      maxQueueBytes := maxQueueBytes
      maxBatchRows := maxBatchRows
      maxBatchBytes := maxBatchBytes
      maxBatchAgeMs := maxBatchAgeMs
      maxQps := maxQps
      rateLimitBackoffMs := backoff
      maxRateLimitBackoffMs := maxBackoff
      maxBatchRows_pos := maxBatchRows.pos
      maxBatchBytes_pos := maxBatchBytes.2
      maxBatchAgeMs_pos := maxBatchAgeMs.2
      maxQps_pos := maxQps.2
      maxQps_le := qps.down
      maxBatchRows_le := rows.down
      maxBatchBytes_le := bytes.down
      rateLimitBackoffMs_pos := hpos
      rateLimitBackoffMs_le := ordered.down }
  else .error positiveBackoff

/-! ## Metrics -/

inductive EventBufferRejectReason where
  | unauthorized
  | invalidJson
  | invalidEnvelope
  | tableNotAllowed
  | schemaMismatch
  | requestTooLarge
  | batchTooLarge
  | rowTooLarge
  | queueFull
  | shuttingDown
  deriving DecidableEq

inductive EventBufferDropReason where
  | exportFailure
  | commitMismatch
  | drainTimeout
  deriving DecidableEq

structure EventBufferMetrics where
  ingressAttemptedBatches : Nat
  ingressAcceptedBatches : Nat
  ingressAcceptedRows : Nat
  rejectedBatches : EventBufferRejectReason → Nat
  /-- The only reason is `row_too_large`. -/
  ingressRejectedRows : Nat
  exportAttempts : Nat
  attemptedRows : Nat
  committedRows : Nat
  droppedRows : EventBufferDropReason → Nat
  /-- The only reason is `abandoned_in_flight`. -/
  outcomeUnknownRows : Nat
  rateLimitedAttempts : Nat

namespace EventBufferMetrics

def fresh : EventBufferMetrics where
  ingressAttemptedBatches := 0
  ingressAcceptedBatches := 0
  ingressAcceptedRows := 0
  rejectedBatches := fun _ => 0
  ingressRejectedRows := 0
  exportAttempts := 0
  attemptedRows := 0
  committedRows := 0
  droppedRows := fun _ => 0
  outcomeUnknownRows := 0
  rateLimitedAttempts := 0

def recordIngressAttempt (metrics : EventBufferMetrics) : EventBufferMetrics :=
  { metrics with ingressAttemptedBatches := metrics.ingressAttemptedBatches + 1 }

def recordAccepted (metrics : EventBufferMetrics) (rows : Nat) : EventBufferMetrics :=
  { metrics with
    ingressAcceptedBatches := metrics.ingressAcceptedBatches + 1
    ingressAcceptedRows := metrics.ingressAcceptedRows + rows }

def recordRejected (metrics : EventBufferMetrics) (reason : EventBufferRejectReason) :
    EventBufferMetrics :=
  { metrics with
    rejectedBatches := fun other =>
      metrics.rejectedBatches other + if other = reason then 1 else 0 }

def recordIngressRejectedRows (metrics : EventBufferMetrics) (rows : Nat) : EventBufferMetrics :=
  { metrics with ingressRejectedRows := metrics.ingressRejectedRows + rows }

def recordExportAttempt (metrics : EventBufferMetrics) (rows : Nat) : EventBufferMetrics :=
  { metrics with
    exportAttempts := metrics.exportAttempts + 1
    attemptedRows := metrics.attemptedRows + rows }

def recordCommitted (metrics : EventBufferMetrics) (rows : Nat) : EventBufferMetrics :=
  { metrics with committedRows := metrics.committedRows + rows }

def recordDropped (metrics : EventBufferMetrics) (reason : EventBufferDropReason) (rows : Nat) :
    EventBufferMetrics :=
  { metrics with
    droppedRows := fun other => metrics.droppedRows other + if other = reason then rows else 0 }

def recordOutcomeUnknown (metrics : EventBufferMetrics) (rows : Nat) : EventBufferMetrics :=
  { metrics with outcomeUnknownRows := metrics.outcomeUnknownRows + rows }

def recordRateLimited (metrics : EventBufferMetrics) : EventBufferMetrics :=
  { metrics with rateLimitedAttempts := metrics.rateLimitedAttempts + 1 }

def totalDropped (metrics : EventBufferMetrics) : Nat :=
  metrics.droppedRows .exportFailure + metrics.droppedRows .commitMismatch +
    metrics.droppedRows .drainTimeout

/-- The accepted rows whose fate is decided or unknown; the others are still pending. -/
def settledRows (metrics : EventBufferMetrics) : Nat :=
  metrics.committedRows + metrics.totalDropped + metrics.outcomeUnknownRows

@[simp] theorem settledRows_recordCommitted (metrics : EventBufferMetrics) (rows : Nat) :
    (metrics.recordCommitted rows).settledRows = metrics.settledRows + rows := by
  simp only [settledRows, totalDropped, recordCommitted]
  omega

@[simp] theorem settledRows_recordDropped (metrics : EventBufferMetrics)
    (reason : EventBufferDropReason) (rows : Nat) :
    (metrics.recordDropped reason rows).settledRows = metrics.settledRows + rows := by
  cases reason <;> simp [settledRows, totalDropped, recordDropped] <;> omega

@[simp] theorem settledRows_recordOutcomeUnknown (metrics : EventBufferMetrics) (rows : Nat) :
    (metrics.recordOutcomeUnknown rows).settledRows = metrics.settledRows + rows := by
  simp only [settledRows, totalDropped, recordOutcomeUnknown]
  omega

end EventBufferMetrics

end Raft.RaftEventBuffer
