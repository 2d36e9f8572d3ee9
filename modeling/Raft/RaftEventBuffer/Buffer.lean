import Mathlib.Data.Rat.Floor
import Raft.RaftEventBuffer.Options

/-!
# The event buffer

The in-memory queue between the ingress and the exporter.  Code between two
awaits is one step: an ingress call, the worker's loop up to its next
suspension, the arrival of an export result, and the stages of a drain call.
Rows are opaque; `RowEncoding` says which values are rows and how many bytes
their JSON text has, if they have one.
-/

namespace Raft.RaftEventBuffer

open Raft.Foundation

/-! ## Data -/

structure RowEncoding (R : Type) where
  isRow : R → Bool
  /-- `none` where `JSON.stringify` throws or gives no text. -/
  encodedBytes : R → Option Nat

structure EventBufferEnvelope (R : Type) where
  table : JsString
  schemaFingerprint : JsString
  rows : List R

/-- A thrown export counts as failed. -/
inductive EventBufferExportResult where
  | committed (committedRows : JsNumber)
  | rateLimited (retryAfterMs : Option JsNumber)
  | failed
  deriving DecidableEq

structure QueueEntry (R : Type) where
  row : R
  bytes : Nat
  enqueuedAtMs : ℚ

def totalBytes {R : Type} (entries : List (QueueEntry R)) : Nat :=
  (entries.map QueueEntry.bytes).sum

inductive EventBufferEnqueueReceipt where
  | queued (acceptedRows rejectedRows acceptedBytes queueDepthRows : Nat)
  | rejected (reason : EventBufferRejectReason)

inductive EventBufferDrainReceipt where
  | drained
  | timedOut (pendingRows droppedRows abandonedInFlightRows : Nat)
  deriving DecidableEq

structure SingleTokenBucket where
  ratePerSecond : ℚ
  tokens : ℚ
  lastRefillMs : ℚ

namespace SingleTokenBucket

def refill (bucket : SingleTokenBucket) (nowMs : ℚ) : SingleTokenBucket :=
  { bucket with
    tokens :=
      min 1 (bucket.tokens + max 0 (nowMs - bucket.lastRefillMs) / 1000 * bucket.ratePerSecond)
    lastRefillMs := nowMs }

def waitMs (bucket : SingleTokenBucket) : ℚ :=
  if bucket.tokens ≥ 1 then 0 else ⌈(1 - bucket.tokens) / bucket.ratePerSecond * 1000⌉

def consume (bucket : SingleTokenBucket) (nowMs : ℚ) : SingleTokenBucket :=
  let refilled := bucket.refill nowMs
  { refilled with tokens := max 0 (refilled.tokens - 1) }

end SingleTokenBucket

/-- Where `runWorker` stands; `this.worker` is null while it is `absent`. -/
inductive WorkerPhase (R : Type) where
  | absent
  /-- About to test the loop condition. -/
  | looping
  /-- Suspended in `waitForWakeOrDelay`. -/
  | sleeping
  /-- Suspended in the exporter's promise. -/
  | exporting (batch : List (QueueEntry R))
  /-- Returned; the `finally` callback is still to come. -/
  | finishing

inductive DrainPhase where
  | racing
  | emptied
  | elapsed
  | returned (receipt : EventBufferDrainReceipt)
  deriving DecidableEq

structure EventBuffer (R : Type) where
  metrics : EventBufferMetrics
  queue : List (QueueEntry R)
  queuedBytes : Int
  inFlight : List (QueueEntry R)
  worker : WorkerPhase R
  accepting : Bool
  draining : Bool
  abandonInFlight : Bool
  bucket : SingleTokenBucket
  blockedUntilMs : ℚ
  rateLimitStreak : Nat
  drains : List DrainPhase

variable {R : Type}

def createEventBuffer (options : ValidOptions) (nowMs : ℚ) : EventBuffer R where
  metrics := .fresh
  queue := []
  queuedBytes := 0
  inFlight := []
  worker := .absent
  accepting := true
  draining := false
  abandonInFlight := false
  bucket := ⟨options.maxQps, 1, nowMs⟩
  blockedUntilMs := 0
  rateLimitStreak := 0
  drains := []

namespace EventBuffer

def pendingRows (buffer : EventBuffer R) : Nat := buffer.queue.length + buffer.inFlight.length

def pendingBytes (buffer : EventBuffer R) : Int := buffer.queuedBytes + totalBytes buffer.inFlight

/-! ## Waiters and the worker's start -/

/-- Settles the emptiness promise of every racing drain once nothing is pending. -/
def notifyEmpty (buffer : EventBuffer R) : EventBuffer R :=
  if buffer.pendingRows > 0 then buffer
  else
    { buffer with
      drains := buffer.drains.map fun phase => if phase = .racing then .emptied else phase }

def wake (buffer : EventBuffer R) : EventBuffer R :=
  match buffer.worker with
  | .sleeping => { buffer with worker := .looping }
  | .absent | .looping | .exporting _ | .finishing => buffer

def ensureWorker (buffer : EventBuffer R) : EventBuffer R :=
  match buffer.worker with
  | .absent => if buffer.queue = [] then buffer else { buffer with worker := .looping }
  | .looping | .sleeping | .exporting _ | .finishing => buffer

/-! ## Ingress -/

def TRACE_EVENT_ROW_V2_TABLE : JsString := js "raft.trace_events_v2"

def TRACE_EVENT_ROW_V2_SCHEMA_FINGERPRINT : JsString :=
  js "sha256:ac8d905d788da3021e79af74d1b46b0373cc79ec876b03f8531ac28c69db5a69"

def TRACE_EVENT_ROW_V2_LEGACY_SCHEMA_FINGERPRINT : JsString :=
  js "sha256:d8cbabe44110bb2bc108a48021dbee4e37af732d6cc52c97fdcf06cb44b5e1ce"

def TRACE_EVENT_ROW_V2_PREVIOUS_SCHEMA_FINGERPRINT : JsString :=
  js "sha256:bc054cd6b79fe489eac8252fd91e8dcb4663ddc4b8d249395f5317a0c6bb5f46"

def isTraceEventRowV2CompatibleSchemaFingerprint (value : JsString) : Bool :=
  value = TRACE_EVENT_ROW_V2_SCHEMA_FINGERPRINT ||
    value = TRACE_EVENT_ROW_V2_PREVIOUS_SCHEMA_FINGERPRINT ||
    value = TRACE_EVENT_ROW_V2_LEGACY_SCHEMA_FINGERPRINT

def validateEnvelope (encoding : RowEncoding R) (buffer : EventBuffer R)
    (envelope : EventBufferEnvelope R) : Option EventBufferRejectReason :=
  if !buffer.accepting then some .shuttingDown
  else if envelope.table ≠ TRACE_EVENT_ROW_V2_TABLE then some .tableNotAllowed
  else if !isTraceEventRowV2CompatibleSchemaFingerprint envelope.schemaFingerprint then
    some .schemaMismatch
  else if envelope.rows.isEmpty || envelope.rows.any fun row => !encoding.isRow row then
    some .invalidEnvelope
  else none

def reject (buffer : EventBuffer R) (reason : EventBufferRejectReason) :
    EventBuffer R × EventBufferEnqueueReceipt :=
  ({ buffer with metrics := buffer.metrics.recordRejected reason }, .rejected reason)

def encodeRows (encoding : RowEncoding R) (clock : Nat → ℚ) (rows : List R) :
    Option (List (QueueEntry R)) :=
  rows.zipIdx.mapM fun indexed =>
    (encoding.encodedBytes indexed.1).map fun bytes => ⟨indexed.1, bytes, clock indexed.2⟩

def fitsBatch (options : ValidOptions) (entry : QueueEntry R) : Bool :=
  (entry.bytes : ℚ) ≤ options.maxBatchBytes

def exceedsQueue (options : ValidOptions) (buffer : EventBuffer R)
    (accepted : List (QueueEntry R)) : Bool :=
  buffer.pendingRows + accepted.length > options.maxQueueRows ||
    ((buffer.pendingBytes + totalBytes accepted : Int) : ℚ) > options.maxQueueBytes

def acceptEntries (buffer : EventBuffer R) (accepted : List (QueueEntry R)) : EventBuffer R :=
  ({ buffer with
      queue := buffer.queue ++ accepted
      queuedBytes := buffer.queuedBytes + totalBytes accepted
      metrics := buffer.metrics.recordAccepted accepted.length }).wake.ensureWorker

def enqueue (encoding : RowEncoding R) (options : ValidOptions) (buffer : EventBuffer R)
    (envelope : EventBufferEnvelope R) (clock : Nat → ℚ) :
    EventBuffer R × EventBufferEnqueueReceipt :=
  let buffer := { buffer with metrics := buffer.metrics.recordIngressAttempt }
  match validateEnvelope encoding buffer envelope with
  | some rejected => buffer.reject rejected
  | none =>
      match encodeRows encoding clock envelope.rows with
      | none => buffer.reject .invalidEnvelope
      | some entries =>
          let accepted := entries.filter (fitsBatch options)
          let rejectedRows := entries.length - accepted.length
          let buffer :=
            if rejectedRows > 0 then
              { buffer with metrics := buffer.metrics.recordIngressRejectedRows rejectedRows }
            else buffer
          if accepted = [] then buffer.reject .rowTooLarge
          else if exceedsQueue options buffer accepted then buffer.reject .queueFull
          else
            let admitted := buffer.acceptEntries accepted
            (admitted, .queued accepted.length rejectedRows (totalBytes accepted)
              admitted.pendingRows)

/-! ## The worker -/

def batchThresholdReached (options : ValidOptions) (buffer : EventBuffer R) : Bool :=
  buffer.queue.length ≥ options.maxBatchRows || (buffer.queuedBytes : ℚ) ≥ options.maxBatchBytes

/-- The wait, and the bucket that asking for it has refilled. -/
def waitBeforeNextAttemptMs (options : ValidOptions) (buffer : EventBuffer R) (now : ℚ) :
    ℚ × SingleTokenBucket :=
  if buffer.blockedUntilMs > now then (buffer.blockedUntilMs - now, buffer.bucket)
  else
    let bucket := buffer.bucket.refill now
    if bucket.waitMs > 0 then (bucket.waitMs, bucket)
    else if buffer.draining || batchThresholdReached options buffer then (0, bucket)
    else
      let oldestAt := (buffer.queue.head?.map QueueEntry.enqueuedAtMs).getD now
      (max 0 (oldestAt + options.maxBatchAgeMs - now), bucket)

/-- The loop of `takeBatch`: the batch, the rest of the queue and the bytes still queued. -/
def takeEntries (options : ValidOptions) (batch queue : List (QueueEntry R)) (queuedBytes : Int) :
    List (QueueEntry R) × List (QueueEntry R) × Int :=
  match queue with
  | [] => (batch, [], queuedBytes)
  | next :: rest =>
      if options.maxBatchRows ≤ batch.length then (batch, next :: rest, queuedBytes)
      else if 0 < batch.length ∧
          ((totalBytes batch + next.bytes : Nat) : ℚ) > options.maxBatchBytes then
        (batch, next :: rest, queuedBytes)
      else takeEntries options (batch ++ [next]) rest (queuedBytes - next.bytes)

def takeBatch (options : ValidOptions) (buffer : EventBuffer R) :
    List (QueueEntry R) × EventBuffer R :=
  let taken := takeEntries options [] buffer.queue buffer.queuedBytes
  (taken.1, { buffer with queue := taken.2.1, queuedBytes := taken.2.2 })

/-- The loop from its condition to the next suspension, with the two readings of the clock. -/
def runWorker (options : ValidOptions) (buffer : EventBuffer R) (waitNow consumeNow : ℚ) :
    EventBuffer R :=
  if buffer.queue = [] ∨ buffer.abandonInFlight = true then { buffer with worker := .finishing }
  else
    let (waitMs, bucket) := waitBeforeNextAttemptMs options buffer waitNow
    if waitMs > 0 then { buffer with worker := .sleeping, bucket := bucket }
    else
      let (batch, taken) := takeBatch options { buffer with bucket := bucket.consume consumeNow }
      { taken with
        inFlight := batch
        metrics := taken.metrics.recordExportAttempt batch.length
        worker := .exporting batch }

/-- `value === length` -/
def isLength (value : JsNumber) (length : Nat) : Bool :=
  match value with
  | .finite value => value = length
  | .negativeZero => length = 0
  | .nan | .infinity _ => false

def requestedBackoff (options : ValidOptions) (retryAfterMs : Option JsNumber) : ℚ :=
  match retryAfterMs with
  | some (.finite value) => if value > 0 then min options.maxRateLimitBackoffMs value else 0
  | some .negativeZero | some .nan | some (.infinity _) | none => 0

def handleExportResult (options : ValidOptions) (buffer : EventBuffer R)
    (batch : List (QueueEntry R)) (result : EventBufferExportResult) (now : ℚ) : EventBuffer R :=
  match result with
  | .committed committedRows =>
      let metrics :=
        if isLength committedRows batch.length then buffer.metrics.recordCommitted batch.length
        else buffer.metrics.recordDropped .commitMismatch batch.length
      { buffer with metrics := metrics, rateLimitStreak := 0, blockedUntilMs := 0 }
  | .rateLimited retryAfterMs =>
      let exponentialBackoff := min options.maxRateLimitBackoffMs
        (options.rateLimitBackoffMs * 2 ^ buffer.rateLimitStreak)
      { buffer with
        metrics := buffer.metrics.recordRateLimited
        queue := batch ++ buffer.queue
        queuedBytes := buffer.queuedBytes + totalBytes batch
        rateLimitStreak := buffer.rateLimitStreak + 1
        blockedUntilMs := now + max exponentialBackoff (requestedBackoff options retryAfterMs) }
  | .failed =>
      { buffer with
        metrics := buffer.metrics.recordDropped .exportFailure batch.length
        rateLimitStreak := 0
        blockedUntilMs := 0 }

/-- The loop from the export result back to its condition. -/
def resume (options : ValidOptions) (buffer : EventBuffer R) (batch : List (QueueEntry R))
    (result : EventBufferExportResult) (now : ℚ) : EventBuffer R :=
  if buffer.abandonInFlight then { buffer with inFlight := [], worker := .finishing }
  else
    ({ handleExportResult options buffer batch result now with
        inFlight := [], worker := .looping }).notifyEmpty

/-- The `finally` callback of the worker. -/
def workerFinished (buffer : EventBuffer R) : EventBuffer R :=
  let buffer := { buffer with worker := .absent }
  if buffer.queue ≠ [] ∧ buffer.abandonInFlight = false then buffer.ensureWorker.notifyEmpty
  else buffer.notifyEmpty

/-! ## Drains -/

/-- `Number.isFinite(timeoutMs) && timeoutMs >= 0` -/
def isTimeout : JsNumber → Bool
  | .finite value => 0 ≤ value
  | .negativeZero => true
  | .nan | .infinity _ => false

/-- The call up to its race; a bad timeout throws before anything is written. -/
def drain (buffer : EventBuffer R) (timeoutMs : JsNumber) : EventBuffer R :=
  if isTimeout timeoutMs then
    let buffer := ({ buffer with accepting := false, draining := true }).wake.ensureWorker
    { buffer with
      drains := buffer.drains ++
        [if buffer.pendingRows = 0 then .returned .drained else .racing] }
  else buffer

def drainElapsed (buffer : EventBuffer R) (index : Nat) : EventBuffer R :=
  { buffer with
    drains := buffer.drains.modify index fun phase => if phase = .racing then .elapsed else phase }

def drainResumed (buffer : EventBuffer R) (index : Nat) : EventBuffer R :=
  match buffer.drains[index]? with
  | some .emptied => { buffer with drains := buffer.drains.set index (.returned .drained) }
  | some .elapsed =>
      let droppedRows := buffer.queue.length
      let abandonedInFlightRows := buffer.inFlight.length
      ({ buffer with
          metrics := (buffer.metrics.recordDropped .drainTimeout droppedRows).recordOutcomeUnknown
            abandonedInFlightRows
          queue := []
          queuedBytes := 0
          abandonInFlight := true
          inFlight := []
          drains := buffer.drains.set index (.returned (.timedOut
            (droppedRows + abandonedInFlightRows) droppedRows abandonedInFlightRows)) }
        ).wake.notifyEmpty
  | some .racing | some (.returned _) | none => buffer

end EventBuffer

/-! ## Steps -/

inductive EventBufferInput (R : Type) where
  | enqueue (envelope : EventBufferEnvelope R) (clock : Nat → ℚ)
  /-- The ingress rejects a request before it has an envelope. -/
  | reject (reason : EventBufferRejectReason)
  | worker (waitNow consumeNow : ℚ)
  | exportResult (result : EventBufferExportResult) (now : ℚ)
  | workerFinished
  | drain (timeoutMs : JsNumber)
  | drainElapsed (index : Nat)
  | drainResumed (index : Nat)

/-- A step that the worker's phase does not allow changes nothing.  A sleeping worker may run at
any time, as a wake-up or its timer resumes it. -/
def step (encoding : RowEncoding R) (options : ValidOptions) (buffer : EventBuffer R)
    (input : EventBufferInput R) : EventBuffer R :=
  match input with
  | .enqueue envelope clock => (buffer.enqueue encoding options envelope clock).1
  | .reject reason =>
      (({ buffer with metrics := buffer.metrics.recordIngressAttempt }).reject reason).1
  | .worker waitNow consumeNow =>
      match buffer.worker with
      | .looping | .sleeping => buffer.runWorker options waitNow consumeNow
      | .absent | .exporting _ | .finishing => buffer
  | .exportResult result now =>
      match buffer.worker with
      | .exporting batch => buffer.resume options batch result now
      | .absent | .looping | .sleeping | .finishing => buffer
  | .workerFinished =>
      match buffer.worker with
      | .finishing => buffer.workerFinished
      | .absent | .looping | .sleeping | .exporting _ => buffer
  | .drain timeoutMs => buffer.drain timeoutMs
  | .drainElapsed index => buffer.drainElapsed index
  | .drainResumed index => buffer.drainResumed index

end Raft.RaftEventBuffer
