import Raft.RaftEventBuffer.Buffer
import Raft.Foundation.Run

/-!
# The row ledger of the event buffer

Every accepted row is queued, in flight, or counted once as committed, dropped
or of unknown outcome, and what is pending stays within the queue limits.
Waking, starting and notifying move no rows, so the invariant is stated on the
fields that hold them.
-/

namespace Raft.RaftEventBuffer

open Raft.Foundation

variable {R : Type}

/-! ## Batches -/

@[simp] theorem totalBytes_nil : totalBytes ([] : List (QueueEntry R)) = 0 := rfl

@[simp] theorem totalBytes_cons (entry : QueueEntry R) (entries : List (QueueEntry R)) :
    totalBytes (entry :: entries) = entry.bytes + totalBytes entries := rfl

@[simp] theorem totalBytes_append (first second : List (QueueEntry R)) :
    totalBytes (first ++ second) = totalBytes first + totalBytes second := by
  simp [totalBytes]

namespace EventBuffer

section TakeEntries

variable {options : ValidOptions} {batch queue : List (QueueEntry R)} {queuedBytes : Int}

theorem takeEntries_append :
    (takeEntries options batch queue queuedBytes).1 ++
        (takeEntries options batch queue queuedBytes).2.1 = batch ++ queue := by
  induction queue generalizing batch queuedBytes with
  | nil => rfl
  | cons next rest ih =>
      rw [takeEntries]
      split
      · rfl
      · split
        · rfl
        · rw [ih, List.append_assoc, List.singleton_append]

theorem takeEntries_bytes :
    (takeEntries options batch queue queuedBytes).2.2 -
        totalBytes (takeEntries options batch queue queuedBytes).2.1 =
      queuedBytes - totalBytes queue := by
  induction queue generalizing batch queuedBytes with
  | nil => rfl
  | cons next rest ih =>
      rw [takeEntries]
      split
      · rfl
      · split
        · rfl
        · rw [ih, totalBytes_cons]
          push_cast
          omega

theorem isPrefix_takeEntries : batch <+: (takeEntries options batch queue queuedBytes).1 := by
  induction queue generalizing batch queuedBytes with
  | nil => exact List.prefix_refl _
  | cons next rest ih =>
      rw [takeEntries]
      split
      · exact List.prefix_refl _
      · split
        · exact List.prefix_refl _
        · exact (List.prefix_append _ _).trans ih

end TakeEntries

end EventBuffer

/-! ## Steps that move no rows -/

def WorkerPhase.attempt : WorkerPhase R → Option (List (QueueEntry R))
  | .exporting batch => some batch
  | .absent | .looping | .sleeping | .finishing => none

namespace EventBuffer

structure SameRows (first second : EventBuffer R) : Prop where
  queue : first.queue = second.queue
  queuedBytes : first.queuedBytes = second.queuedBytes
  inFlight : first.inFlight = second.inFlight
  acceptedRows : first.metrics.ingressAcceptedRows = second.metrics.ingressAcceptedRows
  settledRows : first.metrics.settledRows = second.metrics.settledRows
  abandonInFlight : first.abandonInFlight = second.abandonInFlight
  accepting : first.accepting = second.accepting
  attempt : first.worker.attempt = second.worker.attempt
  drains : first.drains = [] ↔ second.drains = []

theorem SameRows.trans {first second third : EventBuffer R} (h : SameRows first second)
    (h' : SameRows second third) : SameRows first third where
  queue := h.queue.trans h'.queue
  queuedBytes := h.queuedBytes.trans h'.queuedBytes
  inFlight := h.inFlight.trans h'.inFlight
  acceptedRows := h.acceptedRows.trans h'.acceptedRows
  settledRows := h.settledRows.trans h'.settledRows
  abandonInFlight := h.abandonInFlight.trans h'.abandonInFlight
  accepting := h.accepting.trans h'.accepting
  attempt := h.attempt.trans h'.attempt
  drains := h.drains.trans h'.drains

theorem SameRows.pendingRows {first second : EventBuffer R} (h : SameRows first second) :
    first.pendingRows = second.pendingRows := by
  rw [EventBuffer.pendingRows, EventBuffer.pendingRows, h.queue, h.inFlight]

theorem SameRows.pendingBytes {first second : EventBuffer R} (h : SameRows first second) :
    first.pendingBytes = second.pendingBytes := by
  rw [EventBuffer.pendingBytes, EventBuffer.pendingBytes, h.queuedBytes, h.inFlight]

theorem sameRows_notifyEmpty (buffer : EventBuffer R) : SameRows buffer.notifyEmpty buffer := by
  unfold notifyEmpty
  split
  · exact ⟨rfl, rfl, rfl, rfl, rfl, rfl, rfl, rfl, Iff.rfl⟩
  · exact ⟨rfl, rfl, rfl, rfl, rfl, rfl, rfl, rfl, List.map_eq_nil_iff⟩

theorem sameRows_wake (buffer : EventBuffer R) : SameRows buffer.wake buffer := by
  cases hworker : buffer.worker <;>
    exact ⟨by simp [wake, hworker], by simp [wake, hworker], by simp [wake, hworker],
      by simp [wake, hworker], by simp [wake, hworker], by simp [wake, hworker],
      by simp [wake, hworker], by simp [wake, hworker, WorkerPhase.attempt],
        by simp [wake, hworker]⟩

theorem sameRows_ensureWorker (buffer : EventBuffer R) :
    SameRows buffer.ensureWorker buffer := by
  cases hworker : buffer.worker with
  | absent =>
      rw [ensureWorker, hworker]
      by_cases hqueue : buffer.queue = []
      · simp only [hqueue, if_true]
        exact ⟨rfl, rfl, rfl, rfl, rfl, rfl, rfl, rfl, Iff.rfl⟩
      · simp only [hqueue, if_false]
        exact ⟨rfl, rfl, rfl, rfl, rfl, rfl, rfl, by rw [hworker]; rfl, Iff.rfl⟩
  | looping | sleeping | exporting _ | finishing =>
      rw [ensureWorker, hworker]
      exact ⟨rfl, rfl, rfl, rfl, rfl, rfl, rfl, rfl, Iff.rfl⟩

/-! ## What a step can do to the rows -/

/-- What an observer of the queue and the exporter sees of one step. -/
inductive RowEvent (R : Type) where
  | quiet
  | accepted (entries : List (QueueEntry R))
  | attempted (batch : List (QueueEntry R))
  | resolved (result : EventBufferExportResult)

def enqueueEvent (buffer : EventBuffer R)
    (outcome : EventBuffer R × EventBufferEnqueueReceipt) : RowEvent R :=
  match outcome.2 with
  | .queued _ _ _ _ => .accepted (outcome.1.queue.drop buffer.queue.length)
  | .rejected _ => .quiet

def workerEvent (next : EventBuffer R) : RowEvent R :=
  match next.worker with
  | .exporting batch => .attempted batch
  | .absent | .looping | .sleeping | .finishing => .quiet

def rowEvent (encoding : RowEncoding R) (options : ValidOptions) (buffer : EventBuffer R)
    (input : EventBufferInput R) : RowEvent R :=
  match input, buffer.worker with
  | .enqueue envelope clock, _ =>
      enqueueEvent buffer (buffer.enqueue encoding options envelope clock)
  | .worker waitNow consumeNow, .looping | .worker waitNow consumeNow, .sleeping =>
      workerEvent (buffer.runWorker options waitNow consumeNow)
  | .exportResult result _, .exporting _ => .resolved result
  | _, _ => .quiet

inductive Moves (options : ValidOptions) (buffer : EventBuffer R) :
    RowEvent R → EventBuffer R → Prop where
  | stayed {next} (hsame : SameRows next buffer) : Moves options buffer .quiet next
  | closed {next} (drains : List DrainPhase)
      (hsame : SameRows next { buffer with accepting := false, drains := drains }) :
      Moves options buffer .quiet next
  | accepted {next} (entries : List (QueueEntry R)) (haccepting : buffer.accepting = true)
      (hfits : ∀ entry ∈ entries, fitsBatch options entry)
      (hlimits : exceedsQueue options buffer entries = false)
      (hsame : SameRows next { buffer with
        queue := buffer.queue ++ entries
        queuedBytes := buffer.queuedBytes + totalBytes entries
        metrics := buffer.metrics.recordAccepted entries.length }) :
      Moves options buffer (.accepted entries) next
  | taken {next} {batch queue : List (QueueEntry R)} {queuedBytes : Int}
      (hqueue : buffer.queue ≠ []) (hkept : buffer.abandonInFlight = false)
      (hidle : buffer.worker.attempt = none)
      (htaken : takeEntries options [] buffer.queue buffer.queuedBytes =
        (batch, queue, queuedBytes))
      (hsame : SameRows next { buffer with
        queue := queue
        queuedBytes := queuedBytes
        inFlight := batch
        worker := .exporting batch }) :
      Moves options buffer (.attempted batch) next
  | ignored {next} (result : EventBufferExportResult) (batch : List (QueueEntry R))
      (habandoned : buffer.abandonInFlight = true) (hworker : buffer.worker = .exporting batch)
      (hsame : SameRows next { buffer with inFlight := [], worker := .finishing }) :
      Moves options buffer (.resolved result) next
  | settled {next} (result : EventBufferExportResult) (batch : List (QueueEntry R))
      (metrics : EventBufferMetrics) (hresult : ∀ retryAfterMs, result ≠ .rateLimited retryAfterMs)
      (hkept : buffer.abandonInFlight = false) (hworker : buffer.worker = .exporting batch)
      (haccepted : metrics.ingressAcceptedRows = buffer.metrics.ingressAcceptedRows)
      (hsettled : metrics.settledRows = buffer.metrics.settledRows + batch.length)
      (hsame : SameRows next { buffer with
        inFlight := []
        worker := .looping
        metrics := metrics }) :
      Moves options buffer (.resolved result) next
  | requeued {next} (retryAfterMs : Option JsNumber) (batch : List (QueueEntry R))
      (hkept : buffer.abandonInFlight = false) (hworker : buffer.worker = .exporting batch)
      (hsame : SameRows next { buffer with
        queue := batch ++ buffer.queue
        queuedBytes := buffer.queuedBytes + totalBytes batch
        inFlight := []
        worker := .looping }) :
      Moves options buffer (.resolved (.rateLimited retryAfterMs)) next
  | abandoned {next} (metrics : EventBufferMetrics) (hdrains : buffer.drains ≠ [])
      (haccepted : metrics.ingressAcceptedRows = buffer.metrics.ingressAcceptedRows)
      (hsettled : metrics.settledRows = buffer.metrics.settledRows + buffer.pendingRows)
      (hsame : SameRows next { buffer with
        queue := []
        queuedBytes := 0
        inFlight := []
        abandonInFlight := true
        metrics := metrics }) :
      Moves options buffer .quiet next

section Moves

variable {options : ValidOptions} {buffer : EventBuffer R}

theorem SameRows.refl (buffer : EventBuffer R) : SameRows buffer buffer :=
  ⟨rfl, rfl, rfl, rfl, rfl, rfl, rfl, rfl, Iff.rfl⟩

theorem sameRows_reject (reason : EventBufferRejectReason) :
    SameRows (buffer.reject reason).1 buffer :=
  ⟨rfl, rfl, rfl, rfl, rfl, rfl, rfl, rfl, Iff.rfl⟩

theorem accepting_of_validateEnvelope {encoding : RowEncoding R}
    {envelope : EventBufferEnvelope R} (h : validateEnvelope encoding buffer envelope = none) :
    buffer.accepting = true := by
  rw [validateEnvelope] at h
  split at h
  · cases h
  · next hopen => simpa using hopen

theorem SameRows.acceptEntries {first : EventBuffer R} (h : SameRows first buffer)
    (entries : List (QueueEntry R)) :
    SameRows (first.acceptEntries entries) { buffer with
      queue := buffer.queue ++ entries
      queuedBytes := buffer.queuedBytes + totalBytes entries
      metrics := buffer.metrics.recordAccepted entries.length } := by
  refine ((sameRows_ensureWorker _).trans (sameRows_wake _)).trans ?_
  exact {
    queue := congrArg (· ++ entries) h.queue
    queuedBytes := congrArg (· + (totalBytes entries : Int)) h.queuedBytes
    inFlight := h.inFlight
    acceptedRows := congrArg (· + entries.length) h.acceptedRows
    settledRows := h.settledRows
    abandonInFlight := h.abandonInFlight
    accepting := h.accepting
    attempt := h.attempt
    drains := h.drains }

theorem moves_enqueue (encoding : RowEncoding R) (envelope : EventBufferEnvelope R)
    (clock : Nat → ℚ) :
    Moves options buffer
      (enqueueEvent buffer (buffer.enqueue encoding options envelope clock))
      (buffer.enqueue encoding options envelope clock).1 := by
  rw [enqueue]
  cases hvalid : validateEnvelope encoding
      { buffer with metrics := buffer.metrics.recordIngressAttempt } envelope with
  | some rejected =>
      exact .stayed ((sameRows_reject rejected).trans
        ⟨rfl, rfl, rfl, rfl, rfl, rfl, rfl, rfl, Iff.rfl⟩)
  | none =>
      have haccepting : buffer.accepting = true := accepting_of_validateEnvelope hvalid
      cases encodeRows encoding clock envelope.rows with
      | none =>
          exact .stayed ((sameRows_reject _).trans
            ⟨rfl, rfl, rfl, rfl, rfl, rfl, rfl, rfl, Iff.rfl⟩)
      | some entries =>
          simp only
          generalize hcounted : (if entries.length - (entries.filter (fitsBatch options)).length > 0
            then { buffer with
              metrics := buffer.metrics.recordIngressAttempt.recordIngressRejectedRows
                (entries.length - (entries.filter (fitsBatch options)).length) }
            else { buffer with metrics := buffer.metrics.recordIngressAttempt }) = counted
          have hsame : SameRows counted buffer := by
            rw [← hcounted]
            split <;> exact ⟨rfl, rfl, rfl, rfl, rfl, rfl, rfl, rfl, Iff.rfl⟩
          split
          · exact .stayed ((sameRows_reject _).trans hsame)
          · split
            · exact .stayed ((sameRows_reject _).trans hsame)
            · next hlimits =>
                have hadmitted := hsame.acceptEntries (entries.filter (fitsBatch options))
                have hevent : (counted.acceptEntries
                  (entries.filter (fitsBatch options))).queue.drop
                    buffer.queue.length = entries.filter (fitsBatch options) := by
                  rw [hadmitted.queue, List.drop_left]
                rw [enqueueEvent, hevent]
                refine .accepted (entries.filter (fitsBatch options)) haccepting
                  (fun entry hentry => (List.mem_filter.mp hentry).2) ?_ hadmitted
                simpa [exceedsQueue, hsame.pendingRows, hsame.pendingBytes] using hlimits

theorem moves_runWorker (hidle : buffer.worker.attempt = none) (waitNow consumeNow : ℚ) :
    Moves options buffer (workerEvent (buffer.runWorker options waitNow consumeNow))
      (buffer.runWorker options waitNow consumeNow) := by
  rw [runWorker]
  split
  · exact .stayed ⟨rfl, rfl, rfl, rfl, rfl, rfl, rfl, hidle.symm, Iff.rfl⟩
  · next hloop =>
      obtain ⟨hqueue, hkept⟩ := not_or.mp hloop
      simp only
      split
      · exact .stayed ⟨rfl, rfl, rfl, rfl, rfl, rfl, rfl, hidle.symm, Iff.rfl⟩
      · exact .taken hqueue (Bool.eq_false_iff.mpr hkept) hidle rfl
          ⟨rfl, rfl, rfl, rfl, rfl, rfl, rfl, rfl, Iff.rfl⟩

theorem moves_resume {batch : List (QueueEntry R)} (hworker : buffer.worker = .exporting batch)
    (result : EventBufferExportResult) (now : ℚ) :
    Moves options buffer (.resolved result) (buffer.resume options batch result now) := by
  rw [resume]
  split
  · next habandoned =>
      exact .ignored result batch habandoned hworker (SameRows.refl _)
  · next hkept =>
      have hkept := Bool.eq_false_iff.mpr hkept
      cases result with
      | committed committedRows =>
          by_cases hcount : isLength committedRows batch.length
          · exact .settled _ batch (buffer.metrics.recordCommitted batch.length) (by simp) hkept
              hworker rfl (by simp) ((sameRows_notifyEmpty _).trans (by
                simp only [handleExportResult, hcount, if_true]
                exact ⟨rfl, rfl, rfl, rfl, rfl, rfl, rfl, rfl, Iff.rfl⟩))
          · exact .settled _ batch (buffer.metrics.recordDropped .commitMismatch batch.length)
              (by simp) hkept hworker rfl (by simp) ((sameRows_notifyEmpty _).trans (by
                simp only [handleExportResult, hcount, Bool.false_eq_true, if_false]
                exact ⟨rfl, rfl, rfl, rfl, rfl, rfl, rfl, rfl, Iff.rfl⟩))
      | rateLimited retryAfterMs =>
          exact .requeued retryAfterMs batch hkept hworker ((sameRows_notifyEmpty _).trans
            ⟨rfl, rfl, rfl, rfl, rfl, rfl, rfl, rfl, Iff.rfl⟩)
      | failed =>
          exact .settled _ batch (buffer.metrics.recordDropped .exportFailure batch.length)
            (by simp) hkept hworker rfl (by simp) ((sameRows_notifyEmpty _).trans
              ⟨rfl, rfl, rfl, rfl, rfl, rfl, rfl, rfl, Iff.rfl⟩)

theorem moves_workerFinished (hidle : buffer.worker.attempt = none) :
    Moves options buffer .quiet buffer.workerFinished := by
  have hsame : SameRows { buffer with worker := WorkerPhase.absent } buffer :=
    ⟨rfl, rfl, rfl, rfl, rfl, rfl, rfl, hidle.symm, Iff.rfl⟩
  rw [workerFinished]
  split
  · exact .stayed
      (((sameRows_notifyEmpty _).trans (sameRows_ensureWorker _)).trans hsame)
  · exact .stayed ((sameRows_notifyEmpty _).trans hsame)

theorem moves_drain (timeoutMs : JsNumber) :
    Moves options buffer .quiet (buffer.drain timeoutMs) := by
  rw [drain]
  split
  · have hsame := (sameRows_ensureWorker _).trans
      (sameRows_wake { buffer with accepting := false, draining := true })
    exact .closed _ ⟨hsame.queue, hsame.queuedBytes, hsame.inFlight, hsame.acceptedRows,
      hsame.settledRows, hsame.abandonInFlight, hsame.accepting, hsame.attempt, Iff.rfl⟩
  · exact .stayed (SameRows.refl _)

theorem moves_drainElapsed (index : Nat) :
    Moves options buffer .quiet (buffer.drainElapsed index) :=
  .stayed ⟨rfl, rfl, rfl, rfl, rfl, rfl, rfl, rfl, by
    rw [drainElapsed, ← List.length_eq_zero_iff, List.length_modify, List.length_eq_zero_iff]⟩

theorem moves_drainResumed (index : Nat) :
    Moves options buffer .quiet (buffer.drainResumed index) := by
  rw [drainResumed]
  cases hphase : buffer.drains[index]? with
  | none => exact .stayed (SameRows.refl _)
  | some phase =>
      have hdrains : buffer.drains ≠ [] := by
        rintro hnil
        simp [hnil] at hphase
      cases phase with
      | racing | returned _ => exact .stayed (SameRows.refl _)
      | emptied =>
          exact .stayed ⟨rfl, rfl, rfl, rfl, rfl, rfl, rfl, rfl, by simp⟩
      | elapsed =>
          exact .abandoned ((buffer.metrics.recordDropped .drainTimeout buffer.queue.length
              ).recordOutcomeUnknown buffer.inFlight.length) hdrains rfl
            (by simp [pendingRows, Nat.add_assoc])
            (((sameRows_notifyEmpty _).trans (sameRows_wake _)).trans
              ⟨rfl, rfl, rfl, rfl, rfl, rfl, rfl, rfl, by simp⟩)

theorem moves_step (encoding : RowEncoding R) (input : EventBufferInput R) :
    Moves options buffer (rowEvent encoding options buffer input)
      (step encoding options buffer input) := by
  cases input with
  | enqueue envelope clock => exact moves_enqueue encoding envelope clock
  | reject reason =>
      exact .stayed ((sameRows_reject reason).trans
        ⟨rfl, rfl, rfl, rfl, rfl, rfl, rfl, rfl, Iff.rfl⟩)
  | worker waitNow consumeNow =>
      cases hworker : buffer.worker with
      | looping | sleeping =>
          simpa only [step, rowEvent, hworker] using
            moves_runWorker (by rw [hworker]; rfl) waitNow consumeNow
      | absent | exporting _ | finishing =>
          simpa only [step, rowEvent, hworker] using .stayed (SameRows.refl _)
  | exportResult result now =>
      cases hworker : buffer.worker with
      | exporting batch =>
        simpa only [step, rowEvent, hworker] using moves_resume hworker result now
      | absent | looping | sleeping | finishing =>
          simpa only [step, rowEvent, hworker] using .stayed (SameRows.refl _)
  | workerFinished =>
      cases hworker : buffer.worker with
      | finishing =>
          simpa only [step, rowEvent, hworker] using moves_workerFinished (by rw [hworker]; rfl)
      | absent | looping | sleeping | exporting _ =>
          simpa only [step, rowEvent, hworker] using .stayed (SameRows.refl _)
  | drain timeoutMs => exact moves_drain timeoutMs
  | drainElapsed index => exact moves_drainElapsed index
  | drainResumed index => exact moves_drainResumed index

end Moves

/-! ## The ledger -/

structure Balanced (options : ValidOptions) (buffer : EventBuffer R) : Prop where
  queuedBytes_eq : buffer.queuedBytes = totalBytes buffer.queue
  inFlight_eq : buffer.inFlight = if buffer.abandonInFlight then []
    else buffer.worker.attempt.getD []
  abandoned : buffer.abandonInFlight = true → buffer.queue = []
  closed : buffer.drains ≠ [] ∨ buffer.abandonInFlight = true → buffer.accepting = false
  pendingRows_le : buffer.pendingRows ≤ options.maxQueueRows
  pendingBytes_le : (buffer.pendingBytes : ℚ) ≤ options.maxQueueBytes
  conserved : buffer.metrics.ingressAcceptedRows =
    buffer.metrics.settledRows + buffer.pendingRows

variable {options : ValidOptions} {buffer : EventBuffer R}

theorem Balanced.of_sameRows {next : EventBuffer R} (h : Balanced options buffer)
    (hsame : SameRows next buffer) : Balanced options next where
  queuedBytes_eq := by rw [hsame.queuedBytes, hsame.queue, h.queuedBytes_eq]
  inFlight_eq := by rw [hsame.inFlight, hsame.abandonInFlight, hsame.attempt, h.inFlight_eq]
  abandoned := by rw [hsame.abandonInFlight, hsame.queue]; exact h.abandoned
  closed := by
    rw [hsame.abandonInFlight, hsame.accepting, ne_eq, hsame.drains]
    exact h.closed
  pendingRows_le := by
    rw [pendingRows, hsame.queue, hsame.inFlight]
    exact h.pendingRows_le
  pendingBytes_le := by
    rw [pendingBytes, hsame.queuedBytes, hsame.inFlight]
    exact h.pendingBytes_le
  conserved := by
    rw [pendingRows, hsame.queue, hsame.inFlight, hsame.acceptedRows, hsame.settledRows]
    exact h.conserved

theorem balanced_create (options : ValidOptions) (nowMs : ℚ) :
    Balanced options (createEventBuffer options nowMs : EventBuffer R) where
  queuedBytes_eq := rfl
  inFlight_eq := rfl
  abandoned := fun _ => rfl
  closed := by simp [createEventBuffer]
  pendingRows_le := Nat.zero_le _
  pendingBytes_le := by
    have hle := options.maxBatchBytes_pos.le.trans options.maxBatchBytes_le
    simpa [createEventBuffer, pendingBytes] using hle
  conserved := rfl

theorem Balanced.inFlight_eq_batch (h : Balanced options buffer)
    (hkept : buffer.abandonInFlight = false) : buffer.inFlight = buffer.worker.attempt.getD [] := by
  simpa [hkept] using h.inFlight_eq

theorem Balanced.inFlight_eq_nil (h : Balanced options buffer)
    (habandoned : buffer.abandonInFlight = true) : buffer.inFlight = [] := by
  simpa [habandoned] using h.inFlight_eq

theorem Balanced.kept_of_accepting (h : Balanced options buffer)
    (haccepting : buffer.accepting = true) : buffer.abandonInFlight = false := by
  by_contra habandoned
  have hclosed := h.closed (.inr (by simpa using habandoned))
  rw [haccepting] at hclosed
  cases hclosed

theorem Balanced.accept (h : Balanced options buffer) {entries : List (QueueEntry R)}
    (haccepting : buffer.accepting = true) (hlimits : exceedsQueue options buffer entries = false) :
    Balanced options { buffer with
      queue := buffer.queue ++ entries
      queuedBytes := buffer.queuedBytes + totalBytes entries
      metrics := buffer.metrics.recordAccepted entries.length } := by
  obtain ⟨hrows, hbytes⟩ : buffer.pendingRows + entries.length ≤ options.maxQueueRows ∧
      ((buffer.pendingBytes + totalBytes entries : Int) : ℚ) ≤ options.maxQueueBytes := by
    simpa [exceedsQueue] using hlimits
  exact {
    queuedBytes_eq := by simp [h.queuedBytes_eq]
    inFlight_eq := h.inFlight_eq
    abandoned := fun habandoned => by simp [h.kept_of_accepting haccepting] at habandoned
    closed := h.closed
    pendingRows_le := by
      simp only [pendingRows, List.length_append] at hrows ⊢
      omega
    pendingBytes_le := by
      refine le_trans (le_of_eq ?_) hbytes
      simp only [pendingBytes]
      push_cast
      ring
    conserved := by
      have hconserved := h.conserved
      simp only [pendingRows, List.length_append, EventBufferMetrics.recordAccepted,
        EventBufferMetrics.settledRows, EventBufferMetrics.totalDropped] at hconserved ⊢
      omega }

theorem Balanced.restation (h : Balanced options buffer) {queue inFlight : List (QueueEntry R)}
    {queuedBytes : Int} {worker : WorkerPhase R} (hkept : buffer.abandonInFlight = false)
    (hqueued : queuedBytes = totalBytes queue) (hinFlight : inFlight = worker.attempt.getD [])
    (hrows : queue.length + inFlight.length = buffer.pendingRows)
    (hbytes : (totalBytes queue + totalBytes inFlight : Int) = buffer.pendingBytes) :
    Balanced options { buffer with
      queue := queue
      queuedBytes := queuedBytes
      inFlight := inFlight
      worker := worker } where
  queuedBytes_eq := hqueued
  inFlight_eq := by simp [hkept, hinFlight]
  abandoned := fun habandoned => by simp [hkept] at habandoned
  closed := h.closed
  pendingRows_le := hrows.trans_le h.pendingRows_le
  pendingBytes_le := by
    rw [pendingBytes, hqueued, hbytes]
    exact h.pendingBytes_le
  conserved := by
    rw [pendingRows, hrows]
    exact h.conserved

theorem Balanced.take (h : Balanced options buffer) (hkept : buffer.abandonInFlight = false)
    (hidle : buffer.worker.attempt = none) {batch queue : List (QueueEntry R)} {queuedBytes : Int}
    (htaken : takeEntries options [] buffer.queue buffer.queuedBytes =
      (batch, queue, queuedBytes)) :
    Balanced options { buffer with
      queue := queue
      queuedBytes := queuedBytes
      inFlight := batch
      worker := .exporting batch } := by
  have hinFlight : buffer.inFlight = [] := by
    rw [h.inFlight_eq_batch hkept, hidle, Option.getD_none]
  have hqueue : batch ++ queue = buffer.queue := by
    have hsplit := @takeEntries_append R options [] buffer.queue buffer.queuedBytes
    simpa [htaken] using hsplit
  have hleft : queuedBytes - totalBytes queue = buffer.queuedBytes - totalBytes buffer.queue := by
    have hbytes := @takeEntries_bytes R options [] buffer.queue buffer.queuedBytes
    simpa [htaken] using hbytes
  have hlength := congrArg List.length hqueue
  have htotal := congrArg totalBytes hqueue
  simp only [List.length_append, totalBytes_append] at hlength htotal
  have hqueuedBytes := h.queuedBytes_eq
  refine h.restation hkept (by omega) rfl ?_ ?_
  · simp only [pendingRows, hinFlight, List.length_nil]
    omega
  · simp only [pendingBytes, hinFlight, totalBytes_nil]
    omega

theorem Balanced.requeue (h : Balanced options buffer) {batch : List (QueueEntry R)}
    (hkept : buffer.abandonInFlight = false) (hworker : buffer.worker = .exporting batch) :
    Balanced options { buffer with
      queue := batch ++ buffer.queue
      queuedBytes := buffer.queuedBytes + totalBytes batch
      inFlight := []
      worker := .looping } := by
  have hinFlight : buffer.inFlight = batch := by
    rw [h.inFlight_eq_batch hkept, hworker, WorkerPhase.attempt, Option.getD_some]
  refine h.restation hkept ?_ rfl ?_ ?_
  · rw [h.queuedBytes_eq, totalBytes_append, Nat.cast_add, add_comm]
  · simp [pendingRows, hinFlight, add_comm]
  · simp [pendingBytes, hinFlight, h.queuedBytes_eq, add_comm]

theorem Balanced.settle (h : Balanced options buffer) {batch : List (QueueEntry R)}
    {metrics : EventBufferMetrics} (hkept : buffer.abandonInFlight = false)
    (hworker : buffer.worker = .exporting batch)
    (haccepted : metrics.ingressAcceptedRows = buffer.metrics.ingressAcceptedRows)
    (hsettled : metrics.settledRows = buffer.metrics.settledRows + batch.length) :
    Balanced options { buffer with inFlight := [], worker := .looping, metrics := metrics } := by
  have hinFlight : buffer.inFlight = batch := by
    rw [h.inFlight_eq_batch hkept, hworker, WorkerPhase.attempt, Option.getD_some]
  have hrows := h.pendingRows_le
  have hbytes : (buffer.queuedBytes : ℚ) ≤ buffer.pendingBytes := by
    rw [pendingBytes]
    exact_mod_cast (by omega)
  have hconserved := h.conserved
  rw [pendingRows, hinFlight] at hrows hconserved
  exact {
    queuedBytes_eq := h.queuedBytes_eq
    inFlight_eq := by simp [WorkerPhase.attempt]
    abandoned := h.abandoned
    closed := h.closed
    pendingRows_le := by
      simp only [pendingRows, List.length_nil]
      omega
    pendingBytes_le := by
      refine le_trans (le_of_eq ?_) (hbytes.trans h.pendingBytes_le)
      simp [pendingBytes]
    conserved := by
      simp only [pendingRows, List.length_nil]
      omega }

theorem Balanced.abandon (h : Balanced options buffer) {metrics : EventBufferMetrics}
    (hdrains : buffer.drains ≠ [])
    (haccepted : metrics.ingressAcceptedRows = buffer.metrics.ingressAcceptedRows)
    (hsettled : metrics.settledRows = buffer.metrics.settledRows + buffer.pendingRows) :
    Balanced options { buffer with
      queue := []
      queuedBytes := 0
      inFlight := []
      abandonInFlight := true
      metrics := metrics } where
  queuedBytes_eq := rfl
  inFlight_eq := rfl
  abandoned := fun _ => rfl
  closed := fun _ => h.closed (.inl hdrains)
  pendingRows_le := Nat.zero_le _
  pendingBytes_le := by
    simpa [pendingBytes] using options.maxBatchBytes_pos.le.trans options.maxBatchBytes_le
  conserved := by
    rw [haccepted, hsettled, h.conserved]
    rfl

theorem Balanced.of_moves {event : RowEvent R} {next : EventBuffer R}
    (h : Balanced options buffer) (hmoves : Moves options buffer event next) :
    Balanced options next := by
  cases hmoves with
  | stayed hsame => exact h.of_sameRows hsame
  | closed drains hsame =>
      have hclosed : Balanced options { buffer with accepting := false, drains := drains } :=
        ⟨h.queuedBytes_eq, h.inFlight_eq, h.abandoned, fun _ => rfl, h.pendingRows_le,
          h.pendingBytes_le, h.conserved⟩
      exact hclosed.of_sameRows hsame
  | accepted entries haccepting hfits hlimits hsame =>
      exact (h.accept haccepting hlimits).of_sameRows hsame
  | taken hqueue hkept hidle htaken hsame =>
      exact (h.take hkept hidle htaken).of_sameRows hsame
  | ignored result batch habandoned hworker hsame =>
      have hinFlight := h.inFlight_eq_nil habandoned
      have hignored : Balanced options { buffer with inFlight := [], worker := .finishing } :=
        ⟨h.queuedBytes_eq, by simp [habandoned], h.abandoned, h.closed,
          by simpa [pendingRows, hinFlight] using h.pendingRows_le,
          by simpa [pendingBytes, hinFlight] using h.pendingBytes_le,
          by simpa [pendingRows, hinFlight] using h.conserved⟩
      exact hignored.of_sameRows hsame
  | settled result batch metrics hresult hkept hworker haccepted hsettled hsame =>
      exact (h.settle hkept hworker haccepted hsettled).of_sameRows hsame
  | requeued retryAfterMs batch hkept hworker hsame =>
      exact (h.requeue hkept hworker).of_sameRows hsame
  | abandoned metrics hdrains haccepted hsettled hsame =>
      exact (h.abandon hdrains haccepted hsettled).of_sameRows hsame

theorem balanced_run (encoding : RowEncoding R) (nowMs : ℚ) (inputs : List (EventBufferInput R)) :
    Balanced options
      (run (step encoding options) (createEventBuffer options nowMs) inputs) :=
  run_invariant (Balanced options) inputs
    (fun _ input h => h.of_moves (moves_step encoding input)) (balanced_create options nowMs)

end EventBuffer

/-- Every accepted row is accounted for once, within the limits, in every reachable state. -/
theorem rows_conserved (encoding : RowEncoding R) (options : ValidOptions) (nowMs : ℚ)
    (inputs : List (EventBufferInput R)) :
    let buffer := run (step encoding options) (createEventBuffer options nowMs) inputs
    buffer.queuedBytes = totalBytes buffer.queue ∧
      buffer.queue.length + buffer.inFlight.length ≤ options.maxQueueRows ∧
      ((totalBytes buffer.queue + totalBytes buffer.inFlight : Nat) : ℚ) ≤
        options.maxQueueBytes ∧
      buffer.metrics.ingressAcceptedRows =
        buffer.metrics.committedRows + buffer.metrics.totalDropped +
          buffer.metrics.outcomeUnknownRows + buffer.queue.length + buffer.inFlight.length := by
  intro buffer
  have h : buffer.Balanced options := EventBuffer.balanced_run encoding nowMs inputs
  have hbytes := h.pendingBytes_le
  have hconserved := h.conserved
  rw [EventBuffer.pendingBytes, h.queuedBytes_eq] at hbytes
  rw [EventBuffer.pendingRows, EventBufferMetrics.settledRows] at hconserved
  refine ⟨h.queuedBytes_eq, h.pendingRows_le, by exact_mod_cast hbytes, ?_⟩
  omega

end Raft.RaftEventBuffer
