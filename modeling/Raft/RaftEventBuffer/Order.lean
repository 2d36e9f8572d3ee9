import Mathlib.Algebra.Order.BigOperators.Group.List
import Raft.RaftEventBuffer.Ledger

/-!
# The order of exported rows

A log beside the buffer keeps the accepted rows in acceptance order and every
batch handed to the exporter with its result.  A rate-limited batch returns to
the front of the queue, so the batches that were not rate-limited, followed by
the queue, always spell out the accepted rows until a drain abandons some.
-/

namespace Raft.RaftEventBuffer

open Raft.Foundation

variable {R : Type}

/-! ## The log -/

structure ExportAttempt (R : Type) where
  batch : List (QueueEntry R)
  /-- `none` while the exporter has not answered. -/
  result : Option EventBufferExportResult

def ExportAttempt.isRateLimited (attempt : ExportAttempt R) : Bool :=
  match attempt.result with
  | some (.rateLimited _) => true
  | some (.committed _) | some .failed | none => false

structure ExportLog (R : Type) where
  accepted : List (QueueEntry R)
  attempts : List (ExportAttempt R)

namespace ExportLog

def empty : ExportLog R := ⟨[], []⟩

/-- The rows of the batches that were not rate-limited, in the order they were attempted. -/
def exported (log : ExportLog R) : List (QueueEntry R) :=
  (log.attempts.filter fun attempt => !attempt.isRateLimited).flatMap ExportAttempt.batch

def record (log : ExportLog R) : EventBuffer.RowEvent R → ExportLog R
  | .quiet => log
  | .accepted entries => { log with accepted := log.accepted ++ entries }
  | .attempted batch => { log with attempts := log.attempts ++ [⟨batch, none⟩] }
  | .resolved result =>
      { log with
        attempts := log.attempts.dropLast ++
          (log.attempts.getLast?.map fun attempt =>
            { attempt with result := some result }).toList }

end ExportLog

def watch (encoding : RowEncoding R) (options : ValidOptions) (buffer : EventBuffer R)
    (log : ExportLog R) (input : EventBufferInput R) : ExportLog R :=
  log.record (buffer.rowEvent encoding options input)

/-! ## Batches within the limits -/

structure WithinLimits (options : ValidOptions) (batch : List (QueueEntry R)) : Prop where
  rows : batch.length ≤ options.maxBatchRows
  bytes : (totalBytes batch : ℚ) ≤ options.maxBatchBytes

theorem bytes_le_totalBytes {entry : QueueEntry R} {entries : List (QueueEntry R)}
    (hentry : entry ∈ entries) : entry.bytes ≤ totalBytes entries :=
  List.single_le_sum (fun _ _ => Nat.zero_le _) _ (List.mem_map_of_mem hentry)

theorem fitsBatch_iff {options : ValidOptions} {entry : QueueEntry R} :
    EventBuffer.fitsBatch options entry = true ↔ (entry.bytes : ℚ) ≤ options.maxBatchBytes := by
  simp [EventBuffer.fitsBatch]

section TakeEntries

open EventBuffer

variable {options : ValidOptions} {batch queue : List (QueueEntry R)} {queuedBytes : Int}

theorem withinLimits_singleton {entry : QueueEntry R} (hfits : fitsBatch options entry) :
    WithinLimits options [entry] where
  rows := options.maxBatchRows_pos
  bytes := by simpa using fitsBatch_iff.mp hfits

theorem WithinLimits.takeEntries (h : WithinLimits options batch)
    (hfits : ∀ entry ∈ queue, fitsBatch options entry) :
    WithinLimits options (takeEntries options batch queue queuedBytes).1 := by
  induction queue generalizing batch queuedBytes with
  | nil => exact h
  | cons next rest ih =>
      rw [EventBuffer.takeEntries]
      split
      · exact h
      · next hroom =>
          split
          · exact h
          · next hbytes =>
              refine ih ⟨?_, ?_⟩ fun entry hentry => hfits entry (List.mem_cons_of_mem _ hentry)
              · rw [List.length_append, List.length_singleton]
                omega
              · rcases List.eq_nil_or_concat batch with rfl | ⟨_, _, rfl⟩
                · exact (withinLimits_singleton (hfits next List.mem_cons_self)).bytes
                · simpa [add_assoc] using hbytes

theorem takeEntries_ne_nil (hqueue : queue ≠ []) :
    (takeEntries options [] queue queuedBytes).1 ≠ [] := by
  cases queue with
  | nil => exact absurd rfl hqueue
  | cons next rest =>
      have hrows := options.maxBatchRows_pos
      have hfirst : [next] <+: (takeEntries options [next] rest (queuedBytes - next.bytes)).1 :=
        isPrefix_takeEntries
      rw [takeEntries, if_neg (by simpa using hrows.ne'), if_neg (by simp)]
      exact List.ne_nil_of_length_pos (hfirst.length_le.trans_lt' Nat.zero_lt_one)

/-- The loop is greedy: it takes every front of the queue that fits. -/
theorem isPrefix_takeEntries_of_withinLimits {front : List (QueueEntry R)}
    (hfront : front <+: queue) (hlimits : WithinLimits options (batch ++ front)) :
    batch ++ front <+: (takeEntries options batch queue queuedBytes).1 := by
  induction queue generalizing batch front queuedBytes with
  | nil =>
      rw [List.prefix_nil.mp hfront, List.append_nil]
      exact isPrefix_takeEntries
  | cons next rest ih =>
      cases front with
      | nil =>
          rw [List.append_nil]
          exact isPrefix_takeEntries
      | cons first front =>
          obtain ⟨rfl, hrest⟩ := List.cons_prefix_cons.mp hfront
          have hrows := hlimits.rows
          have hbytes := hlimits.bytes
          simp only [List.length_append, List.length_cons] at hrows
          have hfirst : ((totalBytes batch + first.bytes : Nat) : ℚ) ≤ options.maxBatchBytes := by
            refine le_trans ?_ hbytes
            simp only [totalBytes_append, totalBytes_cons]
            exact_mod_cast by omega
          rw [takeEntries, if_neg (by omega), if_neg fun hover => not_lt.mpr hfirst hover.2]
          rw [← List.singleton_append, ← List.append_assoc] at hlimits ⊢
          exact ih hrest hlimits

end TakeEntries

/-! ## The order -/

namespace ExportLog

variable {log : ExportLog R}

@[simp] theorem accepted_accepted (entries : List (QueueEntry R)) :
    (log.record (.accepted entries)).accepted = log.accepted ++ entries := rfl

@[simp] theorem accepted_attempted (batch : List (QueueEntry R)) :
    (log.record (.attempted batch)).accepted = log.accepted := rfl

@[simp] theorem accepted_resolved (result : EventBufferExportResult) :
    (log.record (.resolved result)).accepted = log.accepted := rfl

@[simp] theorem exported_accepted (entries : List (QueueEntry R)) :
    (log.record (.accepted entries)).exported = log.exported := rfl

@[simp] theorem exported_attempted (batch : List (QueueEntry R)) :
    (log.record (.attempted batch)).exported = log.exported ++ batch := by
  simp [exported, record, ExportAttempt.isRateLimited]

section Resolved

variable {before : List (ExportAttempt R)} {batch : List (QueueEntry R)}
  (h : log.attempts = before ++ [⟨batch, none⟩])
include h

theorem attempts_resolved (result : EventBufferExportResult) :
    (log.record (.resolved result)).attempts = before ++ [⟨batch, some result⟩] := by
  simp [record, h]

theorem exported_settled {result : EventBufferExportResult}
    (hresult : ∀ retryAfterMs, result ≠ .rateLimited retryAfterMs) :
    (log.record (.resolved result)).exported = log.exported := by
  rw [exported, exported, attempts_resolved h, h]
  cases result with
  | committed _ | failed => simp [ExportAttempt.isRateLimited]
  | rateLimited retryAfterMs => exact absurd rfl (hresult retryAfterMs)

theorem exported_requeued (retryAfterMs : Option JsNumber) :
    log.exported = (log.record (.resolved (.rateLimited retryAfterMs))).exported ++ batch := by
  rw [exported, exported, attempts_resolved h, h]
  simp [ExportAttempt.isRateLimited]

theorem exported_resolved_isPrefix (result : EventBufferExportResult) :
    (log.record (.resolved result)).exported <+: log.exported := by
  cases result with
  | committed _ | failed =>
      rw [exported_settled h (by simp)]
  | rateLimited retryAfterMs =>
      rw [exported_requeued h retryAfterMs]
      exact List.prefix_append _ _

theorem bounded_resolved {options : ValidOptions}
    (hold : ∀ attempt ∈ log.attempts, attempt.batch ≠ [] ∧ WithinLimits options attempt.batch)
    (result : EventBufferExportResult) :
    ∀ attempt ∈ (log.record (.resolved result)).attempts,
      attempt.batch ≠ [] ∧ WithinLimits options attempt.batch := by
  rw [attempts_resolved h]
  rw [h] at hold
  intro attempt hattempt
  rcases List.mem_append.mp hattempt with hbefore | hlast
  · exact hold attempt (List.mem_append_left _ hbefore)
  · rw [List.mem_singleton.mp hlast]
    exact hold ⟨batch, none⟩ (List.mem_append_right _ List.mem_cons_self)

theorem isChain_resolved
    (hold : log.attempts.IsChain fun first second =>
      first.isRateLimited → first.batch <+: second.batch)
    (result : EventBufferExportResult) :
    (log.record (.resolved result)).attempts.IsChain fun first second =>
      first.isRateLimited → first.batch <+: second.batch := by
  rw [attempts_resolved h]
  rw [h, List.isChain_append] at hold
  rw [List.isChain_append]
  refine ⟨hold.1, .singleton _, ?_⟩
  simpa using hold.2.2

end Resolved

end ExportLog

open EventBuffer

structure Ordered (options : ValidOptions) (buffer : EventBuffer R) (log : ExportLog R) :
    Prop where
  fits : ∀ entry ∈ buffer.queue, fitsBatch options entry
  spelled : buffer.abandonInFlight = false → log.exported ++ buffer.queue = log.accepted
  initial : log.exported <+: log.accepted
  pending : ∀ batch, buffer.worker.attempt = some batch →
    ∃ before, log.attempts = before ++ [⟨batch, none⟩]
  bounded : ∀ attempt ∈ log.attempts, attempt.batch ≠ [] ∧ WithinLimits options attempt.batch
  queued : buffer.abandonInFlight = false → ∀ attempt ∈ log.attempts.getLast?,
    attempt.isRateLimited → attempt.batch <+: buffer.queue
  chained : log.attempts.IsChain fun first second =>
    first.isRateLimited → first.batch <+: second.batch

variable {options : ValidOptions} {buffer next : EventBuffer R} {log : ExportLog R}

theorem Ordered.of_sameRows (h : Ordered options buffer log) (hsame : SameRows next buffer) :
    Ordered options next log where
  fits := by
    rw [hsame.queue]
    exact h.fits
  spelled := by
    rw [hsame.abandonInFlight, hsame.queue]
    exact h.spelled
  initial := h.initial
  pending := by
    rw [hsame.attempt]
    exact h.pending
  bounded := h.bounded
  queued := by
    rw [hsame.abandonInFlight, hsame.queue]
    exact h.queued
  chained := h.chained

theorem ordered_create (options : ValidOptions) (nowMs : ℚ) :
    Ordered options (createEventBuffer options nowMs : EventBuffer R) .empty where
  fits := fun _ hentry => by cases hentry
  spelled := fun _ => rfl
  initial := List.prefix_refl _
  pending := fun _ hbatch => by cases hbatch
  bounded := fun _ hattempt => by cases hattempt
  queued := fun _ _ hattempt => by cases hattempt
  chained := .nil

theorem Ordered.accept (h : Ordered options buffer log) {entries : List (QueueEntry R)}
    {queuedBytes : Int} {metrics : EventBufferMetrics}
    (hfits : ∀ entry ∈ entries, fitsBatch options entry) :
    Ordered options
      { buffer with
        queue := buffer.queue ++ entries
        queuedBytes := queuedBytes
        metrics := metrics }
      (log.record (.accepted entries)) where
  fits := fun entry hentry => (List.mem_append.mp hentry).elim (h.fits entry) (hfits entry)
  spelled := fun hkept => by
    rw [ExportLog.exported_accepted, ExportLog.accepted_accepted, ← h.spelled hkept,
      List.append_assoc]
  initial := h.initial.trans (List.prefix_append _ _)
  pending := h.pending
  bounded := h.bounded
  queued := fun hkept attempt hlast hlimited =>
    (h.queued hkept attempt hlast hlimited).trans (List.prefix_append _ _)
  chained := h.chained

theorem Ordered.take (h : Ordered options buffer log) (hqueue : buffer.queue ≠ [])
    (hkept : buffer.abandonInFlight = false) {batch queue : List (QueueEntry R)}
    {queuedBytes : Int}
    (htaken : takeEntries options [] buffer.queue buffer.queuedBytes =
      (batch, queue, queuedBytes)) :
    Ordered options
      { buffer with
        queue := queue
        queuedBytes := queuedBytes
        inFlight := batch
        worker := .exporting batch }
      (log.record (.attempted batch)) := by
  have happend : batch ++ queue = buffer.queue := by
    have hsplit := @takeEntries_append R options [] buffer.queue buffer.queuedBytes
    simpa [htaken] using hsplit
  have hne : batch ≠ [] := by
    have htakes := @takeEntries_ne_nil R options buffer.queue buffer.queuedBytes hqueue
    simpa [htaken] using htakes
  have hempty : WithinLimits options ([] : List (QueueEntry R)) :=
    ⟨Nat.zero_le _, by simpa using options.maxBatchBytes_pos.le⟩
  have hlimits : WithinLimits options batch := by
    have htakes : WithinLimits options
        (takeEntries options [] buffer.queue buffer.queuedBytes).1 := hempty.takeEntries h.fits
    simpa [htaken] using htakes
  have hgreedy : ∀ front, front <+: buffer.queue → WithinLimits options front →
      front <+: batch := by
    intro front hfront hwithin
    have htakes : [] ++ front <+: (takeEntries options [] buffer.queue buffer.queuedBytes).1 :=
      isPrefix_takeEntries_of_withinLimits hfront hwithin
    simpa [htaken] using htakes
  have hspelled := h.spelled hkept
  exact {
    fits := fun entry hentry => h.fits entry (happend ▸ List.mem_append_right _ hentry)
    spelled := fun _ => by
      rw [ExportLog.exported_attempted, List.append_assoc, happend]
      exact hspelled
    initial := by
      rw [ExportLog.exported_attempted, show (log.record (.attempted batch)).accepted =
        log.accepted from rfl, ← hspelled, ← happend, ← List.append_assoc]
      exact List.prefix_append _ _
    pending := fun _ hattempt => by
      cases hattempt
      exact ⟨log.attempts, rfl⟩
    bounded := fun attempt hattempt => by
      rcases List.mem_append.mp hattempt with hold | hnew
      · exact h.bounded attempt hold
      · rw [List.mem_singleton.mp hnew]
        exact ⟨hne, hlimits⟩
    queued := fun _ attempt hlast hlimited => by
      rw [ExportLog.record, List.getLast?_concat, Option.mem_some_iff] at hlast
      rw [← hlast] at hlimited
      cases hlimited
    chained := by
      rw [ExportLog.record, List.isChain_append]
      refine ⟨h.chained, .singleton _, ?_⟩
      intro attempt hattempt started hstarted hlimited
      rw [List.head?_cons, Option.mem_some_iff] at hstarted
      rw [← hstarted]
      exact hgreedy _ (h.queued hkept attempt hattempt hlimited)
        (h.bounded attempt (List.mem_of_getLast? hattempt)).2 }

theorem Ordered.settle (h : Ordered options buffer log) {batch : List (QueueEntry R)}
    {metrics : EventBufferMetrics} {result : EventBufferExportResult}
    (hresult : ∀ retryAfterMs, result ≠ .rateLimited retryAfterMs)
    (hworker : buffer.worker = .exporting batch) :
    Ordered options { buffer with inFlight := [], worker := .looping, metrics := metrics }
      (log.record (.resolved result)) := by
  obtain ⟨before, hattempts⟩ := h.pending batch (by rw [hworker, WorkerPhase.attempt])
  exact {
    fits := h.fits
    spelled := fun hkept => by
      rw [ExportLog.exported_settled hattempts hresult]
      exact h.spelled hkept
    initial := (ExportLog.exported_resolved_isPrefix hattempts result).trans h.initial
    pending := fun _ hattempt => by cases hattempt
    bounded := ExportLog.bounded_resolved hattempts h.bounded result
    queued := fun _ attempt hlast hlimited => by
      rw [ExportLog.attempts_resolved hattempts, List.getLast?_concat,
        Option.mem_some_iff] at hlast
      rw [← hlast] at hlimited
      cases result with
      | committed _ | failed => cases hlimited
      | rateLimited retryAfterMs => exact absurd rfl (hresult retryAfterMs)
    chained := ExportLog.isChain_resolved hattempts h.chained result }

theorem Ordered.requeue (h : Ordered options buffer log) {batch : List (QueueEntry R)}
    {queuedBytes : Int} {retryAfterMs : Option JsNumber}
    (hworker : buffer.worker = .exporting batch) :
    Ordered options
      { buffer with
        queue := batch ++ buffer.queue
        queuedBytes := queuedBytes
        inFlight := []
        worker := .looping }
      (log.record (.resolved (.rateLimited retryAfterMs))) := by
  obtain ⟨before, hattempts⟩ := h.pending batch (by rw [hworker, WorkerPhase.attempt])
  have hbatch : ∀ entry ∈ batch, fitsBatch options entry := by
    have hlimits := (h.bounded ⟨batch, none⟩ (by simp [hattempts])).2
    intro entry hentry
    refine fitsBatch_iff.mpr (le_trans ?_ hlimits.bytes)
    exact_mod_cast bytes_le_totalBytes hentry
  exact {
    fits := fun entry hentry => (List.mem_append.mp hentry).elim (hbatch entry) (h.fits entry)
    spelled := fun hkept => by
      rw [ExportLog.accepted_resolved, ← h.spelled hkept,
        ExportLog.exported_requeued hattempts retryAfterMs, List.append_assoc]
    initial := (ExportLog.exported_resolved_isPrefix hattempts _).trans h.initial
    pending := fun _ hattempt => by cases hattempt
    bounded := ExportLog.bounded_resolved hattempts h.bounded _
    queued := fun _ attempt hlast _ => by
      rw [ExportLog.attempts_resolved hattempts, List.getLast?_concat,
        Option.mem_some_iff] at hlast
      rw [← hlast]
      exact List.prefix_append _ _
    chained := ExportLog.isChain_resolved hattempts h.chained _ }

theorem Ordered.ignore (h : Ordered options buffer log) {batch : List (QueueEntry R)}
    (result : EventBufferExportResult) (habandoned : buffer.abandonInFlight = true)
    (hworker : buffer.worker = .exporting batch) :
    Ordered options { buffer with inFlight := [], worker := .finishing }
      (log.record (.resolved result)) := by
  obtain ⟨before, hattempts⟩ := h.pending batch (by rw [hworker, WorkerPhase.attempt])
  exact {
    fits := h.fits
    spelled := fun hkept => by simp [habandoned] at hkept
    initial := (ExportLog.exported_resolved_isPrefix hattempts result).trans h.initial
    pending := fun _ hattempt => by cases hattempt
    bounded := ExportLog.bounded_resolved hattempts h.bounded result
    queued := fun hkept => by simp [habandoned] at hkept
    chained := ExportLog.isChain_resolved hattempts h.chained result }

theorem Ordered.abandon (h : Ordered options buffer log) {metrics : EventBufferMetrics} :
    Ordered options
      { buffer with
        queue := []
        queuedBytes := 0
        inFlight := []
        abandonInFlight := true
        metrics := metrics }
      log where
  fits := fun _ hentry => by cases hentry
  spelled := fun hkept => by cases hkept
  initial := h.initial
  pending := h.pending
  bounded := h.bounded
  queued := fun hkept => by cases hkept
  chained := h.chained

theorem Ordered.of_moves {event : RowEvent R} (h : Ordered options buffer log)
    (hmoves : Moves options buffer event next) : Ordered options next (log.record event) := by
  cases hmoves with
  | stayed hsame => exact h.of_sameRows hsame
  | closed drains hsame =>
      have hclosed : Ordered options { buffer with accepting := false, drains := drains } log :=
        ⟨h.fits, h.spelled, h.initial, h.pending, h.bounded, h.queued, h.chained⟩
      exact hclosed.of_sameRows hsame
  | accepted entries haccepting hfits hlimits hsame => exact (h.accept hfits).of_sameRows hsame
  | taken hqueue hkept hidle htaken hsame =>
      exact (h.take hqueue hkept htaken).of_sameRows hsame
  | ignored result batch habandoned hworker hsame =>
      exact (h.ignore result habandoned hworker).of_sameRows hsame
  | settled result batch metrics hresult hkept hworker haccepted hsettled hsame =>
      exact (h.settle hresult hworker).of_sameRows hsame
  | requeued retryAfterMs batch hkept hworker hsame =>
      exact (h.requeue hworker).of_sameRows hsame
  | abandoned metrics hdrains haccepted hsettled hsame => exact h.abandon.of_sameRows hsame

theorem ordered_run (encoding : RowEncoding R) (options : ValidOptions) (nowMs : ℚ)
    (inputs : List (EventBufferInput R)) :
    let final := run (instrument (step encoding options) (watch encoding options))
      (createEventBuffer options nowMs, .empty) inputs
    Ordered options final.1 final.2 :=
  run_invariant (fun state : EventBuffer R × ExportLog R => Ordered options state.1 state.2) inputs
    (fun _ input h => h.of_moves (moves_step encoding input)) (ordered_create options nowMs)

theorem batches_in_acceptance_order (encoding : RowEncoding R) (options : ValidOptions)
    (nowMs : ℚ) (inputs : List (EventBufferInput R)) :
    let log := (run (instrument (step encoding options) (watch encoding options))
      (createEventBuffer options nowMs, ExportLog.empty) inputs).2
    (∀ attempt ∈ log.attempts,
      attempt.batch ≠ [] ∧ attempt.batch.length ≤ options.maxBatchRows ∧
        (totalBytes attempt.batch : ℚ) ≤ options.maxBatchBytes) ∧
      log.exported <+: log.accepted ∧
      log.attempts.IsChain fun first second =>
        first.isRateLimited → first.batch <+: second.batch := by
  intro log
  have h := ordered_run encoding options nowMs inputs
  exact ⟨fun attempt hattempt => ⟨(h.bounded attempt hattempt).1,
    (h.bounded attempt hattempt).2.rows, (h.bounded attempt hattempt).2.bytes⟩,
    h.initial, h.chained⟩

end Raft.RaftEventBuffer
