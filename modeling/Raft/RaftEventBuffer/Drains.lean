import Raft.RaftEventBuffer.Pacing

/-!
# What a drain receipt says

Accepted rows get numbers beside the buffer, and each drain call remembers the
rows that were pending when it started.  A drain whose time is up discards what
is pending and wakes the calls that still race, which then report an empty
buffer as drained.
-/

namespace Raft.RaftEventBuffer

open Raft.Foundation

variable {R : Type}

/-! ## Numbered rows -/

structure RowNumbers where
  next : Nat
  queue : List Nat
  inFlight : List Nat
  /-- Counted as `drain_timeout` or `abandoned_in_flight`. -/
  discarded : List Nat
  /-- What was pending when each drain call started. -/
  calls : List (List Nat)

namespace RowNumbers

def empty : RowNumbers := ⟨0, [], [], [], []⟩

def pending (rows : RowNumbers) : List Nat := rows.queue ++ rows.inFlight

def discard (rows : RowNumbers) : RowNumbers :=
  { rows with queue := [], inFlight := [], discarded := rows.discarded ++ rows.pending }

def record (rows : RowNumbers) : EventBuffer.RowEvent R → RowNumbers
  | .quiet => rows
  | .accepted entries =>
      { rows with
        next := rows.next + entries.length
        queue := rows.queue ++ List.range' rows.next entries.length }
  | .attempted batch =>
      { rows with
        queue := rows.queue.drop batch.length
        inFlight := rows.queue.take batch.length }
  | .resolved (.rateLimited _) =>
      { rows with queue := rows.inFlight ++ rows.queue, inFlight := [] }
  | .resolved (.committed _) | .resolved .failed => { rows with inFlight := [] }

end RowNumbers

def watchRows (encoding : RowEncoding R) (options : ValidOptions) (buffer : EventBuffer R)
    (rows : RowNumbers) (input : EventBufferInput R) : RowNumbers :=
  match input with
  | .drain timeoutMs =>
      if EventBuffer.isTimeout timeoutMs then { rows with calls := rows.calls ++ [rows.pending] }
      else rows
  | .drainResumed index =>
      if buffer.drains[index]? = some .elapsed then rows.discard else rows
  | .enqueue _ _ | .reject _ | .worker _ _ | .exportResult _ _ | .workerFinished
  | .drainElapsed _ => rows.record (buffer.rowEvent encoding options input)

def watchedRun (encoding : RowEncoding R) (options : ValidOptions) (nowMs : ℚ)
    (inputs : List (EventBufferInput R)) : EventBuffer R × RowNumbers :=
  run (instrument (step encoding options) (watchRows encoding options))
    (createEventBuffer options nowMs, .empty) inputs

/-- No call that resolved as drained had a row pending at its start that a drain discarded. -/
def ReceiptsTruthful (state : EventBuffer R × RowNumbers) : Prop :=
  ∀ (index : Nat) (call : List Nat), state.2.calls[index]? = some call →
    state.1.drains[index]? = some (DrainPhase.returned .drained) →
      ∀ row ∈ call, row ∉ state.2.discarded

/-- A drain discards rows only when no other call is still racing. -/
def NoRacingTimeout (buffer : EventBuffer R) (input : EventBufferInput R) : Prop :=
  ∀ index, input = .drainResumed index → buffer.drains[index]? = some .elapsed →
    0 < buffer.pendingRows → DrainPhase.racing ∉ buffer.drains

/-! ## What holds in every run -/

namespace DrainPhase

def resolvesEmpty : DrainPhase → Bool
  | .emptied | .returned _ => true
  | .racing | .elapsed => false

/-- The call may still report the buffer as drained, or has. -/
def promises : DrainPhase → Bool
  | .racing | .emptied | .returned .drained => true
  | .elapsed | .returned (.timedOut _ _ _) => false

def settled (phase : DrainPhase) : DrainPhase := if phase = .racing then .emptied else phase

@[simp] theorem promises_settled (phase : DrainPhase) :
    phase.settled.promises = phase.promises := by
  cases phase <;> rfl

end DrainPhase

namespace EventBuffer

structure Tracks (options : ValidOptions) (buffer : EventBuffer R) (rows : RowNumbers) : Prop where
  balanced : Balanced options buffer
  queue : rows.queue.length = buffer.queue.length
  inFlight : rows.inFlight.length = buffer.inFlight.length
  calls : rows.calls.length = buffer.drains.length
  started : ∀ call ∈ rows.calls, rows.pending ⊆ call
  resolved : ∀ (index : Nat) (phase : DrainPhase), buffer.drains[index]? = some phase →
    phase.resolvesEmpty →
    buffer.pendingRows = 0
  discarded : rows.discarded ≠ [] → buffer.pendingRows = 0 ∧ buffer.drains ≠ []

variable {options : ValidOptions} {buffer next : EventBuffer R} {rows nextRows : RowNumbers}

theorem tracks_create (options : ValidOptions) (nowMs : ℚ) :
    Tracks options (createEventBuffer options nowMs : EventBuffer R) .empty where
  balanced := balanced_create options nowMs
  queue := rfl
  inFlight := rfl
  calls := rfl
  started := by simp [RowNumbers.empty]
  resolved := by simp [createEventBuffer]
  discarded := by simp [RowNumbers.empty]

theorem Tracks.length_pending (h : Tracks options buffer rows) :
    rows.pending.length = buffer.pendingRows := by
  rw [RowNumbers.pending, List.length_append, h.queue, h.inFlight, pendingRows]

theorem Tracks.pending_eq_nil (h : Tracks options buffer rows) :
    rows.pending = [] ↔ buffer.pendingRows = 0 := by
  rw [← h.length_pending, List.length_eq_zero_iff]

structure Follows (buffer next : EventBuffer R) (rows nextRows : RowNumbers) : Prop where
  queue : nextRows.queue.length = next.queue.length
  inFlight : nextRows.inFlight.length = next.inFlight.length
  calls : nextRows.calls = rows.calls
  discarded : nextRows.discarded = rows.discarded
  /-- Rows come in only before the first drain call. -/
  pending : nextRows.pending ⊆ rows.pending ∨ buffer.drains = []

theorem Tracks.follows (h : Tracks options buffer rows) {event : RowEvent R}
    (hmoves : Moves options buffer event next)
    (habandon : next.abandonInFlight = buffer.abandonInFlight) :
    Follows buffer next rows (rows.record event) := by
  have hstayed (hqueue : next.queue = buffer.queue) (hinFlight : next.inFlight = buffer.inFlight) :
      Follows buffer next rows rows :=
    ⟨by rw [hqueue, h.queue], by rw [hinFlight, h.inFlight], rfl, rfl,
      Or.inl (List.Subset.refl _)⟩
  cases hmoves with
  | stayed hsame => exact hstayed hsame.queue hsame.inFlight
  | closed drains hsame => exact hstayed hsame.queue hsame.inFlight
  | accepted entries haccepting hfits hlimits hsame =>
      refine ⟨?_, by rw [hsame.inFlight]; exact h.inFlight, rfl, rfl, Or.inr ?_⟩
      · simp [RowNumbers.record, hsame.queue, h.queue]
      · by_contra hdrains
        have hclosed := h.balanced.closed (Or.inl hdrains)
        rw [haccepting] at hclosed
        cases hclosed
  | @taken _ batch queue queuedBytes hqueue hkept hidle htaken hsame =>
      have hsplit : batch ++ queue = buffer.queue := by
        have happend := @takeEntries_append R options [] buffer.queue buffer.queuedBytes
        simpa [htaken] using happend
      have hlength := congrArg List.length hsplit
      rw [List.length_append, ← h.queue] at hlength
      refine ⟨?_, ?_, rfl, rfl, Or.inl ?_⟩
      · rw [hsame.queue, RowNumbers.record, List.length_drop]
        simp only
        omega
      · rw [hsame.inFlight, RowNumbers.record, List.length_take]
        simp only
        omega
      · intro row hrow
        simp only [RowNumbers.record, RowNumbers.pending, List.mem_append] at hrow ⊢
        exact Or.inl (hrow.elim List.mem_of_mem_drop List.mem_of_mem_take)
  | ignored result batch habandoned hworker hsame =>
      have hnil : rows.inFlight = [] := by
        rw [← List.length_eq_zero_iff, h.inFlight, h.balanced.inFlight_eq_nil habandoned,
          List.length_nil]
      have hrecord : rows.record (.resolved result : RowEvent R) = rows := by
        obtain ⟨nextRow, queue, inFlight, discarded, calls⟩ := rows
        obtain rfl : inFlight = [] := hnil
        cases result with
        | rateLimited _ | committed _ | failed => rfl
      rw [hrecord]
      exact hstayed hsame.queue (hsame.inFlight.trans (h.balanced.inFlight_eq_nil habandoned).symm)
  | settled result batch metrics hresult hkept hworker haccepted hsettled hsame =>
      have hrecord : rows.record (.resolved result : RowEvent R) =
        { rows with inFlight := [] } := by
        cases result with
        | rateLimited retryAfterMs => exact absurd rfl (hresult retryAfterMs)
        | committed _ | failed => rfl
      rw [hrecord]
      refine ⟨by rw [hsame.queue]; exact h.queue, by rw [hsame.inFlight]; rfl, rfl, rfl, Or.inl ?_⟩
      intro row hrow
      simp only [RowNumbers.pending, List.append_nil] at hrow
      exact List.mem_append_left _ hrow
  | requeued retryAfterMs batch hkept hworker hsame =>
      have hbatch : buffer.inFlight = batch := by
        rw [h.balanced.inFlight_eq_batch hkept, hworker, WorkerPhase.attempt, Option.getD_some]
      refine ⟨?_, by rw [hsame.inFlight]; rfl, rfl, rfl, Or.inl ?_⟩
      · simp [RowNumbers.record, hsame.queue, h.queue, h.inFlight, hbatch]
      · intro row hrow
        simp only [RowNumbers.record, RowNumbers.pending, List.append_nil,
          List.mem_append] at hrow ⊢
        exact hrow.symm
  | abandoned metrics hdrains haccepted hsettled hsame =>
      have habandoned : buffer.abandonInFlight = true := by
        rw [← habandon, hsame.abandonInFlight]
      refine hstayed ?_ ?_
      · rw [hsame.queue, h.balanced.abandoned habandoned]
      · rw [hsame.inFlight, h.balanced.inFlight_eq_nil habandoned]

structure CallsKept (next buffer : EventBuffer R) : Prop where
  abandonInFlight : next.abandonInFlight = buffer.abandonInFlight
  drains : next.drains = buffer.drains ∨
    (next.pendingRows = 0 ∧ next.drains = buffer.drains.map DrainPhase.settled)

theorem Settles.callsKept (h : Settles next buffer) : CallsKept next buffer :=
  ⟨h.abandonInFlight, h.drains⟩

theorem SameControl.callsKept (h : SameControl next buffer) : CallsKept next buffer :=
  h.settles.callsKept

theorem callsKept_step (encoding : RowEncoding R) {input : EventBufferInput R}
    (hcall : ∀ timeoutMs, input ≠ .drain timeoutMs)
    (helapsed : ∀ index, input ≠ .drainElapsed index)
    (hresumed : ∀ index, input ≠ .drainResumed index) :
    CallsKept (step encoding options buffer input) buffer := by
  cases input with
  | enqueue envelope clock =>
      exact (sameControl_enqueue buffer encoding options envelope clock).callsKept
  | reject reason => exact ⟨rfl, Or.inl rfl⟩
  | worker waitNow consumeNow =>
      obtain ⟨habandon, hdrains⟩ := runWorker_control buffer options waitNow consumeNow
      cases hworker : buffer.worker with
      | looping | sleeping =>
          simp only [step, hworker]
          exact ⟨habandon, Or.inl hdrains⟩
      | absent | exporting _ | finishing =>
          simp only [step, hworker]
          exact (SameControl.refl buffer).callsKept
  | exportResult result now =>
      cases hworker : buffer.worker with
      | exporting batch =>
          simp only [step, hworker]
          exact (settles_resume buffer options batch result now).callsKept
      | absent | looping | sleeping | finishing =>
          simp only [step, hworker]
          exact (SameControl.refl buffer).callsKept
  | workerFinished =>
      cases hworker : buffer.worker with
      | finishing =>
          simp only [step, hworker]
          exact (settles_workerFinished buffer).callsKept
      | absent | looping | sleeping | exporting _ =>
          simp only [step, hworker]
          exact (SameControl.refl buffer).callsKept
  | drain timeoutMs => exact absurd rfl (hcall timeoutMs)
  | drainElapsed index => exact absurd rfl (helapsed index)
  | drainResumed index => exact absurd rfl (hresumed index)

theorem Tracks.calls_eq_nil (h : Tracks options buffer rows) :
    rows.calls = [] ↔ buffer.drains = [] := by
  rw [← List.length_eq_zero_iff, ← List.length_eq_zero_iff, h.calls]

theorem CallsKept.drains_eq_nil (h : CallsKept next buffer) :
    next.drains = [] ↔ buffer.drains = [] := by
  rcases h.drains with hsame | ⟨-, hmap⟩
  · rw [hsame]
  · rw [hmap, List.map_eq_nil_iff]

theorem Follows.pendingRows_eq_zero (hfollows : Follows buffer next rows nextRows)
    (h : Tracks options buffer rows) (hempty : buffer.pendingRows = 0)
    (hdrains : buffer.drains ≠ []) : next.pendingRows = 0 := by
  have hsubset := hfollows.pending.resolve_right hdrains
  rw [h.pending_eq_nil.mpr hempty, List.subset_nil] at hsubset
  rw [pendingRows, ← hfollows.queue, ← hfollows.inFlight, ← List.length_append]
  exact List.length_eq_zero_iff.mpr hsubset

theorem Tracks.of_follows (h : Tracks options buffer rows) (hbalanced : Balanced options next)
    (hfollows : Follows buffer next rows nextRows) (hkept : CallsKept next buffer) :
    Tracks options next nextRows where
  balanced := hbalanced
  queue := hfollows.queue
  inFlight := hfollows.inFlight
  calls := by
    rw [hfollows.calls, h.calls]
    rcases hkept.drains with hsame | ⟨-, hmap⟩
    · rw [hsame]
    · rw [hmap, List.length_map]
  started := by
    rw [hfollows.calls]
    intro call hcall
    have hdrains : buffer.drains ≠ [] := fun hnil =>
      List.ne_nil_of_mem hcall (h.calls_eq_nil.mpr hnil)
    exact List.Subset.trans (hfollows.pending.resolve_right hdrains) (h.started call hcall)
  resolved := by
    intro index phase hphase hresolves
    rcases hkept.drains with hsame | ⟨hempty, -⟩
    · rw [hsame] at hphase
      refine hfollows.pendingRows_eq_zero h (h.resolved index phase hphase hresolves) ?_
      exact List.ne_nil_of_mem (List.mem_of_getElem? hphase)
    · exact hempty
  discarded := by
    rw [hfollows.discarded]
    intro hdiscarded
    obtain ⟨hempty, hdrains⟩ := h.discarded hdiscarded
    exact ⟨hfollows.pendingRows_eq_zero h hempty hdrains, mt hkept.drains_eq_nil.mp hdrains⟩

/-- No call that may report the buffer as drained had a row that was discarded. -/
def CallsTruthful (buffer : EventBuffer R) (rows : RowNumbers) : Prop :=
  ∀ (index : Nat) (call : List Nat) (phase : DrainPhase), rows.calls[index]? = some call →
    buffer.drains[index]? = some phase → phase.promises → ∀ row ∈ call, row ∉ rows.discarded

theorem CallsTruthful.of_drains (h : CallsTruthful buffer rows)
    (hcalls : nextRows.calls = rows.calls) (hdiscarded : nextRows.discarded = rows.discarded)
    (hdrains : ∀ (index : Nat) (phase : DrainPhase), next.drains[index]? = some phase →
      phase.promises →
      ∃ old, buffer.drains[index]? = some old ∧ old.promises) :
    CallsTruthful next nextRows := by
  intro index call phase hcall hphase hpromises
  obtain ⟨old, hold, hpromised⟩ := hdrains index phase hphase hpromises
  rw [hcalls] at hcall
  rw [hdiscarded]
  exact h index call old hcall hold hpromised

theorem CallsKept.promised (h : CallsKept next buffer) (index : Nat) (phase : DrainPhase)
    (hphase : next.drains[index]? = some phase) (hpromises : phase.promises) :
    ∃ old, buffer.drains[index]? = some old ∧ old.promises := by
  rcases h.drains with hsame | ⟨-, hmap⟩
  · exact ⟨phase, hsame ▸ hphase, hpromises⟩
  · rw [hmap, List.getElem?_map, Option.map_eq_some_iff] at hphase
    obtain ⟨old, hold, rfl⟩ := hphase
    exact ⟨old, hold, by simpa using hpromises⟩

/-! ## The steps of a drain call -/

theorem drain_drains {timeoutMs : JsNumber} (htimeout : isTimeout timeoutMs = true) :
    (buffer.drain timeoutMs).queue = buffer.queue ∧
      (buffer.drain timeoutMs).inFlight = buffer.inFlight ∧
      (buffer.drain timeoutMs).drains = buffer.drains ++
        [if buffer.pendingRows = 0 then .returned .drained else .racing] := by
  have hrows := (sameRows_ensureWorker _).trans
    (sameRows_wake { buffer with accepting := false, draining := true })
  have hcontrol := (sameControl_ensureWorker _).trans
    (sameControl_wake { buffer with accepting := false, draining := true })
  rw [drain, if_pos htimeout]
  simp only [hrows.pendingRows]
  exact ⟨hrows.queue, hrows.inFlight, congrArg (· ++ _) hcontrol.drains⟩

structure PhasesKept (next buffer : EventBuffer R) : Prop where
  queue : next.queue = buffer.queue
  inFlight : next.inFlight = buffer.inFlight
  length : next.drains.length = buffer.drains.length
  phases : ∀ (index : Nat) (phase : DrainPhase), next.drains[index]? = some phase →
    ∃ old, buffer.drains[index]? = some old ∧ (phase.resolvesEmpty → old.resolvesEmpty) ∧
      (phase.promises → old.promises)

theorem PhasesKept.refl (buffer : EventBuffer R) : PhasesKept buffer buffer :=
  ⟨rfl, rfl, rfl, fun _ phase hphase => ⟨phase, hphase, id, id⟩⟩

theorem phasesKept_drainElapsed (index : Nat) : PhasesKept (buffer.drainElapsed index) buffer := by
  refine ⟨rfl, rfl, by rw [drainElapsed, List.length_modify], fun other phase hphase => ?_⟩
  rw [drainElapsed, List.getElem?_modify] at hphase
  obtain ⟨old, hold, hstep⟩ := Option.map_eq_some_iff.mp hphase
  refine ⟨old, hold, ?_⟩
  split at hstep
  · cases old with
    | racing | emptied | elapsed | returned _ =>
        subst hstep
        simp [DrainPhase.resolvesEmpty, DrainPhase.promises]
  · subst hstep
    exact ⟨id, id⟩

theorem phasesKept_drainResumed {index : Nat} (hphase : buffer.drains[index]? ≠ some .elapsed) :
    PhasesKept (buffer.drainResumed index) buffer := by
  rw [drainResumed]
  split
  · next hemptied =>
      refine ⟨rfl, rfl, List.length_set, fun other phase hother => ?_⟩
      simp only [List.getElem?_set] at hother
      split at hother
      · next heq =>
          subst heq
          refine ⟨.emptied, hemptied, fun _ => rfl, fun _ => rfl⟩
      · exact ⟨phase, hother, id, id⟩
  · next helapsed => exact absurd helapsed hphase
  all_goals exact .refl buffer

theorem wake_notifyEmpty (hqueue : buffer.queue = []) (hinFlight : buffer.inFlight = []) :
    buffer.wake.notifyEmpty.queue = [] ∧ buffer.wake.notifyEmpty.inFlight = [] ∧
      buffer.wake.notifyEmpty.drains = buffer.drains.map DrainPhase.settled := by
  have hrows := sameRows_wake buffer
  have hempty : ¬ buffer.wake.pendingRows > 0 := by
    rw [hrows.pendingRows, pendingRows, hqueue, hinFlight]
    exact lt_irrefl 0
  rw [notifyEmpty, if_neg hempty]
  exact ⟨hrows.queue.trans hqueue, hrows.inFlight.trans hinFlight,
    congrArg (List.map DrainPhase.settled) (sameControl_wake buffer).drains⟩

theorem drainResumed_elapsed {index : Nat} (hphase : buffer.drains[index]? = some .elapsed) :
    (buffer.drainResumed index).queue = [] ∧ (buffer.drainResumed index).inFlight = [] ∧
      ∃ receipt, DrainPhase.promises (.returned receipt) = false ∧
        (buffer.drainResumed index).drains =
          (buffer.drains.set index (.returned receipt)).map DrainPhase.settled := by
  rw [drainResumed, hphase]
  simp only
  obtain ⟨hqueue, hinFlight, hdrains⟩ := @wake_notifyEmpty R
    { buffer with
      metrics := (buffer.metrics.recordDropped .drainTimeout buffer.queue.length
        ).recordOutcomeUnknown buffer.inFlight.length
      queue := []
      queuedBytes := 0
      abandonInFlight := true
      inFlight := []
      drains := buffer.drains.set index (.returned (.timedOut
        (buffer.queue.length + buffer.inFlight.length) buffer.queue.length
        buffer.inFlight.length)) } rfl rfl
  exact ⟨hqueue, hinFlight, _, rfl, hdrains⟩

section Calls

variable (h : Tracks options buffer rows)
include h

theorem Tracks.drain {timeoutMs : JsNumber} (htimeout : isTimeout timeoutMs = true)
    (hbalanced : Balanced options (buffer.drain timeoutMs)) :
    Tracks options (buffer.drain timeoutMs)
      { rows with calls := rows.calls ++ [rows.pending] } := by
  obtain ⟨hqueue, hinFlight, hdrains⟩ := @drain_drains R buffer timeoutMs htimeout
  have hpending : (buffer.drain timeoutMs).pendingRows = buffer.pendingRows := by
    rw [pendingRows, hqueue, hinFlight, pendingRows]
  refine
    { balanced := hbalanced
      queue := by rw [hqueue]; exact h.queue
      inFlight := by rw [hinFlight]; exact h.inFlight
      calls := by simp [hdrains, h.calls]
      started := ?_
      resolved := ?_
      discarded := ?_ }
  · intro call hcall
    rcases List.mem_append.mp hcall with hold | hnew
    · exact h.started call hold
    · rw [List.mem_singleton.mp hnew]
      exact List.Subset.refl _
  · intro index phase hphase hresolves
    rw [hpending]
    rw [hdrains, List.getElem?_append] at hphase
    split at hphase
    · exact h.resolved index phase hphase hresolves
    · have hnew := List.mem_of_getElem? hphase
      rw [List.mem_singleton] at hnew
      subst hnew
      by_contra hne
      rw [if_neg hne] at hresolves
      cases hresolves
  · intro hdiscarded
    rw [hpending, hdrains]
    exact ⟨(h.discarded hdiscarded).1, by simp⟩

theorem Tracks.callsTruthful_drain {timeoutMs : JsNumber} (htimeout : isTimeout timeoutMs = true)
    (htruthful : CallsTruthful buffer rows) :
    CallsTruthful (buffer.drain timeoutMs)
      { rows with calls := rows.calls ++ [rows.pending] } := by
  obtain ⟨-, -, hdrains⟩ := @drain_drains R buffer timeoutMs htimeout
  intro index call phase hcall hphase hpromises
  rw [hdrains, List.getElem?_append, ← h.calls] at hphase
  simp only [List.getElem?_append] at hcall
  split at hcall
  · next hindex =>
      rw [if_pos hindex] at hphase
      exact htruthful index call phase hcall hphase hpromises
  · obtain rfl : call = rows.pending := List.mem_singleton.mp (List.mem_of_getElem? hcall)
    intro row hrow hdiscarded
    have hempty := (h.discarded (List.ne_nil_of_mem hdiscarded)).1
    rw [h.pending_eq_nil.mpr hempty] at hrow
    cases hrow

theorem Tracks.of_phases (hbalanced : Balanced options next) (hkept : PhasesKept next buffer) :
    Tracks options next rows where
  balanced := hbalanced
  queue := by rw [hkept.queue]; exact h.queue
  inFlight := by rw [hkept.inFlight]; exact h.inFlight
  calls := by rw [hkept.length]; exact h.calls
  started := h.started
  resolved := by
    intro index phase hphase hresolves
    obtain ⟨old, hold, hresolved, -⟩ := hkept.phases index phase hphase
    rw [pendingRows, hkept.queue, hkept.inFlight]
    exact h.resolved index old hold (hresolved hresolves)
  discarded := by
    intro hdiscarded
    obtain ⟨hempty, hdrains⟩ := h.discarded hdiscarded
    rw [pendingRows, hkept.queue, hkept.inFlight]
    refine ⟨hempty, fun hnil => hdrains ?_⟩
    rw [← List.length_eq_zero_iff, ← hkept.length, hnil, List.length_nil]

theorem Tracks.discard {index : Nat} (hphase : buffer.drains[index]? = some .elapsed)
    (hbalanced : Balanced options (buffer.drainResumed index)) :
    Tracks options (buffer.drainResumed index) rows.discard := by
  obtain ⟨hqueue, hinFlight, receipt, -, hdrains⟩ := drainResumed_elapsed hphase
  have hempty : (buffer.drainResumed index).pendingRows = 0 := by
    rw [pendingRows, hqueue, hinFlight, List.length_nil]
  exact
    { balanced := hbalanced
      queue := by rw [hqueue]; rfl
      inFlight := by rw [hinFlight]; rfl
      calls := by rw [hdrains, List.length_map, List.length_set]; exact h.calls
      started := fun call _ => List.nil_subset call
      resolved := fun _ _ _ _ => hempty
      discarded := fun _ => by
        refine ⟨hempty, ?_⟩
        rw [hdrains, ne_eq, List.map_eq_nil_iff, List.set_eq_nil_iff]
        exact List.ne_nil_of_mem (List.mem_of_getElem? hphase) }

theorem Tracks.callsTruthful_discard {index : Nat}
    (hphase : buffer.drains[index]? = some .elapsed)
    (hcondition : 0 < buffer.pendingRows → DrainPhase.racing ∉ buffer.drains)
    (htruthful : CallsTruthful buffer rows) :
    CallsTruthful (buffer.drainResumed index) rows.discard := by
  obtain ⟨-, -, receipt, hbroken, hdrains⟩ := drainResumed_elapsed hphase
  intro other call phase hcall hother hpromises
  rw [hdrains, List.getElem?_map, Option.map_eq_some_iff] at hother
  obtain ⟨old, hold, rfl⟩ := hother
  rw [DrainPhase.promises_settled] at hpromises
  rw [List.getElem?_set] at hold
  split at hold
  · split at hold
    · cases hold
      rw [hbroken] at hpromises
      cases hpromises
    · cases hold
  · have hkept := htruthful other call old hcall hold hpromises
    have hempty : rows.pending = [] := by
      rw [h.pending_eq_nil]
      by_contra hpending
      have hpos := Nat.pos_of_ne_zero hpending
      cases old with
      | racing => exact hcondition hpos (List.mem_of_getElem? hold)
      | emptied | returned _ => exact hpending (h.resolved other _ hold rfl)
      | elapsed => cases hpromises
    intro row hrow
    rw [RowNumbers.discard, hempty, List.append_nil]
    exact hkept row hrow

end Calls

section Steps

variable (encoding : RowEncoding R)

theorem Tracks.step_rows (h : Tracks options buffer rows) {input : EventBufferInput R}
    (hkept : CallsKept (RaftEventBuffer.step encoding options buffer input) buffer) :
    Tracks options (RaftEventBuffer.step encoding options buffer input)
        (rows.record (buffer.rowEvent encoding options input)) ∧
      (CallsTruthful buffer rows →
        CallsTruthful (RaftEventBuffer.step encoding options buffer input)
          (rows.record (buffer.rowEvent encoding options input))) := by
  have hmoves := @moves_step R options buffer encoding input
  have hfollows := h.follows hmoves hkept.abandonInFlight
  exact ⟨h.of_follows (h.balanced.of_moves hmoves) hfollows hkept,
    fun htruthful => htruthful.of_drains hfollows.calls hfollows.discarded hkept.promised⟩

theorem Tracks.step_phases (h : Tracks options buffer rows) (hbalanced : Balanced options next)
    (hkept : PhasesKept next buffer) :
    Tracks options next rows ∧ (CallsTruthful buffer rows → CallsTruthful next rows) := by
  refine ⟨h.of_phases hbalanced hkept, fun htruthful => htruthful.of_drains rfl rfl ?_⟩
  intro index phase hphase hpromises
  obtain ⟨old, hold, -, hpromised⟩ := hkept.phases index phase hphase
  exact ⟨old, hold, hpromised hpromises⟩

theorem Tracks.step (h : Tracks options buffer rows) (input : EventBufferInput R) :
    Tracks options (RaftEventBuffer.step encoding options buffer input)
        (watchRows encoding options buffer rows input) ∧
      (CallsTruthful buffer rows → NoRacingTimeout buffer input →
        CallsTruthful (RaftEventBuffer.step encoding options buffer input)
          (watchRows encoding options buffer rows input)) := by
  have hbalanced := h.balanced.of_moves (@moves_step R options buffer encoding input)
  have hrows (hkept : CallsKept (RaftEventBuffer.step encoding options buffer input) buffer)
      (hrecord : watchRows encoding options buffer rows input =
        rows.record (buffer.rowEvent encoding options input)) :
      Tracks options (RaftEventBuffer.step encoding options buffer input)
          (watchRows encoding options buffer rows input) ∧
        (CallsTruthful buffer rows → NoRacingTimeout buffer input →
          CallsTruthful (RaftEventBuffer.step encoding options buffer input)
            (watchRows encoding options buffer rows input)) := by
    obtain ⟨htracks, hpromised⟩ := h.step_rows encoding hkept
    rw [hrecord]
    exact ⟨htracks, fun htruthful _ => hpromised htruthful⟩
  cases input with
  | drain timeoutMs =>
      rw [watchRows]
      split
      · next htimeout =>
          exact ⟨h.drain htimeout hbalanced,
            fun htruthful _ => h.callsTruthful_drain htimeout htruthful⟩
      · next htimeout =>
          have hrefused : RaftEventBuffer.step encoding options buffer (.drain timeoutMs) =
            buffer := by
            rw [RaftEventBuffer.step, EventBuffer.drain, if_neg htimeout]
          rw [hrefused]
          exact ⟨h, fun htruthful _ => htruthful⟩
  | drainElapsed index =>
      obtain ⟨htracks, hpromised⟩ := h.step_phases hbalanced (phasesKept_drainElapsed index)
      exact ⟨htracks, fun htruthful _ => hpromised htruthful⟩
  | drainResumed index =>
      rw [watchRows]
      split
      · next hphase =>
          exact ⟨h.discard hphase hbalanced, fun htruthful hcondition =>
            h.callsTruthful_discard hphase (hcondition index rfl hphase) htruthful⟩
      · next hphase =>
          obtain ⟨htracks, hpromised⟩ := h.step_phases hbalanced (phasesKept_drainResumed hphase)
          exact ⟨htracks, fun htruthful _ => hpromised htruthful⟩
  | enqueue _ _ | reject _ | worker _ _ | exportResult _ _ | workerFinished =>
      exact hrows (callsKept_step encoding (by simp) (by simp) (by simp)) rfl

end Steps

/-- The call that the discarding one wakes goes on to report the buffer as drained. -/
theorem Tracks.untruthful (h : Tracks options buffer rows) (encoding : RowEncoding R)
    {input : EventBufferInput R} (hinput : ¬ NoRacingTimeout buffer input) :
    ∃ index, ¬ ReceiptsTruthful (run (instrument (RaftEventBuffer.step encoding options)
      (watchRows encoding options)) (buffer, rows) [input, .drainResumed index]) := by
  rw [NoRacingTimeout] at hinput
  push Not at hinput
  obtain ⟨index, rfl, helapsed, hpending, hracing⟩ := hinput
  obtain ⟨racer, hracer⟩ := List.mem_iff_getElem?.mp hracing
  obtain ⟨-, -, receipt, -, hdrains⟩ := drainResumed_elapsed helapsed
  have hne : index ≠ racer := by
    rintro rfl
    rw [helapsed] at hracer
    cases hracer
  have hemptied : (buffer.drainResumed index).drains[racer]? = some .emptied := by
    rw [hdrains, List.getElem?_map, List.getElem?_set_ne hne, hracer]
    rfl
  have hlength : racer < rows.calls.length := by
    rw [h.calls]
    exact (List.getElem?_eq_some_iff.mp hracer).1
  obtain ⟨row, hrow⟩ := List.exists_mem_of_length_pos (h.length_pending.symm ▸ hpending)
  have hrun : run (instrument (RaftEventBuffer.step encoding options)
      (watchRows encoding options)) (buffer, rows) [.drainResumed index, .drainResumed racer] =
      ((buffer.drainResumed index).drainResumed racer, rows.discard) := by
    simp [run_cons, instrument, watchRows, RaftEventBuffer.step, helapsed, hemptied]
  have hreturned : ((buffer.drainResumed index).drainResumed racer).drains[racer]? =
      some (.returned .drained) := by
    have hbound := (List.getElem?_eq_some_iff.mp hemptied).1
    rw [EventBuffer.drainResumed, hemptied]
    exact List.getElem?_set_self hbound
  refine ⟨racer, fun htruthful => ?_⟩
  rw [hrun] at htruthful
  refine htruthful racer rows.calls[racer] (List.getElem?_eq_getElem hlength) hreturned row ?_ ?_
  · exact h.started _ (List.getElem_mem hlength) hrow
  · exact List.mem_append_right _ hrow

end EventBuffer

/-! ## Runs -/

section Runs

variable (encoding : RowEncoding R) (options : ValidOptions) (nowMs : ℚ)

theorem tracks_run (inputs : List (EventBufferInput R)) :
    EventBuffer.Tracks options (watchedRun encoding options nowMs inputs).1
      (watchedRun encoding options nowMs inputs).2 :=
  run_invariant (fun state : EventBuffer R × RowNumbers =>
    EventBuffer.Tracks options state.1 state.2) inputs
    (fun _ input h => (h.step encoding input).1) (EventBuffer.tracks_create options nowMs)

theorem callsTruthful_run {inputs : List (EventBufferInput R)}
    (hadmitted : Admitted (step encoding options) NoRacingTimeout
      (createEventBuffer options nowMs) inputs) :
    EventBuffer.CallsTruthful (watchedRun encoding options nowMs inputs).1
      (watchedRun encoding options nowMs inputs).2 := by
  have hwatched : Admitted (instrument (step encoding options) (watchRows encoding options))
      (fun state => NoRacingTimeout state.1) (createEventBuffer options nowMs, .empty) inputs :=
    admitted_instrument.mpr hadmitted
  refine (hwatched.invariant (fun state => EventBuffer.Tracks options state.1 state.2 ∧
    EventBuffer.CallsTruthful state.1 state.2) ?_ ⟨EventBuffer.tracks_create options nowMs, ?_⟩).2
  · rintro ⟨buffer, rows⟩ input ⟨htracks, htruthful⟩ hcondition
    obtain ⟨hnext, hpromised⟩ := htracks.step encoding input
    exact ⟨hnext, hpromised htruthful hcondition⟩
  · intro index call phase hcall
    cases hcall

/-- Drained receipts are truthful in every run in which no drain discards rows while another call
races; in any other run the woken call's receipt is not. -/
theorem drained_receipts_truthful (inputs : List (EventBufferInput R)) :
    (Admitted (step encoding options) NoRacingTimeout (createEventBuffer options nowMs) inputs →
        ReceiptsTruthful (watchedRun encoding options nowMs inputs)) ∧
      (¬ Admitted (step encoding options) NoRacingTimeout (createEventBuffer options nowMs) inputs →
        ∃ before index, before <+: inputs ∧
          ¬ ReceiptsTruthful
            (watchedRun encoding options nowMs (before ++ [.drainResumed index]))) := by
  constructor
  · intro hadmitted index call hcall hphase
    exact callsTruthful_run encoding options nowMs hadmitted index call _ hcall hphase rfl
  · intro hrefused
    rw [admitted_iff_forall_step] at hrefused
    push Not at hrefused
    obtain ⟨before, input, hstarts, hracing⟩ := hrefused
    have htracks := tracks_run encoding options nowMs before
    have hbuffer : (watchedRun encoding options nowMs before).1 =
        run (step encoding options) (createEventBuffer options nowMs) before :=
      run_instrument_fst _ _ _
    rw [← hbuffer] at hracing
    obtain ⟨index, huntruthful⟩ := htracks.untruthful encoding hracing
    refine ⟨before ++ [input], index, hstarts, ?_⟩
    rw [watchedRun, List.append_assoc, run_append]
    exact huntruthful

/-- Two drain calls while a row is in flight; the time of the first is up. -/
def twoDrains : List (EventBufferInput Unit) :=
  [.enqueue (unitEnvelope 1) fun _ => 0, .worker 0 0, .drain (.finite 100), .worker 1 1,
    .drain (.finite 9000), .drainElapsed 0, .drainResumed 0, .drainResumed 1]

theorem second_drain_untruthful :
    (watchedRun unitEncoding twoPerSecond 0 twoDrains).1.drains =
        [.returned (.timedOut 1 0 1), .returned .drained] ∧
      (watchedRun unitEncoding twoPerSecond 0 twoDrains).2.calls = [[0], [0]] ∧
      (watchedRun unitEncoding twoPerSecond 0 twoDrains).2.discarded = [0] ∧
      ¬ ∀ inputs, ReceiptsTruthful (watchedRun unitEncoding twoPerSecond 0 inputs) := by
  have hdrains : (watchedRun unitEncoding twoPerSecond 0 twoDrains).1.drains =
      [.returned (.timedOut 1 0 1), .returned .drained] := by decide +kernel
  have hcalls : (watchedRun unitEncoding twoPerSecond 0 twoDrains).2.calls = [[0], [0]] := by
    decide +kernel
  have hdiscarded : (watchedRun unitEncoding twoPerSecond 0 twoDrains).2.discarded = [0] := by
    decide +kernel
  refine ⟨hdrains, hcalls, hdiscarded, fun htruthful => ?_⟩
  refine htruthful twoDrains 1 [0] (by rw [hcalls]; rfl) (by rw [hdrains]; rfl) 0 ?_ ?_
  · exact List.mem_singleton_self 0
  · rw [hdiscarded]
    exact List.mem_singleton_self 0

end Runs

end Raft.RaftEventBuffer
