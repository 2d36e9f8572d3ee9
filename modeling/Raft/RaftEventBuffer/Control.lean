import Raft.RaftEventBuffer.Ledger

/-!
# Calls and the token bucket

What moves rows about leaves the token bucket, the abandon flag and the drain
calls alone, except that the racing calls are settled once nothing is pending.
-/

namespace Raft.RaftEventBuffer

open Raft.Foundation

variable {R : Type}

namespace EventBuffer

structure SameControl (first second : EventBuffer R) : Prop where
  bucket : first.bucket = second.bucket
  abandonInFlight : first.abandonInFlight = second.abandonInFlight
  drains : first.drains = second.drains

/-- As after a possible `notifyEmpty`. -/
structure Settles (next buffer : EventBuffer R) : Prop where
  bucket : next.bucket = buffer.bucket
  abandonInFlight : next.abandonInFlight = buffer.abandonInFlight
  drains : next.drains = buffer.drains ∨
    (next.pendingRows = 0 ∧ next.drains =
      buffer.drains.map fun phase => if phase = .racing then .emptied else phase)

theorem SameControl.refl (buffer : EventBuffer R) : SameControl buffer buffer := ⟨rfl, rfl, rfl⟩

theorem SameControl.trans {first second third : EventBuffer R} (h : SameControl first second)
    (h' : SameControl second third) : SameControl first third where
  bucket := h.bucket.trans h'.bucket
  abandonInFlight := h.abandonInFlight.trans h'.abandonInFlight
  drains := h.drains.trans h'.drains

theorem SameControl.settles {next buffer : EventBuffer R} (h : SameControl next buffer) :
    Settles next buffer :=
  ⟨h.bucket, h.abandonInFlight, Or.inl h.drains⟩

theorem SameControl.notifyEmpty {next buffer : EventBuffer R} (h : SameControl next buffer) :
    Settles next.notifyEmpty buffer := by
  rw [EventBuffer.notifyEmpty]
  split
  · exact h.settles
  · next hempty =>
      exact ⟨h.bucket, h.abandonInFlight,
        Or.inr ⟨Nat.eq_zero_of_not_pos hempty, by rw [h.drains]⟩⟩

section Operations

variable (buffer : EventBuffer R)

theorem sameControl_wake : SameControl buffer.wake buffer := by
  rw [wake]
  split
  all_goals exact ⟨rfl, rfl, rfl⟩

theorem sameControl_ensureWorker : SameControl buffer.ensureWorker buffer := by
  rw [ensureWorker]
  split
  · split
    all_goals exact ⟨rfl, rfl, rfl⟩
  all_goals exact .refl buffer

theorem sameControl_acceptEntries (accepted : List (QueueEntry R)) :
    SameControl (buffer.acceptEntries accepted) buffer :=
  ((sameControl_ensureWorker _).trans (sameControl_wake _)).trans ⟨rfl, rfl, rfl⟩

theorem sameControl_enqueue (encoding : RowEncoding R) (options : ValidOptions)
    (envelope : EventBufferEnvelope R) (clock : Nat → ℚ) :
    SameControl (buffer.enqueue encoding options envelope clock).1 buffer := by
  rw [enqueue]
  split
  · exact ⟨rfl, rfl, rfl⟩
  · split
    · exact ⟨rfl, rfl, rfl⟩
    · simp only
      split
      · split
        all_goals exact ⟨rfl, rfl, rfl⟩
      · split
        all_goals
          split
          · exact ⟨rfl, rfl, rfl⟩
          · exact (sameControl_acceptEntries _ _).trans ⟨rfl, rfl, rfl⟩

theorem settles_resume (options : ValidOptions) (batch : List (QueueEntry R))
    (result : EventBufferExportResult) (now : ℚ) :
    Settles (buffer.resume options batch result now) buffer := by
  rw [resume]
  split
  · exact SameControl.settles ⟨rfl, rfl, rfl⟩
  · refine SameControl.notifyEmpty ?_
    cases result
    all_goals exact ⟨rfl, rfl, rfl⟩

theorem settles_workerFinished : Settles buffer.workerFinished buffer := by
  have hstarted : SameControl ({ buffer with worker := .absent } : EventBuffer R).ensureWorker
      buffer := (sameControl_ensureWorker _).trans ⟨rfl, rfl, rfl⟩
  rw [workerFinished]
  simp only
  split
  · exact hstarted.notifyEmpty
  · exact SameControl.notifyEmpty ⟨rfl, rfl, rfl⟩

theorem runWorker_control (options : ValidOptions) (waitNow consumeNow : ℚ) :
    (buffer.runWorker options waitNow consumeNow).abandonInFlight = buffer.abandonInFlight ∧
      (buffer.runWorker options waitNow consumeNow).drains = buffer.drains := by
  rw [runWorker]
  split
  · exact ⟨rfl, rfl⟩
  · simp only
    split
    all_goals exact ⟨rfl, rfl⟩

theorem bucket_drain (timeoutMs : JsNumber) : (buffer.drain timeoutMs).bucket = buffer.bucket := by
  rw [drain]
  split
  · exact ((sameControl_ensureWorker _).trans (sameControl_wake _)).bucket
  · rfl

theorem bucket_drainResumed (index : Nat) :
    (buffer.drainResumed index).bucket = buffer.bucket := by
  rw [drainResumed]
  split
  · rfl
  · exact ((sameControl_wake _).notifyEmpty).bucket
  all_goals rfl

end Operations

end EventBuffer

end Raft.RaftEventBuffer
