import Mathlib.Tactic.FieldSimp
import Mathlib.Tactic.Linarith
import Raft.RaftEventBuffer.Control

/-!
# The rate of export attempts

An attempt empties the bucket, and the next one needs a whole token.  What the
bucket gains is bounded by the time since it was emptied, however often it is
refilled in between, so attempts keep their distance through every wake-up.
-/

namespace Raft.RaftEventBuffer

open Raft.Foundation

variable {R : Type}

/-! ## The bucket -/

namespace SingleTokenBucket

/-- The bucket holds no more than it can have gained since it was empty. -/
structure EmptiedAt (bucket : SingleTokenBucket) (time : ℚ) : Prop where
  time_le : time ≤ bucket.lastRefillMs
  tokens_le : bucket.tokens ≤ (bucket.lastRefillMs - time) / 1000 * bucket.ratePerSecond

variable {bucket : SingleTokenBucket} {time now : ℚ}

@[simp] theorem ratePerSecond_refill (now : ℚ) :
    (bucket.refill now).ratePerSecond = bucket.ratePerSecond := rfl

@[simp] theorem lastRefillMs_refill (now : ℚ) : (bucket.refill now).lastRefillMs = now := rfl

@[simp] theorem ratePerSecond_consume (now : ℚ) :
    (bucket.consume now).ratePerSecond = bucket.ratePerSecond := rfl

@[simp] theorem lastRefillMs_consume (now : ℚ) : (bucket.consume now).lastRefillMs = now := rfl

theorem tokens_consume (now : ℚ) : (bucket.consume now).tokens = 0 := by
  have hle : (bucket.refill now).tokens ≤ 1 := min_le_left _ _
  exact max_eq_left (by linarith)

theorem emptiedAt_consume (now : ℚ) : (bucket.consume now).EmptiedAt now where
  time_le := le_refl _
  tokens_le := by rw [tokens_consume, lastRefillMs_consume, sub_self, zero_div, zero_mul]

theorem EmptiedAt.refill (h : bucket.EmptiedAt time) (hnow : bucket.lastRefillMs ≤ now) :
    (bucket.refill now).EmptiedAt time where
  time_le := h.time_le.trans hnow
  tokens_le := by
    have hgained : (bucket.refill now).tokens ≤
        bucket.tokens + (now - bucket.lastRefillMs) / 1000 * bucket.ratePerSecond := by
      refine (min_le_right _ _).trans_eq ?_
      rw [max_eq_right (sub_nonneg.mpr hnow)]
    have htokens := h.tokens_le
    rw [lastRefillMs_refill, ratePerSecond_refill]
    calc (bucket.refill now).tokens
        ≤ (bucket.lastRefillMs - time) / 1000 * bucket.ratePerSecond +
            (now - bucket.lastRefillMs) / 1000 * bucket.ratePerSecond := by linarith
      _ = (now - time) / 1000 * bucket.ratePerSecond := by ring

theorem full_of_waitMs (hrate : 0 < bucket.ratePerSecond) (h : ¬ bucket.waitMs > 0) :
    1 ≤ bucket.tokens := by
  by_contra htokens
  have hmissing : 0 < (1 - bucket.tokens) / bucket.ratePerSecond * 1000 := by
    have hgap : 0 < 1 - bucket.tokens := by linarith
    positivity
  rw [waitMs, if_neg htokens] at h
  exact h (by exact_mod_cast Int.ceil_pos.mpr hmissing)

theorem EmptiedAt.spaced (h : bucket.EmptiedAt time) (hrate : 0 < bucket.ratePerSecond)
    (hfull : 1 ≤ bucket.tokens) : time + 1000 / bucket.ratePerSecond ≤ bucket.lastRefillMs := by
  have hgained := hfull.trans h.tokens_le
  have hwait : 1000 / bucket.ratePerSecond ≤ bucket.lastRefillMs - time := by
    rw [div_le_iff₀ hrate]
    linarith
  linarith

end SingleTokenBucket

/-! ## Attempts -/

/-- When the step hands a batch to the exporter, as the clock read at that moment. -/
def attemptTime (encoding : RowEncoding R) (options : ValidOptions) (buffer : EventBuffer R)
    (input : EventBufferInput R) : Option ℚ :=
  match input, buffer.rowEvent encoding options input with
  | .worker _ consumeNow, .attempted _ => some consumeNow
  | _, _ => none

def watchAttempts (encoding : RowEncoding R) (options : ValidOptions) (buffer : EventBuffer R)
    (times : List ℚ) (input : EventBufferInput R) : List ℚ :=
  times ++ (attemptTime encoding options buffer input).toList

def attemptTimes (encoding : RowEncoding R) (options : ValidOptions) (nowMs : ℚ)
    (inputs : List (EventBufferInput R)) : List ℚ :=
  (run (instrument (step encoding options) (watchAttempts encoding options))
    (createEventBuffer options nowMs, []) inputs).2

def EventBufferInput.bucketReadings : EventBufferInput R → List ℚ
  | .worker waitNow consumeNow => [waitNow, consumeNow]
  | .enqueue _ _ | .reject _ | .exportResult _ _ | .workerFinished | .drain _ | .drainElapsed _
  | .drainResumed _ => []

def ClockForward (nowMs : ℚ) (inputs : List (EventBufferInput R)) : Prop :=
  (nowMs :: inputs.flatMap EventBufferInput.bucketReadings).Pairwise (· ≤ ·)

namespace EventBuffer

variable {options : ValidOptions} {buffer : EventBuffer R}

theorem bucket_step (encoding : RowEncoding R) (input : EventBufferInput R) :
    (∃ waitNow consumeNow, input = .worker waitNow consumeNow ∧
        step encoding options buffer input = buffer.runWorker options waitNow consumeNow ∧
        attemptTime encoding options buffer input =
          (buffer.runWorker options waitNow consumeNow).worker.attempt.map fun _ => consumeNow) ∨
      ((step encoding options buffer input).bucket = buffer.bucket ∧
        attemptTime encoding options buffer input = none) := by
  cases input with
  | worker waitNow consumeNow =>
      cases hworker : buffer.worker with
      | looping | sleeping =>
          refine Or.inl ⟨waitNow, consumeNow, rfl, by simp only [step, hworker], ?_⟩
          simp only [attemptTime, rowEvent, hworker, workerEvent]
          cases (buffer.runWorker options waitNow consumeNow).worker <;> rfl
      | absent | exporting _ | finishing =>
          exact Or.inr ⟨by simp only [step, hworker], by simp only [attemptTime, rowEvent, hworker]⟩
  | enqueue envelope clock =>
    exact Or.inr ⟨(sameControl_enqueue buffer encoding options envelope clock).bucket, rfl⟩
  | reject reason => exact Or.inr ⟨rfl, rfl⟩
  | exportResult result now =>
      refine Or.inr ⟨?_, rfl⟩
      rw [step]
      split
      · exact (settles_resume buffer options _ result now).bucket
      all_goals rfl
  | workerFinished =>
      refine Or.inr ⟨?_, rfl⟩
      rw [step]
      split
      · exact (settles_workerFinished buffer).bucket
      all_goals rfl
  | drain timeoutMs => exact Or.inr ⟨bucket_drain buffer timeoutMs, rfl⟩
  | drainElapsed index => exact Or.inr ⟨rfl, rfl⟩
  | drainResumed index => exact Or.inr ⟨bucket_drainResumed buffer index, rfl⟩

/-- Where there is nothing to wait for, a whole token was there. -/
theorem waitBeforeNextAttemptMs_bucket (now : ℚ) :
    ((waitBeforeNextAttemptMs options buffer now).1 > 0 ∧
        ((waitBeforeNextAttemptMs options buffer now).2 = buffer.bucket ∨
          (waitBeforeNextAttemptMs options buffer now).2 = buffer.bucket.refill now)) ∨
      (¬ (waitBeforeNextAttemptMs options buffer now).1 > 0 ∧
        ¬ (buffer.bucket.refill now).waitMs > 0 ∧
        (waitBeforeNextAttemptMs options buffer now).2 = buffer.bucket.refill now) := by
  rw [waitBeforeNextAttemptMs]
  by_cases hblocked : buffer.blockedUntilMs > now
  · rw [if_pos hblocked]
    exact Or.inl ⟨sub_pos.mpr hblocked, Or.inl rfl⟩
  · rw [if_neg hblocked]
    by_cases hwait : (buffer.bucket.refill now).waitMs > 0
    · simp only [if_pos hwait]
      exact Or.inl ⟨hwait, Or.inr trivial⟩
    · simp only [if_neg hwait]
      split
      · exact Or.inr ⟨lt_irrefl _, hwait, rfl⟩
      · rcases lt_or_ge 0 (max 0 ((buffer.queue.head?.map QueueEntry.enqueuedAtMs).getD now +
          options.maxBatchAgeMs - now)) with hage | hage
        · exact Or.inl ⟨hage, Or.inr rfl⟩
        · exact Or.inr ⟨not_lt.mpr hage, hwait, rfl⟩

theorem bucket_runWorker (waitNow consumeNow : ℚ) :
    ((buffer.runWorker options waitNow consumeNow).worker.attempt = none ∧
        ((buffer.runWorker options waitNow consumeNow).bucket = buffer.bucket ∨
          (buffer.runWorker options waitNow consumeNow).bucket = buffer.bucket.refill waitNow)) ∨
      ((buffer.runWorker options waitNow consumeNow).worker.attempt.isSome ∧
        ¬ (buffer.bucket.refill waitNow).waitMs > 0 ∧
        (buffer.runWorker options waitNow consumeNow).bucket =
          (buffer.bucket.refill waitNow).consume consumeNow) := by
  rw [runWorker]
  split
  · exact Or.inl ⟨rfl, Or.inl rfl⟩
  · rcases @waitBeforeNextAttemptMs_bucket R options buffer waitNow with
      ⟨hwait, hbucket⟩ | ⟨hready, hfull, hbucket⟩
    · simp only [if_pos hwait]
      exact Or.inl ⟨rfl, hbucket⟩
    · simp only [if_neg hready]
      exact Or.inr ⟨rfl, hfull, congrArg (SingleTokenBucket.consume · consumeNow) hbucket⟩

end EventBuffer

/-! ## Runs -/

section Runs

variable {options : ValidOptions} {buffer : EventBuffer R} {times : List ℚ}

structure Paced (options : ValidOptions) (buffer : EventBuffer R) (times : List ℚ) : Prop where
  rate : buffer.bucket.ratePerSecond = options.maxQps
  spaced : times.IsChain fun earlier later => earlier + 1000 / options.maxQps ≤ later
  emptied : ∀ last ∈ times.getLast?, buffer.bucket.EmptiedAt last

theorem paced_create (options : ValidOptions) (nowMs : ℚ) :
    Paced options (createEventBuffer options nowMs : EventBuffer R) [] where
  rate := rfl
  spaced := .nil
  emptied := by simp

theorem Paced.of_bucket (h : Paced options buffer times) {next : EventBuffer R}
    (hbucket : next.bucket = buffer.bucket) : Paced options next times where
  rate := by rw [hbucket, h.rate]
  spaced := h.spaced
  emptied := by rw [hbucket]; exact h.emptied

theorem Paced.refill (h : Paced options buffer times) {next : EventBuffer R} {now : ℚ}
    (hnow : buffer.bucket.lastRefillMs ≤ now) (hbucket : next.bucket = buffer.bucket.refill now) :
    Paced options next times where
  rate := by rw [hbucket, SingleTokenBucket.ratePerSecond_refill, h.rate]
  spaced := h.spaced
  emptied := by
    rw [hbucket]
    exact fun last hlast => (h.emptied last hlast).refill hnow

theorem Paced.attempt (h : Paced options buffer times) {next : EventBuffer R} {now : ℚ}
    (hnow : buffer.bucket.lastRefillMs ≤ now) (hready : ¬ buffer.bucket.waitMs > 0)
    (hbucket : next.bucket = buffer.bucket.consume now) : Paced options next (times ++ [now]) where
  rate := by rw [hbucket, SingleTokenBucket.ratePerSecond_consume, h.rate]
  spaced := by
    have hrate : 0 < buffer.bucket.ratePerSecond := by rw [h.rate]; exact options.maxQps_pos
    refine List.isChain_append.mpr ⟨h.spaced, .singleton _, ?_⟩
    intro last hlast first hfirst
    obtain rfl : now = first := by simpa using hfirst
    have hspaced := (h.emptied last hlast).spaced hrate
      (SingleTokenBucket.full_of_waitMs hrate hready)
    rw [← h.rate]
    exact hspaced.trans hnow
  emptied := by
    rw [hbucket]
    intro last hlast
    obtain rfl : now = last := by simpa using hlast
    exact SingleTokenBucket.emptiedAt_consume now

theorem Paced.step (h : Paced options buffer times) (encoding : RowEncoding R)
    (input : EventBufferInput R) {rest : List ℚ}
    (hclock : (buffer.bucket.lastRefillMs :: (input.bucketReadings ++ rest)).Pairwise (· ≤ ·)) :
    Paced options (RaftEventBuffer.step encoding options buffer input)
        (watchAttempts encoding options buffer times input) ∧
      ((RaftEventBuffer.step encoding options buffer input).bucket.lastRefillMs :: rest).Pairwise
        (· ≤ ·) := by
  rcases @EventBuffer.bucket_step R options buffer encoding input with
    ⟨waitNow, consumeNow, rfl, hstep, htime⟩ | ⟨hbucket, htime⟩
  · rw [hstep, watchAttempts, htime]
    simp only [EventBufferInput.bucketReadings, List.cons_append, List.nil_append,
      List.pairwise_cons, List.forall_mem_cons] at hclock
    obtain ⟨⟨hwait, -, hrest⟩, ⟨hconsume, hwaitRest⟩, hconsumeRest, hsorted⟩ := hclock
    rcases @EventBuffer.bucket_runWorker R options buffer waitNow consumeNow with
      ⟨hnone, hbucket | hbucket⟩ | ⟨hsome, hready, hbucket⟩
    · rw [hnone, hbucket]
      exact ⟨by simpa using h.of_bucket hbucket, List.pairwise_cons.mpr ⟨hrest, hsorted⟩⟩
    · rw [hnone, hbucket]
      exact ⟨by simpa using h.refill hwait hbucket, List.pairwise_cons.mpr ⟨hwaitRest, hsorted⟩⟩
    · obtain ⟨batch, hbatch⟩ := Option.isSome_iff_exists.mp hsome
      have hrefilled : Paced options { buffer with bucket := buffer.bucket.refill waitNow } times :=
        h.refill hwait rfl
      rw [hbatch, hbucket]
      exact ⟨hrefilled.attempt hconsume hready hbucket,
        List.pairwise_cons.mpr ⟨hconsumeRest, hsorted⟩⟩
  · rw [watchAttempts, htime, hbucket]
    have hrest : rest.Sublist (input.bucketReadings ++ rest) := List.sublist_append_right _ _
    exact ⟨(by simpa using h.of_bucket hbucket), hclock.sublist (hrest.cons_cons _)⟩

theorem Paced.run (h : Paced options buffer times) (encoding : RowEncoding R)
    (inputs : List (EventBufferInput R))
    (hclock : (buffer.bucket.lastRefillMs ::
      inputs.flatMap EventBufferInput.bucketReadings).Pairwise (· ≤ ·)) :
    Paced options
      (Foundation.run (instrument (RaftEventBuffer.step encoding options)
        (watchAttempts encoding options)) (buffer, times) inputs).1
      (Foundation.run (instrument (RaftEventBuffer.step encoding options)
        (watchAttempts encoding options)) (buffer, times) inputs).2 := by
  induction inputs generalizing buffer times with
  | nil => exact h
  | cons input inputs ih =>
      rw [List.flatMap_cons] at hclock
      obtain ⟨hpaced, hrest⟩ := h.step encoding input hclock
      rw [run_cons]
      exact ih hpaced hrest

theorem spaced_window {gap first last : ℚ} {window : List ℚ}
    (h : window.IsChain fun earlier later => earlier + gap ≤ later)
    (hfirst : window.head? = some first) (hlast : window.getLast? = some last) :
    ((window.length : ℚ) - 1) * gap ≤ last - first := by
  induction window generalizing first with
  | nil => cases hfirst
  | cons time window ih =>
      obtain rfl : time = first := by simpa using hfirst
      cases window with
      | nil =>
          obtain rfl : time = last := by simpa using hlast
          simp
      | cons next window =>
          obtain ⟨hstep, hrest⟩ := List.isChain_cons_cons.mp h
          have hwindow := ih hrest rfl (by simpa using hlast)
          simp only [List.length_cons] at hwindow ⊢
          push_cast at hwindow ⊢
          linarith

/-- Between the first and the last of any consecutive export attempts lies at least the time in
which the bucket gains a token for each but the first. -/
theorem export_rate_ceiling (encoding : RowEncoding R) (options : ValidOptions) {nowMs : ℚ}
    {inputs : List (EventBufferInput R)} (hclock : ClockForward nowMs inputs)
    {window : List ℚ} (hwindow : window <:+: attemptTimes encoding options nowMs inputs)
    {first last : ℚ} (hfirst : window.head? = some first) (hlast : window.getLast? = some last) :
    ((window.length : ℚ) - 1) * 1000 / options.maxQps ≤ last - first := by
  have hpaced := (paced_create (R := R) options nowMs).run encoding inputs hclock
  rw [mul_div_assoc]
  exact spaced_window ( List.IsChain.infix hpaced.spaced hwindow) hfirst hlast

def twoPerSecond : ValidOptions where
  maxQueueRows := 10
  maxQueueBytes := 100
  maxBatchRows := 1
  maxBatchBytes := 100
  maxBatchAgeMs := 10
  maxQps := 2
  rateLimitBackoffMs := 1
  maxRateLimitBackoffMs := 1
  maxBatchRows_pos := by decide
  maxBatchBytes_pos := by decide
  maxBatchAgeMs_pos := by decide
  maxQps_pos := by decide
  maxQps_le := by decide
  maxBatchRows_le := by decide
  maxBatchBytes_le := by decide
  rateLimitBackoffMs_pos := by decide
  rateLimitBackoffMs_le := by decide

def unitEncoding : RowEncoding Unit := ⟨fun _ => true, fun _ => some 1⟩

def unitEnvelope (rows : Nat) : EventBufferEnvelope Unit :=
  ⟨EventBuffer.TRACE_EVENT_ROW_V2_TABLE, EventBuffer.TRACE_EVENT_ROW_V2_SCHEMA_FINGERPRINT,
    List.replicate rows ()⟩

/-- Two rows, one a batch: woken too early, the worker sleeps on. -/
def twoExports : List (EventBufferInput Unit) :=
  [.enqueue (unitEnvelope 2) fun _ => 0, .drain (.finite 9000), .worker 0 0,
    .exportResult (.committed (.finite 1)) 20, .worker 300 300, .worker 500 500]

theorem export_rate_ceiling_two_exports :
    ((([0, 500] : List ℚ).length : ℚ) - 1) * 1000 / twoPerSecond.maxQps ≤ 500 - 0 := by
  have htimes : attemptTimes unitEncoding twoPerSecond 0 twoExports = [0, 500] := by decide +kernel
  have hclock : ClockForward 0 twoExports := by
    rw [ClockForward]
    decide +kernel
  exact export_rate_ceiling unitEncoding twoPerSecond hclock (htimes ▸ List.infix_refl _) rfl rfl

end Runs

end Raft.RaftEventBuffer
