import Mathlib.Data.List.Range
import Raft.Concurrency.ConcurrencyLimiter

/-!
# Mapping with bounded concurrency

The workers share one index.  Each awaits the promise of the item it took, writes
its value and takes the next item; a rejection ends the worker and rejects the
whole call.  What the promise of an item comes to is fixed by the item, and which
pending promise settles next is the environment's choice.
-/

namespace Raft.Concurrency

open Raft.Foundation

variable {R E : Type}

inductive WorkerPhase where
  /-- At the head of the loop; no worker is left there when the others run. -/
  | looping
  | working (index : Nat)
  | returned
  | failed
  deriving DecidableEq

def WorkerPhase.isWorking : WorkerPhase → Bool
  | .working _ => true
  | .looping | .returned | .failed => false

structure MapWithConcurrency (R E : Type) where
  /-- `items.length` -/
  length : Nat
  next : Nat
  /-- `results`, with `none` for a hole. -/
  results : List (Option R)
  workers : List WorkerPhase
  /-- The first rejection of a worker. -/
  rejected : Option E

namespace MapWithConcurrency

/-- A worker goes on from the head of its loop to its next `await`, or returns. -/
def advance (state : MapWithConcurrency R E) (worker : Nat) : MapWithConcurrency R E :=
  if state.next < state.length then
    { state with
      next := state.next + 1
      workers := state.workers.set worker (.working state.next) }
  else { state with workers := state.workers.set worker .returned }

def workerCount (limit : ℚ) (length : Nat) : Nat := (max 1 (min (trunc limit) length)).toNat

/-- The state in which `Array.from` starts the first of `count` workers. -/
def created (count length : Nat) : MapWithConcurrency R E :=
  ⟨length, 0, List.replicate length none, List.replicate count .looping, none⟩

def mapWithConcurrency (length : Nat) (limit : ℚ) : MapWithConcurrency R E :=
  (List.range (workerCount limit length)).foldl advance (created (workerCount limit length) length)

def write (state : MapWithConcurrency R E) (worker index : Nat) (value : R) :
    MapWithConcurrency R E :=
  { state with
    results := state.results.set index (some value)
    workers := state.workers.set worker .looping }

def reject (state : MapWithConcurrency R E) (worker : Nat) (reason : E) : MapWithConcurrency R E :=
  { state with
    workers := state.workers.set worker .failed
    rejected := state.rejected.or (some reason) }

def settle (outcome : Nat → Except E R) (state : MapWithConcurrency R E) (worker : Nat) :
    MapWithConcurrency R E :=
  match state.workers[worker]? with
  | some (.working index) =>
      match outcome index with
      | .ok value => (state.write worker index value).advance worker
      | .error reason => state.reject worker reason
  | some .looping | some .returned | some .failed | none => state

/-- What the call has come to: `Promise.all` rejects with the first rejection, and fulfils when
every worker has returned. -/
def promise (state : MapWithConcurrency R E) : Option (Except E (List (Option R))) :=
  match state.rejected with
  | some reason => some (.error reason)
  | none => if ∀ worker ∈ state.workers, worker = .returned then some (.ok state.results) else none

/-! ## The items in flight -/

theorem getElem?_set_phase {workers : List WorkerPhase} {worker other : Nat}
    {phase found : WorkerPhase} (h : (workers.set worker phase)[other]? = some found) :
    (other = worker ∧ found = phase) ∨ (other ≠ worker ∧ workers[other]? = some found) := by
  rw [List.getElem?_set] at h
  split at h
  · rename_i heq
    split at h
    · exact .inl ⟨heq.symm, (Option.some.inj h).symm⟩
    · cases h
  · rename_i hne
    exact .inr ⟨fun heq => hne heq.symm, h⟩

structure InFlight (workers : List WorkerPhase) (next : Nat) : Prop where
  lt : ∀ (worker index : Nat), workers[worker]? = some (.working index) → index < next
  once : ∀ (first second index : Nat), workers[first]? = some (.working index) →
    workers[second]? = some (.working index) → first = second

variable {workers : List WorkerPhase} {worker next : Nat}

theorem mem_of_mem_set {phase found : WorkerPhase} (h : found ∈ workers.set worker phase)
    (hne : found ≠ phase) : found ∈ workers :=
  (List.mem_or_eq_of_mem_set h).resolve_right hne

theorem InFlight.leave (h : InFlight workers next) {phase : WorkerPhase}
    (hphase : ∀ index, phase ≠ .working index) : InFlight (workers.set worker phase) next where
  lt := by
    intro other index hother
    rcases getElem?_set_phase hother with ⟨-, heq⟩ | ⟨-, hkept⟩
    · exact absurd heq.symm (hphase index)
    · exact h.lt other index hkept
  once := by
    intro first second index hfirst hsecond
    rcases getElem?_set_phase hfirst with ⟨-, heq⟩ | ⟨-, hkept⟩
    · exact absurd heq.symm (hphase index)
    · rcases getElem?_set_phase hsecond with ⟨-, heq⟩ | ⟨-, hkeptSecond⟩
      · exact absurd heq.symm (hphase index)
      · exact h.once first second index hkept hkeptSecond

theorem InFlight.take (h : InFlight workers next) :
    InFlight (workers.set worker (.working next)) (next + 1) where
  lt := by
    intro other index hother
    rcases getElem?_set_phase hother with ⟨-, heq⟩ | ⟨-, hkept⟩
    · obtain rfl : index = next := by injection heq
      exact Nat.lt_succ_self _
    · exact Nat.lt_succ_of_lt (h.lt other index hkept)
  once := by
    intro first second index hfirst hsecond
    rcases getElem?_set_phase hfirst with ⟨rfl, heq⟩ | ⟨-, hkept⟩
    · obtain rfl : index = next := by injection heq
      rcases getElem?_set_phase hsecond with ⟨rfl, -⟩ | ⟨-, hkept⟩
      · rfl
      · exact absurd (h.lt second _ hkept) (Nat.lt_irrefl _)
    · rcases getElem?_set_phase hsecond with ⟨rfl, heq⟩ | ⟨-, hkeptSecond⟩
      · obtain rfl : index = next := by injection heq
        exact absurd (h.lt first _ hkept) (Nat.lt_irrefl _)
      · exact h.once first second index hkept hkeptSecond

theorem working_set {phase : WorkerPhase} {index : Nat}
    (hfree : workers[worker]? ≠ some (.working index))
    (h : ∃ other : Nat, workers[other]? = some (.working index)) :
    ∃ other : Nat, (workers.set worker phase)[other]? = some (.working index) := by
  obtain ⟨other, hother⟩ := h
  have hne : worker ≠ other := by
    rintro rfl
    exact hfree hother
  exact ⟨other, (List.getElem?_set_ne hne).trans hother⟩

/-! ## What every step keeps -/

variable {outcome : Nat → Except E R} {state : MapWithConcurrency R E}

structure Sound (outcome : Nat → Except E R) (state : MapWithConcurrency R E) : Prop where
  results_length : state.results.length = state.length
  next_le : state.next ≤ state.length
  inFlight : InFlight state.workers state.next
  /-- A worker returns when no item is left. -/
  exhausted : WorkerPhase.returned ∈ state.workers → state.next = state.length
  failed : WorkerPhase.failed ∈ state.workers → state.rejected.isSome
  /-- An item that was taken is in flight or written, unless the call has rejected. -/
  written : ∀ index < state.next,
    (∃ worker : Nat, state.workers[worker]? = some (.working index)) ∨
      (∃ value, outcome index = .ok value ∧ state.results[index]? = some (some value)) ∨
        state.rejected.isSome
  rejected : ∀ reason, state.rejected = some reason →
    ∃ index < state.length, outcome index = .error reason

theorem sound_created (count length : Nat) :
    Sound outcome (created count length : MapWithConcurrency R E) := by
  have hlooping : ∀ phase ∈ List.replicate count WorkerPhase.looping, phase = .looping :=
    fun phase hmem => List.eq_of_mem_replicate hmem
  have hidle : ∀ (worker index : Nat),
      (List.replicate count WorkerPhase.looping)[worker]? ≠ some (.working index) := by
    intro worker index h
    cases hlooping _ (List.mem_of_getElem? h)
  refine ⟨List.length_replicate, Nat.zero_le _, ⟨?_, ?_⟩, ?_, ?_, ?_, ?_⟩
  · exact fun worker index h => absurd h (hidle worker index)
  · exact fun first _ index h _ => absurd h (hidle first index)
  · exact fun h => by cases hlooping _ h
  · exact fun h => by cases hlooping _ h
  · exact fun index h => absurd h (Nat.not_lt_zero index)
  · exact fun reason h => by cases h

theorem Sound.advance (h : Sound outcome state) {worker : Nat}
    (hlooping : state.workers[worker]? = some .looping) : Sound outcome (state.advance worker) := by
  have hbound : worker < state.workers.length := (List.getElem?_eq_some_iff.mp hlooping).1
  have hfree : ∀ index, state.workers[worker]? ≠ some (.working index) := by
    intro index hindex
    rw [hlooping] at hindex
    cases hindex
  unfold MapWithConcurrency.advance
  split
  · rename_i hmore
    refine ⟨h.results_length, hmore, h.inFlight.take, ?_, ?_, ?_, h.rejected⟩
    · intro hmem
      have hkept := mem_of_mem_set hmem (by simp)
      exact absurd (h.exhausted hkept) (Nat.ne_of_lt hmore)
    · exact fun hmem => h.failed (mem_of_mem_set hmem (by simp))
    · intro index hindex
      by_cases hnew : index = state.next
      · subst hnew
        exact .inl ⟨worker, List.getElem?_set_self hbound⟩
      · have hbefore := Nat.lt_of_le_of_ne (Nat.le_of_lt_succ hindex) hnew
        exact (h.written index hbefore).imp_left (working_set (hfree index))
  · rename_i hnone
    have hend : state.next = state.length := Nat.le_antisymm h.next_le (Nat.le_of_not_lt hnone)
    refine ⟨h.results_length, h.next_le, h.inFlight.leave (by simp), fun _ => hend, ?_, ?_,
      h.rejected⟩
    · exact fun hmem => h.failed (mem_of_mem_set hmem (by simp))
    · exact fun index hindex => (h.written index hindex).imp_left (working_set (hfree index))

theorem Sound.write (h : Sound outcome state) {worker index : Nat} {value : R}
    (hworking : state.workers[worker]? = some (.working index))
    (houtcome : outcome index = .ok value) : Sound outcome (state.write worker index value) := by
  have hindex : index < state.results.length := by
    rw [h.results_length]
    exact Nat.lt_of_lt_of_le (h.inFlight.lt worker index hworking) h.next_le
  refine ⟨List.length_set.trans h.results_length, h.next_le, h.inFlight.leave (by simp), ?_, ?_, ?_,
    h.rejected⟩
  · exact fun hmem => h.exhausted (mem_of_mem_set hmem (by simp))
  · exact fun hmem => h.failed (mem_of_mem_set hmem (by simp))
  · intro other hother
    by_cases hsame : index = other
    · subst hsame
      exact .inr (.inl ⟨value, houtcome, List.getElem?_set_self hindex⟩)
    · rcases h.written other hother with hflight | ⟨found, hfound, hresult⟩ | hrejected
      · refine .inl (working_set ?_ hflight)
        rw [hworking]
        exact fun heq => hsame (by injection heq with heq; injection heq)
      · exact .inr (.inl ⟨found, hfound, (List.getElem?_set_ne hsame).trans hresult⟩)
      · exact .inr (.inr hrejected)

theorem Sound.reject (h : Sound outcome state) {worker index : Nat} {reason : E}
    (hworking : state.workers[worker]? = some (.working index))
    (houtcome : outcome index = .error reason) : Sound outcome (state.reject worker reason) := by
  have hsome : (state.rejected.or (some reason)).isSome := by
    rw [Option.isSome_or]
    exact Bool.or_true _
  refine ⟨h.results_length, h.next_le, h.inFlight.leave (by simp), ?_, fun _ => hsome,
    fun _ _ => .inr (.inr hsome), ?_⟩
  · exact fun hmem => h.exhausted (mem_of_mem_set hmem (by simp))
  · intro found hfound
    rcases Option.or_eq_some_iff.mp hfound with hbefore | ⟨-, hnew⟩
    · exact h.rejected found hbefore
    · obtain rfl := Option.some.inj hnew
      exact ⟨index, Nat.lt_of_lt_of_le (h.inFlight.lt worker index hworking) h.next_le, houtcome⟩

theorem Sound.settle (h : Sound outcome state) (worker : Nat) :
    Sound outcome (state.settle outcome worker) := by
  unfold MapWithConcurrency.settle
  split
  · rename_i index hworking
    have hbound : worker < state.workers.length := (List.getElem?_eq_some_iff.mp hworking).1
    split
    · rename_i value houtcome
      exact (h.write hworking houtcome).advance (List.getElem?_set_self hbound)
    · rename_i reason houtcome
      exact h.reject hworking houtcome
  · exact h
  · exact h
  · exact h
  · exact h

/-! ## Progress -/

def remaining (state : MapWithConcurrency R E) : Nat :=
  (state.length - state.next) + state.workers.countP WorkerPhase.isWorking

def Awaits (state : MapWithConcurrency R E) (worker : Nat) : Prop :=
  ∃ index, state.workers[worker]? = some (.working index)

theorem countP_set_idle {phase before : WorkerPhase} (hbefore : workers[worker]? = some before)
    (hidle : before.isWorking = false) :
    (workers.set worker phase).countP WorkerPhase.isWorking =
      workers.countP WorkerPhase.isWorking + if phase.isWorking then 1 else 0 := by
  obtain ⟨hbound, heq⟩ := List.getElem?_eq_some_iff.mp hbefore
  rw [List.countP_set hbound, heq, hidle]
  rfl

theorem countP_set_working {phase : WorkerPhase} {index : Nat}
    (hbefore : workers[worker]? = some (.working index)) (hidle : phase.isWorking = false) :
    (workers.set worker phase).countP WorkerPhase.isWorking + 1 =
      workers.countP WorkerPhase.isWorking := by
  obtain ⟨hbound, heq⟩ := List.getElem?_eq_some_iff.mp hbefore
  have hpos : 0 < workers.countP WorkerPhase.isWorking :=
    List.countP_pos_iff.mpr ⟨_, List.getElem_mem hbound, by rw [heq]; rfl⟩
  rw [List.countP_set hbound, heq, hidle]
  change workers.countP WorkerPhase.isWorking - 1 + 0 + 1 = _
  omega

theorem remaining_advance {worker : Nat} (hlooping : state.workers[worker]? = some .looping) :
    (state.advance worker).remaining = state.remaining := by
  unfold MapWithConcurrency.advance
  split
  · rename_i hmore
    unfold remaining
    dsimp only
    rw [countP_set_idle hlooping rfl]
    change _ + (_ + 1) = _
    omega
  · unfold remaining
    dsimp only
    rw [countP_set_idle hlooping rfl]
    rfl

theorem remaining_settle {worker : Nat} (hawaits : state.Awaits worker) :
    (state.settle outcome worker).remaining + 1 = state.remaining := by
  obtain ⟨index, hworking⟩ := hawaits
  have hbound : worker < state.workers.length := (List.getElem?_eq_some_iff.mp hworking).1
  unfold MapWithConcurrency.settle
  rw [hworking]
  dsimp only
  split
  · rename_i value houtcome
    rw [remaining_advance (List.getElem?_set_self hbound)]
    have hcount := @countP_set_working _ _ .looping _ hworking rfl
    unfold remaining MapWithConcurrency.write
    dsimp only
    omega
  · have hcount := @countP_set_working _ _ .failed _ hworking rfl
    unfold remaining MapWithConcurrency.reject
    dsimp only
    omega

/-! ## Every run -/

structure Running (outcome : Nat → Except E R) (length count : Nat)
    (state : MapWithConcurrency R E) : Prop where
  sound : Sound outcome state
  length_eq : state.length = length
  count_eq : state.workers.length = count
  awaiting : WorkerPhase.looping ∉ state.workers

theorem workers_advance (state : MapWithConcurrency R E) (worker : Nat) :
    (state.advance worker).length = state.length ∧ ∃ phase, phase ≠ WorkerPhase.looping ∧
      (state.advance worker).workers = state.workers.set worker phase := by
  unfold MapWithConcurrency.advance
  split
  · exact ⟨rfl, .working state.next, by simp, rfl⟩
  · exact ⟨rfl, .returned, by simp, rfl⟩

structure Starting (outcome : Nat → Except E R) (length count started : Nat)
    (state : MapWithConcurrency R E) : Prop where
  sound : Sound outcome state
  length_eq : state.length = length
  count_eq : state.workers.length = count
  remaining_eq : state.remaining = length
  behind : ∀ worker < started, state.workers[worker]? ≠ some .looping
  ahead : ∀ (worker : Nat), started ≤ worker → worker < count →
    state.workers[worker]? = some .looping

theorem starting (outcome : Nat → Except E R) (length count : Nat) {started : Nat}
    (hstarted : started ≤ count) :
    Starting outcome length count started ((List.range started).foldl advance
      (created count length)) := by
  induction started with
  | zero =>
      refine ⟨sound_created count length, rfl, List.length_replicate, ?_,
        fun worker h => absurd h (Nat.not_lt_zero worker), ?_⟩
      · change length - 0 + (List.replicate count WorkerPhase.looping).countP _ = length
        rw [List.countP_eq_zero.mpr]
        · rfl
        · intro phase hmem
          rw [List.eq_of_mem_replicate hmem]
          simp [WorkerPhase.isWorking]
      · intro worker _ hcount
        exact List.getElem?_replicate_of_lt hcount
  | succ started ih =>
      have h := ih (Nat.le_of_succ_le hstarted)
      rw [List.range_succ, List.foldl_append, List.foldl_cons, List.foldl_nil]
      have hlooping := h.ahead started (Nat.le_refl _) hstarted
      obtain ⟨hlength, phase, hphase, hworkers⟩ := workers_advance
        ((List.range started).foldl advance (created count length)) started
      refine ⟨h.sound.advance hlooping, hlength.trans h.length_eq, ?_,
        (remaining_advance hlooping).trans h.remaining_eq, ?_, ?_⟩
      · rw [hworkers, List.length_set, h.count_eq]
      · intro worker hworker hfound
        rw [hworkers] at hfound
        rcases getElem?_set_phase hfound with ⟨-, heq⟩ | ⟨hne, hkept⟩
        · exact hphase heq.symm
        · exact h.behind worker (Nat.lt_of_le_of_ne (Nat.le_of_lt_succ hworker) hne) hkept
      · intro worker hworker hcount
        rw [hworkers, List.getElem?_set_ne (Nat.ne_of_lt hworker)]
        exact h.ahead worker (Nat.le_of_succ_le hworker) hcount

theorem running_mapWithConcurrency (outcome : Nat → Except E R) (length : Nat) (limit : ℚ) :
    Running outcome length (workerCount limit length) (mapWithConcurrency length limit) ∧
      (mapWithConcurrency length limit : MapWithConcurrency R E).remaining = length := by
  have h : Starting outcome length (workerCount limit length) (workerCount limit length)
      (mapWithConcurrency length limit) :=
    starting outcome length (workerCount limit length) (Nat.le_refl _)
  refine ⟨⟨h.sound, h.length_eq, h.count_eq, fun hmem => ?_⟩, h.remaining_eq⟩
  obtain ⟨worker, hworker⟩ := List.mem_iff_getElem?.mp hmem
  have hbound := (List.getElem?_eq_some_iff.mp hworker).1
  rw [h.count_eq] at hbound
  exact h.behind worker hbound hworker

theorem Running.settle {length count : Nat} (h : Running outcome length count state)
    (worker : Nat) : Running outcome length count (state.settle outcome worker) := by
  have hkept : (state.settle outcome worker).length = state.length ∧
      (state.settle outcome worker).workers.length = state.workers.length ∧
        WorkerPhase.looping ∉ (state.settle outcome worker).workers := by
    unfold MapWithConcurrency.settle
    split
    · rename_i index hworking
      split
      · rename_i value houtcome
        obtain ⟨hlength, phase, hphase, hworkers⟩ :=
          workers_advance (state.write worker index value) worker
        have hset : (state.write worker index value).workers.set worker phase =
            state.workers.set worker phase := List.set_set _
        rw [hset] at hworkers
        refine ⟨hlength, by rw [hworkers, List.length_set], fun hmem => ?_⟩
        rw [hworkers] at hmem
        exact h.awaiting (mem_of_mem_set hmem hphase.symm)
      · exact ⟨rfl, List.length_set, fun hmem => h.awaiting (mem_of_mem_set hmem (by simp))⟩
    · exact ⟨rfl, rfl, h.awaiting⟩
    · exact ⟨rfl, rfl, h.awaiting⟩
    · exact ⟨rfl, rfl, h.awaiting⟩
    · exact ⟨rfl, rfl, h.awaiting⟩
  exact ⟨h.sound.settle worker, hkept.1.trans h.length_eq, hkept.2.1.trans h.count_eq, hkept.2.2⟩

theorem Running.awaits {length count : Nat} (h : Running outcome length count state)
    (hpending : state.promise = none) : ∃ worker, state.Awaits worker := by
  unfold promise at hpending
  split at hpending
  · cases hpending
  · rename_i hrejected
    split at hpending
    · cases hpending
    · rename_i hsome
      push Not at hsome
      obtain ⟨phase, hmem, hphase⟩ := hsome
      obtain ⟨worker, hworker⟩ := List.mem_iff_getElem?.mp hmem
      cases phase with
      | looping => exact absurd hmem h.awaiting
      | working index => exact ⟨worker, index, hworker⟩
      | returned => exact absurd rfl hphase
      | failed =>
          have := h.sound.failed hmem
          rw [hrejected] at this
          cases this

theorem Running.fulfilled {length count : Nat} (h : Running outcome length count state)
    (hcount : 0 < count) {results : List (Option R)}
    (hfulfilled : state.promise = some (.ok results)) :
    results.length = length ∧ ∀ index < length,
      ∃ value, outcome index = .ok value ∧ results[index]? = some (some value) := by
  unfold promise at hfulfilled
  split at hfulfilled
  · cases hfulfilled
  · rename_i hrejected
    split at hfulfilled
    · rename_i hreturned
      obtain rfl : state.results = results := by injection hfulfilled with h; injection h
      refine ⟨h.sound.results_length.trans h.length_eq, fun index hindex => ?_⟩
      rw [← h.count_eq] at hcount
      have hmem := List.getElem_mem hcount
      rw [hreturned _ hmem] at hmem
      have htaken : index < state.next := by
        rw [h.sound.exhausted hmem, h.length_eq]
        exact hindex
      rcases h.sound.written index htaken with ⟨worker, hworker⟩ | hdone | hrejects
      · cases hreturned _ (List.mem_of_getElem? hworker)
      · exact hdone
      · rw [hrejected] at hrejects
        cases hrejects
    · cases hfulfilled

/-- What the call has come to does not change any more. -/
theorem promise_settle {answer : Except E (List (Option R))} (h : state.promise = some answer)
    (worker : Nat) : (state.settle outcome worker).promise = some answer := by
  unfold MapWithConcurrency.settle
  split
  · rename_i index hworking
    have hmem := List.mem_of_getElem? hworking
    unfold promise at h
    split at h
    · rename_i reason hrejected
      split
      · rename_i value _
        have hkept : ((state.write worker index value).advance worker).rejected = some reason := by
          unfold MapWithConcurrency.advance
          split
          · exact hrejected
          · exact hrejected
        rw [promise, hkept]
        exact h
      · rename_i other _
        have hkept : (state.reject worker other).rejected = some reason := by
          rw [MapWithConcurrency.reject, hrejected]
          rfl
        rw [promise, hkept]
        exact h
    · split at h
      · rename_i hreturned
        cases hreturned _ hmem
      · cases h
  · exact h
  · exact h
  · exact h
  · exact h

theorem schedule_add_remaining {schedule : List Nat}
    (h : Admitted (settle outcome) Awaits state schedule) :
    schedule.length + (run (settle outcome) state schedule).remaining = state.remaining := by
  induction schedule generalizing state with
  | nil => exact Nat.zero_add _
  | cons worker schedule ih =>
      rw [List.length_cons, run_cons, ← remaining_settle h.1, ← ih h.2]
      omega

/-- Whatever the order in which the promises settle: the workers are as many as the limit allows, no
two of them await the same item, the call is not stuck before it has come to something, what it has
come to stays, and it is the list of the values of the items in their order or the reason of an
item.  Each settlement brings it one item closer to the end. -/
theorem mapWithConcurrency_run (outcome : Nat → Except E R) (length : Nat) (limit : ℚ)
    (schedule : List Nat) :
    let start : MapWithConcurrency R E := mapWithConcurrency length limit
    let state := run (settle outcome) start schedule
    state.workers.length = workerCount limit length ∧ InFlight state.workers state.next ∧
      (state.promise = none → ∃ worker, state.Awaits worker) ∧
      (∀ results, state.promise = some (.ok results) → results.length = length ∧
        ∀ index < length, ∃ value, outcome index = .ok value ∧
          results[index]? = some (some value)) ∧
      (∀ reason, state.promise = some (.error reason) →
        ∃ index < length, outcome index = .error reason) ∧
      (∀ answer more, state.promise = some answer →
        (run (settle outcome) state more).promise = some answer) ∧
      (Admitted (settle outcome) Awaits start schedule →
        schedule.length + state.remaining = length) := by
  intro start state
  obtain ⟨hstart, hremaining⟩ := running_mapWithConcurrency outcome length limit
  have hrun : Running outcome length (workerCount limit length) state :=
    run_invariant (Running outcome length (workerCount limit length)) schedule
      (fun _ worker h => h.settle worker) hstart
  have hcount : 0 < workerCount limit length := by
    unfold workerCount
    omega
  refine ⟨hrun.count_eq, hrun.sound.inFlight, hrun.awaits, fun results => hrun.fulfilled hcount, ?_,
    ?_, ?_⟩
  · intro reason hreason
    unfold promise at hreason
    split at hreason
    · rename_i found hrejected
      obtain rfl : found = reason := by injection hreason with h; injection h
      obtain ⟨index, hindex, houtcome⟩ := hrun.sound.rejected found hrejected
      exact ⟨index, hrun.length_eq ▸ hindex, houtcome⟩
    · split at hreason
      · cases hreason
      · cases hreason
  · intro answer more hanswer
    exact run_invariant (fun state : MapWithConcurrency R E => state.promise = some answer) more
      (fun _ worker h => promise_settle h worker) hanswer
  · intro hadmitted
    rw [← hremaining]
    exact schedule_add_remaining hadmitted

def secondRejects : Nat → Except String Nat
  | 1 => .error "second"
  | index => .ok index

/-- The worker that rejects is not used again, and the other one takes the third item. -/
theorem mapWithConcurrency_run_secondRejects :
    let state := run (settle secondRejects) (mapWithConcurrency 3 2) [1, 0, 0]
    state.promise = some (.error "second") ∧ state.results = [some 0, none, some 2] ∧
      state.workers = [.returned, .failed] ∧ [1, 0, 0].length + state.remaining = 3 := by
  have hworking : (mapWithConcurrency 3 2 : MapWithConcurrency Nat String).workers =
        [.working 0, .working 1] ∧
      (settle secondRejects (mapWithConcurrency 3 2) 1).workers = [.working 0, .failed] ∧
      (settle secondRejects (settle secondRejects (mapWithConcurrency 3 2) 1) 0).workers =
        [.working 2, .failed] := by decide +kernel
  obtain ⟨hfirst, hsecond, hthird⟩ := hworking
  have hadmitted : Admitted (settle secondRejects) Awaits (mapWithConcurrency 3 2) [1, 0, 0] :=
    ⟨⟨1, by rw [hfirst]; rfl⟩, ⟨0, by rw [hsecond]; rfl⟩, ⟨2, by rw [hthird]; rfl⟩, trivial⟩
  obtain ⟨-, -, -, -, -, -, hsettled⟩ := mapWithConcurrency_run secondRejects 3 2 [1, 0, 0]
  exact ⟨by decide +kernel, by decide +kernel, by decide +kernel, hsettled hadmitted⟩

end MapWithConcurrency

end Raft.Concurrency
