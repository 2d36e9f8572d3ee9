import Mathlib.Data.List.Range
import Mathlib.Data.Rat.Defs
import Raft.Foundation.FifoGate

/-!
# The concurrency limiter

A call that finds no free slot pushes the resolver of its promise.  A finishing
call hands its slot to the first one pushed, whose continuation runs only later;
in between the slot is taken, by a call that does not run yet.
-/

namespace Raft.Concurrency

open Raft.Foundation

/-- `Math.trunc` -/
def trunc (value : ℚ) : ℤ := value.num.tdiv value.den

/-- `Math.max(1, Math.trunc(limit))` -/
def slots (limit : ℚ) : ℤ := max 1 (trunc limit)

theorem slots_pos (limit : ℚ) : 0 < slots limit := by
  unfold slots
  omega

structure ConcurrencyLimiter where
  max : ℤ
  active : ℤ
  waiting : List Nat
  /-- The calls so far; a call is named by the number of calls before it. -/
  calls : Nat
  /-- The calls whose promise is resolved and whose continuation has not run. -/
  resumed : List Nat
  /-- The calls whose `fn` runs. -/
  running : List Nat
  finished : List Nat
  /-- The calls that were handed a slot, in that order. -/
  handed : List Nat

inductive LimiterEvent where
  | call
  /-- The continuation behind the awaited promise runs. -/
  | resume (call : Nat)
  /-- `fn` is fulfilled or rejects, and the `finally` block runs. -/
  | settle (call : Nat)
  deriving DecidableEq

namespace ConcurrencyLimiter

def createConcurrencyLimiter (limit : ℚ) : ConcurrencyLimiter :=
  ⟨slots limit, 0, [], 0, [], [], [], []⟩

variable (limiter : ConcurrencyLimiter)

def release : ConcurrencyLimiter :=
  match limiter.waiting with
  | next :: rest =>
      { limiter with
        waiting := rest
        resumed := limiter.resumed ++ [next]
        handed := limiter.handed ++ [next] }
  | [] => { limiter with active := limiter.active - 1 }

def step : LimiterEvent → ConcurrencyLimiter
  | .call =>
      if limiter.active ≥ limiter.max then
        { limiter with waiting := limiter.waiting ++ [limiter.calls], calls := limiter.calls + 1 }
      else
        { limiter with
          active := limiter.active + 1
          running := limiter.running ++ [limiter.calls]
          calls := limiter.calls + 1 }
  | .resume call =>
      if call ∈ limiter.resumed then
        { limiter with
          resumed := limiter.resumed.erase call
          running := limiter.running ++ [call] }
      else limiter
  | .settle call =>
      if call ∈ limiter.running then
        release
          { limiter with
            running := limiter.running.erase call
            finished := limiter.finished ++ [call] }
      else limiter

def holding : List Nat := limiter.resumed ++ limiter.running

def fifo : FifoGate Nat := ⟨limiter.holding, limiter.waiting, limiter.handed⟩

/-! ## The books of one step -/

/-- Each call has finished, holds a slot or waits, once; `freed` slots are about to be released. -/
structure Accounted (freed : Nat) (limiter : ConcurrencyLimiter) : Prop where
  once : (limiter.finished ++ (limiter.holding ++ limiter.waiting)).Perm (List.range limiter.calls)
  active : limiter.active = limiter.holding.length + freed
  handed_lt : ∀ call ∈ limiter.handed, call < limiter.calls

variable {limiter}

theorem Accounted.waiting_lt {freed : Nat} (h : Accounted freed limiter) {call : Nat}
    (hmem : call ∈ limiter.waiting) : call < limiter.calls :=
  List.mem_range.mp (h.once.subset
    (List.mem_append_right _ (List.mem_append_right _ hmem)))

theorem Accounted.release (h : Accounted 1 limiter) : Accounted 0 limiter.release := by
  unfold ConcurrencyLimiter.release
  split
  · rename_i next rest hwaiting
    have honce := h.once
    have hactive := h.active
    rw [hwaiting] at honce
    refine ⟨?_, ?_, ?_⟩
    · refine (List.Perm.append_left _ ?_).trans honce
      simp only [holding, List.append_assoc]
      exact (List.perm_append_comm_assoc [next] limiter.running rest).append_left _
    · simp only [holding, List.length_append, List.length_singleton] at hactive ⊢
      omega
    · intro call hmem
      rcases List.mem_append.mp hmem with hbefore | hnext
      · exact h.handed_lt call hbefore
      · obtain rfl := List.mem_singleton.mp hnext
        exact h.waiting_lt (hwaiting ▸ List.mem_cons_self)
  · refine ⟨h.once, ?_, h.handed_lt⟩
    have hactive := h.active
    simp only [holding, List.length_append] at hactive ⊢
    omega

theorem Accounted.step (h : Accounted 0 limiter) (event : LimiterEvent) :
    Accounted 0 (limiter.step event) := by
  cases event with
  | call =>
      have hlater : ∀ call ∈ limiter.handed, call < limiter.calls + 1 :=
        fun call hmem => Nat.lt_succ_of_lt (h.handed_lt call hmem)
      unfold ConcurrencyLimiter.step
      dsimp only
      split
      · refine ⟨?_, h.active, hlater⟩
        change (limiter.finished ++
          (limiter.holding ++ (limiter.waiting ++ [limiter.calls]))).Perm _
        rw [List.range_succ, ← List.append_assoc limiter.holding, ← List.append_assoc]
        exact h.once.append_right _
      · refine ⟨?_, ?_, hlater⟩
        · rw [List.range_succ]
          refine List.Perm.trans ?_ (h.once.append_right [limiter.calls])
          simp only [holding, List.append_assoc]
          exact ((List.perm_append_comm.append_left limiter.running).append_left
            limiter.resumed).append_left limiter.finished
        · have hactive := h.active
          simp only [holding, List.length_append, List.length_singleton] at hactive ⊢
          omega
  | resume call =>
      unfold ConcurrencyLimiter.step
      dsimp only
      split
      · rename_i hmem
        have hmoved : (limiter.resumed.erase call ++ (limiter.running ++ [call])).Perm
            limiter.holding := by
          have hperm : (limiter.resumed.erase call ++ (limiter.running ++ [call])).Perm
              (call :: limiter.resumed.erase call ++ limiter.running) := by
            rw [← List.append_assoc]
            exact List.perm_append_singleton _ _
          exact hperm.trans ((List.perm_cons_erase hmem).symm.append_right _)
        refine ⟨((hmoved.append_right _).append_left _).trans h.once, ?_, h.handed_lt⟩
        have hactive := h.active
        rw [hactive]
        exact congrArg (fun count : Nat => (count : ℤ) + 0) hmoved.length_eq.symm
      · exact h
  | settle call =>
      unfold ConcurrencyLimiter.step
      dsimp only
      split
      · rename_i hmem
        have hlength := List.length_erase_of_mem hmem
        have hpos := List.length_pos_of_mem hmem
        refine Accounted.release ⟨?_, ?_, h.handed_lt⟩
        · have hback : ([call] ++ (limiter.resumed ++ limiter.running.erase call)).Perm
              limiter.holding := by
            refine (List.perm_append_comm_assoc [call] limiter.resumed _).trans ?_
            exact (List.perm_cons_erase hmem).symm.append_left _
          change ((limiter.finished ++ [call]) ++
            ((limiter.resumed ++ limiter.running.erase call) ++
            limiter.waiting)).Perm (List.range limiter.calls)
          rw [List.append_assoc, ← List.append_assoc [call]]
          exact ((hback.append_right _).append_left _).trans h.once
        · have hactive := h.active
          simp only [holding, List.length_append] at hactive ⊢
          omega
      · exact h

/-! ## The line -/

theorem fifo_step (h : Accounted 0 limiter) (hmax : 0 ≤ limiter.max)
    (hsound : limiter.fifo.Sound limiter.max.toNat) (event : LimiterEvent) :
    (limiter.step event).max = limiter.max ∧
      ∃ moves, Admitted (FifoGate.move limiter.max.toNat) FifoGate.Comes limiter.fifo moves ∧
        (limiter.step event).fifo =
          run (FifoGate.move limiter.max.toNat) limiter.fifo moves := by
  have hactive := h.active
  have hcomes : ∀ earlier ∈ limiter.fifo.promoted ++ limiter.fifo.waiting,
      earlier < limiter.calls := by
    intro earlier hmem
    rcases List.mem_append.mp hmem with hhanded | hwaiting
    · exact h.handed_lt earlier hhanded
    · exact h.waiting_lt hwaiting
  cases event with
  | call =>
      unfold ConcurrencyLimiter.step
      dsimp only
      split
      · rename_i hfull
        refine ⟨rfl, [.enter limiter.calls], ⟨hcomes, trivial⟩, ?_⟩
        have hcard : ¬limiter.fifo.holders.card < limiter.max.toNat := by
          change ¬limiter.holding.length < limiter.max.toNat
          omega
        rw [run_cons, run_nil, FifoGate.move, FifoGate.enter, if_neg hcard]
        rfl
      · rename_i hroom
        refine ⟨rfl, [.enter limiter.calls], ⟨hcomes, trivial⟩, ?_⟩
        have hcard : limiter.fifo.holders.card < limiter.max.toNat := by
          change limiter.holding.length < limiter.max.toNat
          omega
        rw [run_cons, run_nil, FifoGate.move, FifoGate.enter, if_pos hcard]
        have hholders : (↑(limiter.resumed ++
          (limiter.running ++ [limiter.calls])) : Multiset Nat) =
            limiter.calls ::ₘ ↑limiter.holding := by
          rw [← List.append_assoc]
          exact Multiset.coe_eq_coe.mpr (List.perm_append_singleton _ _)
        exact congrArg (fun holders => FifoGate.mk holders limiter.waiting limiter.handed) hholders
  | resume call =>
      unfold ConcurrencyLimiter.step
      dsimp only
      split
      · rename_i hmem
        refine ⟨rfl, [], trivial, ?_⟩
        have hholders : (↑(limiter.resumed.erase call ++ (limiter.running ++ [call])) :
            Multiset Nat) = ↑limiter.holding := by
          rw [← List.append_assoc]
          refine Multiset.coe_eq_coe.mpr ((List.perm_append_singleton _ _).trans ?_)
          exact (List.perm_cons_erase hmem).symm.append_right _
        exact congrArg (fun holders => FifoGate.mk holders limiter.waiting limiter.handed) hholders
      · exact ⟨rfl, [], trivial, rfl⟩
  | settle call =>
      unfold ConcurrencyLimiter.step
      dsimp only
      split
      · rename_i hmem
        have hholding : call ∈ limiter.holding := List.mem_append_right _ hmem
        have herase : (↑(limiter.resumed ++ limiter.running.erase call) : Multiset Nat) =
            (↑limiter.holding : Multiset Nat).erase call := by
          rw [Multiset.coe_erase]
          refine Multiset.coe_eq_coe.mpr (List.Perm.cons_inv (a := call) ?_)
          refine List.Perm.trans ?_ (List.perm_cons_erase hholding)
          refine (List.perm_append_comm_assoc [call] limiter.resumed _).trans ?_
          exact (List.perm_cons_erase hmem).symm.append_left _
        unfold ConcurrencyLimiter.release
        split
        · rename_i next rest hwaiting
          refine ⟨rfl, [.leave call []], ⟨trivial, trivial⟩, ?_⟩
          have hfull : limiter.holding.length = limiter.max.toNat := hsound.full (by
            rw [fifo]
            change limiter.waiting ≠ []
            rw [hwaiting]
            exact List.cons_ne_nil _ _)
          have hcard : ((↑limiter.holding : Multiset Nat).erase call).card < limiter.max.toNat := by
            rw [← hfull]
            exact Multiset.card_erase_lt_of_mem hholding
          have hwait : limiter.waiting = next :: rest := hwaiting
          rw [run_cons, run_nil, FifoGate.move, FifoGate.leave, FifoGate.giveUp_nil,
            FifoGate.promote, fifo, fifo, hwait]
          dsimp only
          rw [if_pos hcard, ← herase]
          refine congrArg (fun holders => FifoGate.mk holders rest (limiter.handed ++ [next])) ?_
          refine Multiset.coe_eq_coe.mpr ?_
          change ((limiter.resumed ++ [next]) ++ limiter.running.erase call).Perm _
          rw [List.append_assoc]
          exact List.perm_append_comm_assoc limiter.resumed [next] _
        · rename_i hwaiting
          refine ⟨rfl, [.leave call []], ⟨trivial, trivial⟩, ?_⟩
          have hwait : limiter.waiting = [] := hwaiting
          rw [run_cons, run_nil, FifoGate.move, FifoGate.leave, FifoGate.giveUp_nil,
            FifoGate.promote, fifo, fifo, hwait]
          dsimp only
          rw [← herase]
          rfl
      · exact ⟨rfl, [], trivial, rfl⟩

/-! ## Every run -/

theorem calls_step (limiter : ConcurrencyLimiter) (event : LimiterEvent) :
    (limiter.step event).calls = limiter.calls + if event = .call then 1 else 0 := by
  cases event with
  | call =>
      unfold ConcurrencyLimiter.step
      dsimp only
      split <;> rfl
  | resume call =>
      unfold ConcurrencyLimiter.step
      dsimp only
      split <;> rfl
  | settle call =>
      unfold ConcurrencyLimiter.step ConcurrencyLimiter.release
      dsimp only
      split
      · split <;> rfl
      · rfl

structure Running (max : ℤ) (limiter : ConcurrencyLimiter) : Prop where
  max_eq : limiter.max = max
  accounted : Accounted 0 limiter
  sound : limiter.fifo.Sound max.toNat

theorem Running.step {max : ℤ} (hmax : 0 ≤ max) (h : Running max limiter) (event : LimiterEvent) :
    Running max (limiter.step event) := by
  obtain ⟨rfl, haccounted, hsound⟩ := h
  obtain ⟨hkept, moves, hadmitted, hmoves⟩ := fifo_step haccounted hmax hsound event
  refine ⟨hkept, haccounted.step event, ?_⟩
  rw [hmoves]
  exact hsound.run hadmitted

/-- Whatever the order in which the calls arrive, resume and settle, no more slots are taken than
the limit allows, counting those handed to calls that do not run yet.  Nobody waits while a slot is
free, the slots are handed on in call order, and each call is kept in one place. -/
theorem concurrencyLimiter_run (limit : ℚ) (events : List LimiterEvent) :
    let limiter := run step (createConcurrencyLimiter limit) events
    (limiter.running.length + limiter.resumed.length : ℤ) ≤ slots limit ∧
      (limiter.waiting ≠ [] →
        (limiter.running.length + limiter.resumed.length : ℤ) = slots limit) ∧
      (limiter.handed ++ limiter.waiting).Pairwise (· < ·) ∧
      (limiter.finished ++ (limiter.resumed ++ limiter.running ++ limiter.waiting)).Perm
        (List.range limiter.calls) ∧
      limiter.calls = events.countP fun event => event = .call := by
  intro limiter
  have hpos : 0 ≤ slots limit := Int.le_of_lt (slots_pos limit)
  have hstart : Running (slots limit) (createConcurrencyLimiter limit) :=
    ⟨rfl, ⟨List.Perm.refl _, rfl, by simp [createConcurrencyLimiter]⟩, FifoGate.sound_empty⟩
  obtain ⟨-, haccounted, hsound⟩ : Running (slots limit) limiter :=
    run_invariant (Running (slots limit)) events
      (fun _ event h => h.step hpos event) hstart
  have hlength : limiter.holding.length = limiter.resumed.length + limiter.running.length :=
    List.length_append
  have hbounded : limiter.holding.length ≤ (slots limit).toNat := hsound.bounded
  have hcalls : limiter.calls =
      (createConcurrencyLimiter limit).calls + events.countP fun event => event = .call :=
    run_counter calls _ (fun before event => by simp [calls_step before event]) _ events
  refine ⟨by omega, fun hsome => ?_, hsound.ordered, haccounted.once,
    hcalls.trans (Nat.zero_add _)⟩
  have hfull : limiter.holding.length = (slots limit).toNat := hsound.full hsome
  omega

end ConcurrencyLimiter

end Raft.Concurrency
