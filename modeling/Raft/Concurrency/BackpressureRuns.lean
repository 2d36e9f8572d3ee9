import Raft.Concurrency.InboxRouteBackpressure

/-!
# Every run of the inbox gate

The gate moves as a first come, first served gate does, and its books balance:
each request waits or has been settled, once, and the counters count the
settlements.
-/

namespace Raft.Concurrency

open Raft.Foundation

namespace Settlement

def isResolved : Settlement → Bool
  | .resolved _ => true
  | .rejected _ => false

def isQueued : Settlement → Bool
  | .resolved lease => lease.queued
  | .rejected _ => false

def isTimeout : Settlement → Bool
  | .resolved _ => false
  | .rejected reason => reason = .queue_timeout

end Settlement

namespace InboxRouteBackpressure

/-- The gate after any events, from its construction. -/
def afterEvents (limits : BackpressureLimits) (events : List BackpressureEvent) :
    InboxRouteBackpressure :=
  run step (start limits) events

def promoted (gate : InboxRouteBackpressure) : List Nat :=
  (gate.settled.filter fun entry => entry.2.isQueued).map Prod.fst

def waiting (gate : InboxRouteBackpressure) : List Nat := gate.pending.map PendingAcquire.request

def fifo (gate : InboxRouteBackpressure) : FifoGate Nat := ⟨gate.held, gate.waiting, gate.promoted⟩

/-- Each request waits, has been settled or is one of those in hand, once. -/
structure Accounted (inHand : List Nat) (gate : InboxRouteBackpressure) : Prop where
  once : (gate.settled.map Prod.fst ++ (inHand ++ gate.waiting)).Perm (List.range gate.requests)
  active : gate.active = gate.held.length
  admitted : gate.admittedTotal = gate.settled.countP fun entry => entry.2.isResolved
  rejected : gate.rejectedTotal = gate.settled.countP fun entry => !entry.2.isResolved
  timedOut : gate.timedOutTotal = gate.settled.countP fun entry => entry.2.isTimeout

/-! ## The books of one step -/

variable {gate : InboxRouteBackpressure}

theorem accounted_start (limits : BackpressureLimits) : Accounted [] (start limits) :=
  ⟨List.Perm.refl _, rfl, rfl, rfl, rfl⟩

theorem Accounted.called (h : Accounted [] gate) :
    Accounted [gate.requests] { gate with requests := gate.requests + 1 } where
  once := by
    rw [List.range_succ]
    have hmove : (gate.settled.map Prod.fst ++ ([gate.requests] ++ gate.waiting)).Perm
        ((gate.settled.map Prod.fst ++ gate.waiting) ++ [gate.requests]) := by
      rw [List.append_assoc]
      exact List.perm_append_comm.append_left _
    exact hmove.trans (h.once.append_right _)
  active := h.active
  admitted := h.admitted
  rejected := h.rejected
  timedOut := h.timedOut

theorem Accounted.shift (h : Accounted [] gate) {entry : PendingAcquire}
    {rest : List PendingAcquire} (hpending : gate.pending = entry :: rest) :
    Accounted [entry.request] { gate with pending := rest } where
  once := by
    have honce := h.once
    rw [waiting, hpending] at honce
    exact honce
  active := h.active
  admitted := h.admitted
  rejected := h.rejected
  timedOut := h.timedOut

theorem map_eraseP_request (pending : List PendingAcquire) (request : Nat) :
    (pending.eraseP fun entry => entry.request = request).map PendingAcquire.request =
      (pending.map PendingAcquire.request).erase request := by
  induction pending with
  | nil => rfl
  | cons entry pending ih =>
      by_cases h : entry.request = request
      · simp [h]
      · simp [h, List.erase_cons_tail, ih]

theorem Accounted.settle_once {inHand : Nat} (h : Accounted [inHand] gate)
    (settlement : Settlement) :
    ((gate.settled ++ [(inHand, settlement)]).map Prod.fst ++ gate.waiting).Perm
      (List.range gate.requests) := by
  rw [List.map_append, List.append_assoc]
  exact h.once

theorem Accounted.reject {request : Nat} (h : Accounted [request] gate)
    {reason : InboxBackpressureRejectReason} (hreason : reason ≠ .queue_timeout) :
    Accounted [] (gate.reject request reason) where
  once := h.settle_once _
  active := h.active
  admitted := by
    rw [InboxRouteBackpressure.reject, List.countP_append, h.admitted]
    rfl
  rejected := by
    rw [InboxRouteBackpressure.reject, List.countP_append, h.rejected]
    rfl
  timedOut := by
    rw [InboxRouteBackpressure.reject, List.countP_append, h.timedOut]
    simp [Settlement.isTimeout, hreason]

theorem Accounted.rejectTimedOut {request : Nat} (h : Accounted [request] gate) :
    Accounted [] { gate.reject request .queue_timeout with
      timedOutTotal := gate.timedOutTotal + 1 } where
  once := h.settle_once _
  active := h.active
  admitted := by
    rw [InboxRouteBackpressure.reject, List.countP_append, h.admitted]
    rfl
  rejected := by
    rw [InboxRouteBackpressure.reject, List.countP_append, h.rejected]
    rfl
  timedOut := by
    rw [InboxRouteBackpressure.reject, List.countP_append, h.timedOut]
    rfl

theorem Accounted.letIn {request : Nat} (h : Accounted [request] gate) (queued : Bool)
    (startedAt nowMs : ℤ) : Accounted [] (gate.letIn request queued startedAt nowMs) where
  once := h.settle_once _
  active := by
    change gate.active + 1 = ((gate.held ++ [request]).length : ℤ)
    rw [List.length_append, h.active]
    rfl
  admitted := by
    rw [InboxRouteBackpressure.letIn, List.countP_append, h.admitted]
    rfl
  rejected := by
    rw [InboxRouteBackpressure.letIn, List.countP_append, h.rejected]
    rfl
  timedOut := by
    rw [InboxRouteBackpressure.letIn, List.countP_append, h.timedOut]
    rfl

theorem Accounted.enqueue {request : Nat} (h : Accounted [request] gate) (signal : Option Nat)
    (nowMs : ℤ) : Accounted [] (gate.enqueue request signal nowMs) where
  once := by
    have hwaiting : (gate.enqueue request signal nowMs).waiting = gate.waiting ++ [request] :=
      List.map_append
    rw [hwaiting, List.nil_append]
    exact (List.perm_append_comm.append_left _).trans h.once
  active := h.active
  admitted := h.admitted
  rejected := h.rejected
  timedOut := h.timedOut

theorem Accounted.removePending (h : Accounted [] gate) {request : Nat}
    {removed : InboxRouteBackpressure} (hremoved : gate.removePending request = some removed) :
    Accounted [request] removed := by
  unfold InboxRouteBackpressure.removePending at hremoved
  split at hremoved
  · rename_i hany
    obtain rfl := Option.some.inj hremoved
    refine ⟨?_, h.active, h.admitted, h.rejected, h.timedOut⟩
    have hmem : request ∈ gate.waiting := by
      obtain ⟨entry, hentry, hrequest⟩ := List.any_eq_true.mp hany
      exact List.mem_map.mpr ⟨entry, hentry, of_decide_eq_true hrequest⟩
    change (gate.settled.map Prod.fst ++ ([request] ++ (gate.pending.eraseP fun entry =>
      entry.request = request).map PendingAcquire.request)).Perm (List.range gate.requests)
    rw [map_eraseP_request]
    exact ((List.perm_cons_erase hmem).symm.append_left _).trans h.once
  · cases hremoved

theorem Accounted.drainFrom {entries : List PendingAcquire} (nowMs : ℤ)
    (hpending : gate.pending = entries) (h : Accounted [] gate) :
    Accounted [] (drainFrom nowMs entries gate) := by
  induction entries generalizing gate with
  | nil => exact h
  | cons entry rest ih =>
      unfold InboxRouteBackpressure.drainFrom
      split
      · split
        · exact ih rfl ((h.shift hpending).reject (by simp))
        · exact ih rfl ((h.shift hpending).letIn true entry.enqueuedAt nowMs)
      · exact h

theorem Accounted.acquire (h : Accounted [] gate) (signal : Option Nat) (nowMs : ℤ) :
    Accounted [] (gate.acquire signal nowMs) := by
  unfold InboxRouteBackpressure.acquire
  split
  · exact h.called.reject (by simp)
  · split
    · exact h.called.letIn false nowMs nowMs
    · split
      · exact h.called.reject (by simp)
      · exact h.called.enqueue signal nowMs

theorem Accounted.release (h : Accounted [] gate) (request : Nat) (nowMs : ℤ) :
    Accounted [] (gate.release request nowMs) := by
  unfold InboxRouteBackpressure.release
  split
  · rename_i hheld
    refine Accounted.drainFrom nowMs rfl ⟨h.once, ?_, h.admitted, h.rejected, h.timedOut⟩
    change gate.active - 1 = ((gate.held.erase request).length : ℤ)
    have hlength := List.length_erase_of_mem hheld
    have hpos := List.length_pos_of_mem hheld
    rw [h.active]
    omega
  · exact h

theorem Accounted.step (h : Accounted [] gate) (event : BackpressureEvent) :
    Accounted [] (gate.step event) := by
  cases event with
  | acquire signal nowMs => exact h.acquire signal nowMs
  | abort signal => exact ⟨h.once, h.active, h.admitted, h.rejected, h.timedOut⟩
  | onAbort request =>
      change Accounted [] (gate.onAbort request)
      unfold InboxRouteBackpressure.onAbort
      split
      · exact h
      · rename_i entry hfind
        split
        · have hany : (gate.pending.any fun entry => entry.request = request) = true :=
            List.any_eq_true.mpr ⟨entry, List.mem_of_find?_eq_some hfind, by
              simpa using List.find?_some hfind⟩
          have hremoved : gate.removePending request = some { gate with
              pending := gate.pending.eraseP fun entry => entry.request = request } :=
            if_pos hany
          rw [hremoved]
          exact (h.removePending hremoved).reject (by simp)
        · exact h
  | timedOut request =>
      change Accounted [] (gate.timedOut request)
      unfold InboxRouteBackpressure.timedOut
      split
      · exact h
      · rename_i removed hremoved
        exact (h.removePending hremoved).rejectTimedOut
  | release request nowMs => exact h.release request nowMs

/-! ## The line -/

@[simp] theorem promoted_reject (request : Nat) (reason : InboxBackpressureRejectReason) :
    (gate.reject request reason).promoted = gate.promoted := by
  simp [promoted, InboxRouteBackpressure.reject, Settlement.isQueued]

theorem promoted_letIn (request : Nat) (queued : Bool) (startedAt nowMs : ℤ) :
    (gate.letIn request queued startedAt nowMs).promoted =
      if queued then gate.promoted ++ [request] else gate.promoted := by
  cases queued <;>
    simp [promoted, InboxRouteBackpressure.letIn, Settlement.isQueued, createLease]

theorem held_append (held : List Nat) (request : Nat) :
    (↑(held ++ [request]) : Multiset Nat) = request ::ₘ ↑held :=
  Multiset.coe_eq_coe.mpr (List.perm_append_singleton request held)

theorem fifo_letIn (request : Nat) (queued : Bool) (startedAt nowMs : ℤ) :
    (gate.letIn request queued startedAt nowMs).fifo =
      ⟨request ::ₘ ↑gate.held, gate.waiting,
        if queued then gate.promoted ++ [request] else gate.promoted⟩ := by
  rw [fifo, promoted_letIn, ← held_append]
  rfl

theorem fifo_drainFrom {entries : List PendingAcquire} (nowMs : ℤ)
    (hpending : gate.pending = entries) (hactive : gate.active = gate.held.length)
    (hone : entries ≠ [] → gate.held.length + 1 = gate.limits.maxConcurrency) :
    ∃ passedOver, (drainFrom nowMs entries gate).fifo =
      (gate.fifo.giveUp passedOver).promote gate.limits.maxConcurrency := by
  induction entries generalizing gate with
  | nil =>
      refine ⟨[], ?_⟩
      have hwaiting : gate.fifo.waiting = [] := by rw [fifo, waiting, hpending, List.map_nil]
      rw [FifoGate.giveUp_nil, FifoGate.promote, hwaiting]
      rfl
  | cons entry rest ih =>
      have hroom : gate.active < gate.limits.maxConcurrency := by
        have := hone (List.cons_ne_nil _ _)
        omega
      rw [InboxRouteBackpressure.drainFrom, if_pos hroom]
      have hwaiting : gate.fifo.waiting = entry.request :: rest.map PendingAcquire.request := by
        rw [fifo, waiting, hpending, List.map_cons]
      dsimp only
      split
      · -- The entry is rejected, and the loop goes on behind it.
        obtain ⟨passedOver, hrest⟩ := @ih
          (InboxRouteBackpressure.reject { gate with pending := rest } entry.request
            .request_aborted)
          rfl hactive fun _ => hone (List.cons_ne_nil _ _)
        refine ⟨entry.request :: passedOver, ?_⟩
        rw [hrest, FifoGate.giveUp_cons]
        have hwithdraw : gate.fifo.withdraw entry.request =
            ({ gate with pending := rest }.reject entry.request .request_aborted).fifo := by
          rw [FifoGate.withdraw, hwaiting, List.erase_cons_head, fifo, fifo, promoted_reject]
          rfl
        rw [hwithdraw]
        rfl
      · -- The entry gets in, and there is no room for the next one.
        refine ⟨[], ?_⟩
        have hcard : gate.fifo.holders.card < gate.limits.maxConcurrency := by
          change gate.held.length < gate.limits.maxConcurrency
          omega
        rw [FifoGate.giveUp_nil, FifoGate.promote, hwaiting]
        dsimp only
        rw [if_pos hcard]
        have hstop : ∀ shifted : InboxRouteBackpressure,
            shifted.active = gate.active + 1 → shifted.limits = gate.limits →
              drainFrom nowMs rest shifted = shifted := by
          intro shifted hmore hlimits
          cases rest with
          | nil => rfl
          | cons next rest =>
              rw [InboxRouteBackpressure.drainFrom, if_neg]
              have := hone (List.cons_ne_nil _ _)
              rw [hmore, hlimits]
              omega
        generalize hshifted : InboxRouteBackpressure.letIn { gate with pending := rest }
          entry.request
          true entry.enqueuedAt nowMs = shifted
        rw [hstop shifted (by rw [← hshifted]; rfl) (by rw [← hshifted]; rfl), ← hshifted,
          fifo_letIn]
        rfl

theorem drainFrom_keeps (nowMs : ℤ) (entries : List PendingAcquire) :
    (drainFrom nowMs entries gate).limits = gate.limits ∧
      (drainFrom nowMs entries gate).requests = gate.requests := by
  induction entries generalizing gate with
  | nil => exact ⟨rfl, rfl⟩
  | cons entry rest ih =>
      unfold InboxRouteBackpressure.drainFrom
      split
      · split
        · exact ih
        · exact ih
      · exact ⟨rfl, rfl⟩

theorem fifo_removePending {request : Nat} {removed : InboxRouteBackpressure}
    (hremoved : gate.removePending request = some removed) :
    removed.fifo = gate.fifo.withdraw request ∧ removed.limits = gate.limits := by
  unfold InboxRouteBackpressure.removePending at hremoved
  split at hremoved
  · obtain rfl := Option.some.inj hremoved
    refine ⟨?_, rfl⟩
    rw [fifo, FifoGate.withdraw, waiting, map_eraseP_request]
    rfl
  · cases hremoved

theorem fifo_reject (request : Nat) (reason : InboxBackpressureRejectReason) :
    (gate.reject request reason).fifo = gate.fifo := by
  rw [fifo, promoted_reject]
  rfl

theorem fifo_step (h : Accounted [] gate)
    (hsound : gate.fifo.Sound gate.limits.maxConcurrency) (event : BackpressureEvent) :
    (gate.step event).limits = gate.limits ∧
      ∃ moves, Admitted (FifoGate.move gate.limits.maxConcurrency) FifoGate.Comes gate.fifo moves ∧
        (gate.step event).fifo =
          run (FifoGate.move gate.limits.maxConcurrency) gate.fifo moves := by
  have hcomes : ∀ earlier ∈ gate.fifo.promoted ++ gate.fifo.waiting, earlier < gate.requests := by
    intro earlier hmem
    refine List.mem_range.mp (h.once.subset ?_)
    rcases List.mem_append.mp hmem with hpromoted | hwaiting
    · obtain ⟨entry, hentry, rfl⟩ := List.mem_map.mp hpromoted
      exact List.mem_append_left _ (List.mem_map.mpr ⟨entry, (List.mem_filter.mp hentry).1, rfl⟩)
    · exact List.mem_append_right _ hwaiting
  cases event with
  | acquire signal nowMs =>
      change (gate.acquire signal nowMs).limits = _ ∧ ∃ moves, _ ∧
        (gate.acquire signal nowMs).fifo = _
      unfold InboxRouteBackpressure.acquire
      dsimp only
      split
      · exact ⟨rfl, [], trivial, fifo_reject _ _⟩
      · split
        · rename_i hroom
          refine ⟨rfl, [.enter gate.requests], ⟨hcomes, trivial⟩, ?_⟩
          have hcard : gate.fifo.holders.card < gate.limits.maxConcurrency := by
            change gate.held.length < gate.limits.maxConcurrency
            have := h.active
            omega
          rw [run_cons, run_nil, FifoGate.move, FifoGate.enter, if_pos hcard, fifo_letIn]
          rfl
        · rename_i hfull
          split
          · exact ⟨rfl, [], trivial, fifo_reject _ _⟩
          · refine ⟨rfl, [.enter gate.requests], ⟨hcomes, trivial⟩, ?_⟩
            have hcard : ¬gate.fifo.holders.card < gate.limits.maxConcurrency := by
              change ¬gate.held.length < gate.limits.maxConcurrency
              have := h.active
              omega
            rw [run_cons, run_nil, FifoGate.move, FifoGate.enter, if_neg hcard, fifo, waiting,
              InboxRouteBackpressure.enqueue, List.map_append]
            rfl
  | abort signal => exact ⟨rfl, [], trivial, rfl⟩
  | onAbort request =>
      change (gate.onAbort request).limits = _ ∧ ∃ moves, _ ∧ (gate.onAbort request).fifo = _
      unfold InboxRouteBackpressure.onAbort
      split
      · exact ⟨rfl, [], trivial, rfl⟩
      · split
        · cases hremoved : gate.removePending request with
          | none => exact ⟨rfl, [], trivial, fifo_reject _ _⟩
          | some removed =>
              obtain ⟨hfifo, hlimits⟩ := fifo_removePending hremoved
              refine ⟨hlimits, [.withdraw request], ⟨trivial, trivial⟩, ?_⟩
              exact (fifo_reject _ _).trans hfifo
        · exact ⟨rfl, [], trivial, rfl⟩
  | timedOut request =>
      change (gate.timedOut request).limits = _ ∧ ∃ moves, _ ∧ (gate.timedOut request).fifo = _
      unfold InboxRouteBackpressure.timedOut
      split
      · exact ⟨rfl, [], trivial, rfl⟩
      · rename_i removed hremoved
        obtain ⟨hfifo, hlimits⟩ := fifo_removePending hremoved
        refine ⟨hlimits, [.withdraw request], ⟨trivial, trivial⟩, ?_⟩
        exact (@fifo_reject removed request .queue_timeout).trans hfifo
  | release request nowMs =>
      change (gate.release request nowMs).limits = _ ∧ ∃ moves, _ ∧
        (gate.release request nowMs).fifo = _
      unfold InboxRouteBackpressure.release
      split
      · rename_i hheld
        have hlength := List.length_erase_of_mem hheld
        have hpos := List.length_pos_of_mem hheld
        have hactive := h.active
        obtain ⟨passedOver, hdrain⟩ := @fifo_drainFrom
          { gate with held := gate.held.erase request, active := gate.active - 1 } _ nowMs
          rfl (by
            change gate.active - 1 = ((gate.held.erase request).length : ℤ)
            omega) (by
            intro hsome
            have hfull : gate.held.length = gate.limits.maxConcurrency :=
              hsound.full fun hnone => hsome (List.map_eq_nil_iff.mp hnone)
            change (gate.held.erase request).length + 1 = gate.limits.maxConcurrency
            omega)
        refine ⟨(drainFrom_keeps nowMs _).1, [.leave request passedOver], ⟨trivial, trivial⟩, ?_⟩
        rw [InboxRouteBackpressure.drain, hdrain]
        rfl
      · exact ⟨rfl, [], trivial, rfl⟩

/-! ## The observed maxima -/

structure Observed (gate : InboxRouteBackpressure) : Prop where
  active_le : gate.active ≤ gate.maxObservedActive
  maxActive_le : gate.maxObservedActive ≤ gate.limits.maxConcurrency
  queued_le : gate.pending.length ≤ gate.maxObservedQueued
  maxQueued_le : gate.maxObservedQueued ≤ gate.limits.maxQueue

theorem Observed.letIn (h : Observed gate) (hroom : gate.active < gate.limits.maxConcurrency)
    (request : Nat) (queued : Bool) (startedAt nowMs : ℤ) :
    Observed (gate.letIn request queued startedAt nowMs) where
  active_le := le_max_right _ _
  maxActive_le := max_le h.maxActive_le (Int.add_one_le_of_lt hroom)
  queued_le := h.queued_le
  maxQueued_le := h.maxQueued_le

theorem Observed.of_shorter (h : Observed gate) {pending : List PendingAcquire}
    (hlength : pending.length ≤ gate.pending.length) : Observed { gate with pending := pending } :=
  ⟨h.active_le, h.maxActive_le, hlength.trans h.queued_le, h.maxQueued_le⟩

theorem Observed.removePending (h : Observed gate) {request : Nat}
    {removed : InboxRouteBackpressure} (hremoved : gate.removePending request = some removed) :
    Observed removed := by
  unfold InboxRouteBackpressure.removePending at hremoved
  split at hremoved
  · obtain rfl := Option.some.inj hremoved
    exact h.of_shorter List.eraseP_sublist.length_le
  · cases hremoved

theorem Observed.drainFrom {entries : List PendingAcquire} (nowMs : ℤ)
    (hpending : gate.pending = entries) (h : Observed gate) :
    Observed (drainFrom nowMs entries gate) := by
  induction entries generalizing gate with
  | nil => exact h
  | cons entry rest ih =>
      have hshift : Observed { gate with pending := rest } :=
        h.of_shorter (by rw [hpending]; exact Nat.le_succ _)
      unfold InboxRouteBackpressure.drainFrom
      split
      · rename_i hroom
        split
        · exact ih rfl ⟨hshift.active_le, hshift.maxActive_le, hshift.queued_le,
            hshift.maxQueued_le⟩
        · exact ih rfl (hshift.letIn hroom entry.request true entry.enqueuedAt nowMs)
      · exact h

theorem Observed.step (h : Observed gate) (event : BackpressureEvent) :
    Observed (gate.step event) := by
  cases event with
  | acquire signal nowMs =>
      change Observed (gate.acquire signal nowMs)
      have hcalled : Observed { gate with requests := gate.requests + 1 } :=
        ⟨h.active_le, h.maxActive_le, h.queued_le, h.maxQueued_le⟩
      unfold InboxRouteBackpressure.acquire
      split
      · exact ⟨h.active_le, h.maxActive_le, h.queued_le, h.maxQueued_le⟩
      · split
        · rename_i hroom
          exact hcalled.letIn hroom gate.requests false nowMs nowMs
        · split
          · exact ⟨h.active_le, h.maxActive_le, h.queued_le, h.maxQueued_le⟩
          · rename_i hqueue
            refine ⟨h.active_le, h.maxActive_le, ?_, max_le h.maxQueued_le ?_⟩
            · change (gate.pending ++ [_]).length ≤ max gate.maxObservedQueued _
              rw [List.length_append]
              exact le_max_right _ _
            · exact Nat.lt_of_not_ge hqueue
  | abort signal => exact ⟨h.active_le, h.maxActive_le, h.queued_le, h.maxQueued_le⟩
  | onAbort request =>
      change Observed (gate.onAbort request)
      unfold InboxRouteBackpressure.onAbort
      split
      · exact h
      · split
        · cases hremoved : gate.removePending request with
          | none => exact ⟨h.active_le, h.maxActive_le, h.queued_le, h.maxQueued_le⟩
          | some removed =>
              have hkept := h.removePending hremoved
              exact ⟨hkept.active_le, hkept.maxActive_le, hkept.queued_le, hkept.maxQueued_le⟩
        · exact h
  | timedOut request =>
      change Observed (gate.timedOut request)
      unfold InboxRouteBackpressure.timedOut
      split
      · exact h
      · rename_i removed hremoved
        have hkept := h.removePending hremoved
        exact ⟨hkept.active_le, hkept.maxActive_le, hkept.queued_le, hkept.maxQueued_le⟩
  | release request nowMs =>
      change Observed (gate.release request nowMs)
      unfold InboxRouteBackpressure.release
      split
      · refine Observed.drainFrom nowMs rfl ⟨?_, h.maxActive_le, h.queued_le, h.maxQueued_le⟩
        exact (Int.sub_le_self _ (by decide)).trans h.active_le
      · exact h

/-! ## Every run -/

theorem requests_removePending {request : Nat} {removed : InboxRouteBackpressure}
    (h : gate.removePending request = some removed) : removed.requests = gate.requests := by
  unfold InboxRouteBackpressure.removePending at h
  split at h
  · obtain rfl := Option.some.inj h
    rfl
  · cases h

theorem requests_step (gate : InboxRouteBackpressure) (event : BackpressureEvent) :
    (gate.step event).requests = gate.requests + if event.isAcquire then 1 else 0 := by
  cases event with
  | acquire signal nowMs =>
      change (gate.acquire signal nowMs).requests = gate.requests + 1
      unfold InboxRouteBackpressure.acquire
      split
      · rfl
      · split
        · rfl
        · split <;> rfl
  | abort signal => rfl
  | onAbort request =>
      change (gate.onAbort request).requests = gate.requests
      unfold InboxRouteBackpressure.onAbort
      split
      · rfl
      · split
        · cases hremoved : gate.removePending request with
          | none => rfl
          | some removed =>
              have hkept : removed.requests = gate.requests := requests_removePending hremoved
              exact hkept
        · rfl
  | timedOut request =>
      change (gate.timedOut request).requests = gate.requests
      unfold InboxRouteBackpressure.timedOut
      split
      · rfl
      · rename_i removed hremoved
        have hkept : removed.requests = gate.requests := requests_removePending hremoved
        exact hkept
  | release request nowMs =>
      change (gate.release request nowMs).requests = gate.requests
      unfold InboxRouteBackpressure.release InboxRouteBackpressure.drain
      split
      · exact (drainFrom_keeps nowMs _).2
      · rfl

structure Running (limits : BackpressureLimits) (gate : InboxRouteBackpressure) : Prop where
  limits_eq : gate.limits = limits
  accounted : Accounted [] gate
  observed : Observed gate
  sound : gate.fifo.Sound limits.maxConcurrency

theorem Running.step {limits : BackpressureLimits} (h : Running limits gate)
    (event : BackpressureEvent) : Running limits (gate.step event) := by
  obtain ⟨rfl, haccounted, hobserved, hsound⟩ := h
  obtain ⟨hlimits, moves, hadmitted, hmoves⟩ := fifo_step haccounted hsound event
  refine ⟨hlimits, haccounted.step event, hobserved.step event, ?_⟩
  rw [hmoves]
  exact hsound.run hadmitted

theorem running_afterEvents (limits : BackpressureLimits) (events : List BackpressureEvent) :
    Running limits (afterEvents limits events) := by
  refine run_invariant (Running limits) events (fun _ event h => h.step event) ?_
  refine ⟨rfl, accounted_start limits, ⟨le_refl _, ?_, le_refl _, Nat.zero_le _⟩,
    FifoGate.sound_empty⟩
  exact Int.natCast_nonneg _

/-- In every run at most `maxConcurrency` leases are out and `maxQueue` requests wait, none of them
while a lease could be given, and the observed maxima bound what is there now. -/
theorem inboxRouteBackpressure_bounds (limits : BackpressureLimits)
    (events : List BackpressureEvent) :
    let gate := afterEvents limits events
    gate.active = gate.held.length ∧ gate.active ≤ gate.maxObservedActive ∧
      gate.maxObservedActive ≤ limits.maxConcurrency ∧
      gate.pending.length ≤ gate.maxObservedQueued ∧ gate.maxObservedQueued ≤ limits.maxQueue ∧
      (gate.pending ≠ [] → gate.active = limits.maxConcurrency) := by
  intro gate
  obtain ⟨hlimits, haccounted, hobserved, hsound⟩ := running_afterEvents limits events
  have hmaxActive := hobserved.maxActive_le
  have hmaxQueued := hobserved.maxQueued_le
  rw [hlimits] at hmaxActive hmaxQueued
  refine ⟨haccounted.active, hobserved.active_le, hmaxActive, hobserved.queued_le, hmaxQueued, ?_⟩
  intro hsome
  have hfull : gate.held.length = limits.maxConcurrency :=
    hsound.full fun hnone => hsome (List.map_eq_nil_iff.mp hnone)
  rw [haccounted.active, hfull]

/-- In every run each call of `acquire` waits or has been answered, once, whatever times out, is
aborted or released in between.  The totals count the answers, and requests leave the queue by
admission in the order in which they came. -/
theorem inboxRouteBackpressure_answers_once (limits : BackpressureLimits)
    (events : List BackpressureEvent) :
    let gate := afterEvents limits events
    (gate.settled.map Prod.fst ++ gate.waiting).Perm (List.range gate.requests) ∧
      gate.requests = events.countP BackpressureEvent.isAcquire ∧
      gate.admittedTotal = (gate.settled.countP fun entry => entry.2.isResolved) ∧
      gate.rejectedTotal = (gate.settled.countP fun entry => !entry.2.isResolved) ∧
      gate.timedOutTotal = (gate.settled.countP fun entry => entry.2.isTimeout) ∧
      (gate.promoted ++ gate.waiting).Pairwise (· < ·) := by
  intro gate
  obtain ⟨-, haccounted, -, hsound⟩ := running_afterEvents limits events
  have hrequests := run_counter requests BackpressureEvent.isAcquire requests_step (start limits)
    events
  exact ⟨haccounted.once, hrequests.trans (Nat.zero_add _), haccounted.admitted,
    haccounted.rejected, haccounted.timedOut, hsound.ordered⟩

end InboxRouteBackpressure

end Raft.Concurrency
