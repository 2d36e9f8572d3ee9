import Mathlib.Data.Finset.Basic
import Mathlib.Data.Rat.Floor
import Mathlib.Tactic.Linarith
import Raft.Foundation.InsertionMap
import Raft.Foundation.JsString

/-!
# The agent start coordinator

The queue of agent starts is kept twice, as an array and as a map by agent.
Starting agents, the slots in use and the last start are kept beside it, and
every operation checks at its end that the copies agree.
-/

namespace Raft.AgentStarts

open Raft.Foundation

structure AgentStartQueueItem where
  /-- The identity of the object. -/
  object : Nat
  agentId : JsString
  enqueuedAtMs : ℚ
  deriving DecidableEq

inductive BlockedReason where
  | timer_active
  | queue_empty
  | capacity_full
  deriving DecidableEq

inductive AgentStartPumpState where
  | blocked (reason : BlockedReason)
  | rate_limited (item : AgentStartQueueItem) (waitMs : ℚ)
  | ready (item : AgentStartQueueItem)
  deriving DecidableEq

inductive AgentStartDequeueResult where
  | empty
  | stale (item : AgentStartQueueItem)
  | item (item : AgentStartQueueItem)
  deriving DecidableEq

structure AgentStartCoordinator where
  starting : Finset JsString
  queuedByAgent : InsertionMap JsString AgentStartQueueItem
  queue : List AgentStartQueueItem
  activeStarts : ℤ
  /-- A timer is armed. -/
  pumpTimer : Bool
  lastStartAt : ℚ
  lastStartAgentId : Option JsString
  maxConcurrentStarts : ℤ
  minStartIntervalMs : ℤ

namespace AgentStartCoordinator

variable (coordinator : AgentStartCoordinator)

/-! ## Checks -/

def violation (context detail : JsString) : JsString :=
  js "Agent start invariant violation after " ++ context ++ js ": " ++ detail

/-- The first loop of `assertInvariants`; the answer holds the queued ids. -/
def assertQueue (context : JsString) :
    List JsString → List AgentStartQueueItem → Except JsString (List JsString)
  | queuedIds, [] => .ok queuedIds
  | queuedIds, item :: rest =>
      if item.agentId ∈ queuedIds then
        .error (violation context (js "duplicate queued agent " ++ item.agentId))
      else if coordinator.queuedByAgent.get item.agentId ≠ some item then
        .error (violation context (js "queue/map mismatch for " ++ item.agentId))
      else if item.agentId ∈ coordinator.starting then
        .error (violation context (item.agentId ++ js " is queued and starting"))
      else assertQueue context (item.agentId :: queuedIds) rest

def assertMap (context : JsString) (queuedIds : List JsString) :
    List (JsString × AgentStartQueueItem) → Except JsString Unit
  | [] => .ok ()
  | (agentId, item) :: rest =>
      if agentId ∉ queuedIds then
        .error (violation context (js "map-only queued agent " ++ agentId))
      else if item.agentId ≠ agentId then
        .error (violation context (js "map key/item agent mismatch for " ++ agentId))
      else assertMap context queuedIds rest

def assertInvariants (context : JsString) : Except JsString Unit :=
  if coordinator.activeStarts < 0 then
    .error (violation context (js "activeStarts is negative"))
  else if coordinator.activeStarts > coordinator.maxConcurrentStarts then
    .error (violation context (js "activeStarts exceeds maxConcurrentStarts"))
  else do
    let queuedIds ← coordinator.assertQueue context [] coordinator.queue
    if queuedIds.length ≠ coordinator.queuedByAgent.entries.length then
      .error (violation context (js "queue/map size mismatch"))
    else assertMap context queuedIds coordinator.queuedByAgent.entries

def asserted (context : JsString) : Except JsString AgentStartCoordinator :=
  (coordinator.assertInvariants context).map fun _ => coordinator

/-! ## Operations -/

def create (maxConcurrentStarts minStartIntervalMs : ℚ) :
    Except JsString AgentStartCoordinator :=
  asserted
    { starting := ∅
      queuedByAgent := .empty
      queue := []
      activeStarts := 0
      pumpTimer := false
      lastStartAt := 0
      lastStartAgentId := none
      maxConcurrentStarts := max 1 ⌊maxConcurrentStarts⌋
      minStartIntervalMs := max 0 ⌊minStartIntervalMs⌋ } (js "constructor")

def hasStarting (agentId : JsString) : Bool := agentId ∈ coordinator.starting

def hasQueued (agentId : JsString) : Bool := (coordinator.queuedByAgent.get agentId).isSome

def enqueue (item : AgentStartQueueItem) : Except JsString AgentStartCoordinator :=
  if coordinator.hasStarting item.agentId then
    .error (violation (js "enqueue") (item.agentId ++ js " is already starting"))
  else if coordinator.hasQueued item.agentId then
    .error (violation (js "enqueue") (item.agentId ++ js " is already queued"))
  else
    asserted
      { coordinator with
        queue := coordinator.queue ++ [item]
        queuedByAgent := coordinator.queuedByAgent.set item.agentId item } (js "enqueue")

def markStarting (agentId : JsString) : Except JsString AgentStartCoordinator :=
  if coordinator.hasQueued agentId then
    .error (violation (js "markStarting") (agentId ++ js " is still queued"))
  else
    asserted { coordinator with starting := insert agentId coordinator.starting }
      (js "markStarting")

def clearStarting (agentId : JsString) : Except JsString AgentStartCoordinator :=
  asserted { coordinator with starting := coordinator.starting.erase agentId }
    (js "clearStarting")

def getPumpState (now : ℚ) : AgentStartPumpState :=
  if coordinator.pumpTimer then .blocked .timer_active
  else
    match coordinator.queue with
    | [] => .blocked .queue_empty
    | item :: _ =>
        if coordinator.activeStarts ≥ coordinator.maxConcurrentStarts then .blocked .capacity_full
        else
          let shouldRateLimit := some item.agentId ≠ coordinator.lastStartAgentId
          let elapsed := now - coordinator.lastStartAt
          let waitMs :=
            if shouldRateLimit then max 0 (coordinator.minStartIntervalMs - elapsed) else 0
          if waitMs > 0 then .rate_limited item waitMs else .ready item

/-- Arms the timer; what its callback does is a sequence of further operations. -/
def schedulePump : Except JsString AgentStartCoordinator :=
  if coordinator.pumpTimer then .ok coordinator
  else asserted { coordinator with pumpTimer := true } (js "schedulePump")

def timerFires : AgentStartCoordinator := { coordinator with pumpTimer := false }

def dequeue : Except JsString (AgentStartDequeueResult × AgentStartCoordinator) :=
  match coordinator.queue with
  | [] => (coordinator.asserted (js "dequeue empty")).map fun next => (.empty, next)
  | item :: rest =>
      if coordinator.queuedByAgent.get item.agentId ≠ some item then
        (asserted { coordinator with queue := rest } (js "dequeue stale")).map fun next =>
          (.stale item, next)
      else
        (asserted
          { coordinator with
            queue := rest
            queuedByAgent := coordinator.queuedByAgent.delete item.agentId }
          (js "dequeue")).map fun next => (.item item, next)

def claimStartSlot (agentId : JsString) (now : ℚ) : Except JsString AgentStartCoordinator :=
  asserted
    { coordinator with
      activeStarts := coordinator.activeStarts + 1
      lastStartAt := now
      lastStartAgentId := some agentId } (js "claimStartSlot")

def releaseStartSlot : Except JsString (Bool × AgentStartCoordinator) :=
  if coordinator.activeStarts ≤ 0 then .ok (false, coordinator)
  else
    (asserted { coordinator with activeStarts := max 0 (coordinator.activeStarts - 1) }
      (js "releaseStartSlot")).map fun next => (true, next)

def clearPumpTimer : AgentStartCoordinator := { coordinator with pumpTimer := false }

def clearPumpTimerIfIdle : AgentStartCoordinator :=
  if coordinator.queue.length = 0 then coordinator.clearPumpTimer else coordinator

def cancelQueued (agentId : JsString) :
    Except JsString (Option AgentStartQueueItem × AgentStartCoordinator) :=
  match coordinator.queuedByAgent.get agentId with
  | none => .ok (none, coordinator)
  | some item =>
      (asserted
        (clearPumpTimerIfIdle
          { coordinator with
            queuedByAgent := coordinator.queuedByAgent.delete agentId
            queue := coordinator.queue.filter fun candidate => candidate ≠ item })
        (js "cancelQueued")).map fun next => (some item, next)

def cancelAllQueued : Except JsString (List AgentStartQueueItem × AgentStartCoordinator) :=
  let items := coordinator.queue.filter fun item =>
    coordinator.queuedByAgent.get item.agentId = some item
  (asserted (clearPumpTimer { coordinator with queue := [], queuedByAgent := .empty })
    (js "cancelAllQueued")).map fun next => (items, next)

/-! ## Consistency -/

/-- The map lists the queue, no queued agent is starting, and the slots in use are within
bounds. -/
structure Consistent (coordinator : AgentStartCoordinator) : Prop where
  nonnegative : 0 ≤ coordinator.activeStarts
  bounded : coordinator.activeStarts ≤ coordinator.maxConcurrentStarts
  entries : coordinator.queuedByAgent.entries =
    coordinator.queue.map fun item => (item.agentId, item)
  apart : ∀ item ∈ coordinator.queue, item.agentId ∉ coordinator.starting

section Consistency

variable {coordinator : AgentStartCoordinator}

theorem Consistent.get_eq_some (h : coordinator.Consistent) {agentId : JsString}
    {item : AgentStartQueueItem} :
    coordinator.queuedByAgent.get agentId = some item ↔
      item ∈ coordinator.queue ∧ item.agentId = agentId := by
  rw [← InsertionMap.mem_entries_iff, h.entries, List.mem_map]
  constructor
  · rintro ⟨found, hmem, heq⟩
    cases heq
    exact ⟨hmem, rfl⟩
  · rintro ⟨hmem, rfl⟩
    exact ⟨item, hmem, rfl⟩

theorem Consistent.nodup (h : coordinator.Consistent) :
    (coordinator.queue.map AgentStartQueueItem.agentId).Nodup := by
  have hkeys := coordinator.queuedByAgent.nodup
  rw [h.entries, List.map_map] at hkeys
  exact hkeys

theorem Consistent.assertQueue_eq (h : coordinator.Consistent) (context : JsString)
    {queuedIds : List JsString} {items : List AgentStartQueueItem}
    (hitems : ∀ item ∈ items, item ∈ coordinator.queue)
    (hnodup : (items.map AgentStartQueueItem.agentId).Nodup)
    (hfresh : ∀ item ∈ items, item.agentId ∉ queuedIds) :
    coordinator.assertQueue context queuedIds items =
      .ok ((items.map AgentStartQueueItem.agentId).reverse ++ queuedIds) := by
  induction items generalizing queuedIds with
  | nil => rfl
  | cons item rest ih =>
      rw [List.map_cons, List.nodup_cons] at hnodup
      have hmem := hitems item List.mem_cons_self
      rw [assertQueue, if_neg (hfresh item List.mem_cons_self),
        if_neg (not_not.mpr (h.get_eq_some.mpr ⟨hmem, rfl⟩)), if_neg (h.apart item hmem),
        ih (fun other hother => hitems other (List.mem_cons_of_mem _ hother)) hnodup.2]
      · simp
      · intro other hother hlisted
        rcases List.mem_cons.mp hlisted with heq | hold
        · exact hnodup.1 (heq ▸ List.mem_map_of_mem hother)
        · exact hfresh other (List.mem_cons_of_mem _ hother) hold

theorem assertMap_eq (context : JsString) {queuedIds : List JsString}
    {entries : List (JsString × AgentStartQueueItem)}
    (h : ∀ entry ∈ entries, entry.1 ∈ queuedIds ∧ entry.2.agentId = entry.1) :
    assertMap context queuedIds entries = .ok () := by
  induction entries with
  | nil => rfl
  | cons entry rest ih =>
      obtain ⟨hlisted, hagent⟩ := h entry List.mem_cons_self
      rw [assertMap, if_neg (not_not.mpr hlisted), if_neg (not_not.mpr hagent)]
      exact ih fun other hother => h other (List.mem_cons_of_mem _ hother)

theorem Consistent.asserted_eq (h : coordinator.Consistent) (context : JsString) :
    coordinator.asserted context = .ok coordinator := by
  have hqueue : coordinator.assertQueue context [] coordinator.queue =
      .ok (coordinator.queue.map AgentStartQueueItem.agentId).reverse := by
    rw [h.assertQueue_eq context (fun _ hitem => hitem) h.nodup (by simp), List.append_nil]
  have hmap : assertMap context (coordinator.queue.map AgentStartQueueItem.agentId).reverse
      coordinator.queuedByAgent.entries = .ok () := by
    refine assertMap_eq context fun entry hentry => ?_
    rw [h.entries] at hentry
    obtain ⟨item, hitem, rfl⟩ := List.mem_map.mp hentry
    exact ⟨List.mem_reverse.mpr (List.mem_map_of_mem hitem), rfl⟩
  have hlength : (coordinator.queue.map AgentStartQueueItem.agentId).reverse.length =
      coordinator.queuedByAgent.entries.length := by
    rw [h.entries]
    simp
  rw [asserted, assertInvariants, if_neg (not_lt.mpr h.nonnegative), if_neg (not_lt.mpr h.bounded),
    hqueue]
  simp only [bind, Except.bind, hlength, ne_eq, not_true_eq_false, if_false, hmap]
  rfl

theorem Consistent.hasQueued_eq_false (h : coordinator.Consistent) {agentId : JsString} :
    coordinator.hasQueued agentId = false ↔ ∀ item ∈ coordinator.queue, item.agentId ≠ agentId := by
  rw [hasQueued, Option.isSome_eq_false_iff, Option.isNone_iff_eq_none,
    Option.eq_none_iff_forall_ne_some]
  constructor
  · exact fun hnone item hitem hagent => hnone item (h.get_eq_some.mpr ⟨hitem, hagent⟩)
  · exact fun hnone item hget => hnone item (h.get_eq_some.mp hget).1 (h.get_eq_some.mp hget).2

theorem create_eq (maxConcurrentStarts minStartIntervalMs : ℚ) :
    ∃ initial, create maxConcurrentStarts minStartIntervalMs = .ok initial ∧ initial.Consistent ∧
      initial.queue = [] ∧ initial.lastStartAgentId = none ∧
      initial.maxConcurrentStarts = max 1 ⌊maxConcurrentStarts⌋ ∧
      initial.minStartIntervalMs = max 0 ⌊minStartIntervalMs⌋ := by
  refine ⟨_, Consistent.asserted_eq ⟨?_, ?_, rfl, ?_⟩ _, ⟨?_, ?_, rfl, ?_⟩, rfl, rfl, rfl, rfl⟩
  · exact le_refl _
  · exact le_max_of_le_left zero_le_one
  · exact fun _ hitem => absurd hitem List.not_mem_nil
  · exact le_refl _
  · exact le_max_of_le_left zero_le_one
  · exact fun _ hitem => absurd hitem List.not_mem_nil

theorem Consistent.enqueue_eq (h : coordinator.Consistent) {item : AgentStartQueueItem}
    (hstarting : coordinator.hasStarting item.agentId = false)
    (hqueued : coordinator.hasQueued item.agentId = false) :
    let next :=
      { coordinator with
        queue := coordinator.queue ++ [item]
        queuedByAgent := coordinator.queuedByAgent.set item.agentId item }
    coordinator.enqueue item = .ok next ∧ next.Consistent := by
  intro next
  have hkey : item.agentId ∉ coordinator.queuedByAgent.keys := by
    rw [← InsertionMap.get_eq_none_iff, ← Option.isNone_iff_eq_none, ← Option.isSome_eq_false_iff]
    exact hqueued
  have hnext : next.Consistent := by
    refine ⟨h.nonnegative, h.bounded, ?_, fun other hother => ?_⟩
    · have hentries : (coordinator.queuedByAgent.set item.agentId item).entries =
          coordinator.queuedByAgent.entries ++ [(item.agentId, item)] := by
        rw [InsertionMap.set, dif_neg hkey]
      rw [h.entries] at hentries
      simpa [next] using hentries
    · rcases List.mem_append.mp hother with hold | hnew
      · exact h.apart other hold
      · rw [List.mem_singleton.mp hnew]
        exact of_decide_eq_false hstarting
  rw [enqueue, hstarting, hqueued]
  exact ⟨hnext.asserted_eq _, hnext⟩

theorem Consistent.markStarting_eq (h : coordinator.Consistent) {agentId : JsString}
    (hqueued : coordinator.hasQueued agentId = false) :
    let next := { coordinator with starting := insert agentId coordinator.starting }
    coordinator.markStarting agentId = .ok next ∧ next.Consistent := by
  intro next
  have hnext : next.Consistent := by
    refine ⟨h.nonnegative, h.bounded, h.entries, fun item hitem hmem => ?_⟩
    rcases Finset.mem_insert.mp hmem with heq | hold
    · exact h.hasQueued_eq_false.mp hqueued item hitem heq
    · exact h.apart item hitem hold
  rw [markStarting, hqueued]
  exact ⟨hnext.asserted_eq _, hnext⟩

theorem Consistent.clearStarting_eq (h : coordinator.Consistent) (agentId : JsString) :
    let next := { coordinator with starting := coordinator.starting.erase agentId }
    coordinator.clearStarting agentId = .ok next ∧ next.Consistent := by
  intro next
  have hnext : next.Consistent :=
    ⟨h.nonnegative, h.bounded, h.entries, fun item hitem hmem =>
      h.apart item hitem (Finset.mem_of_mem_erase hmem)⟩
  exact ⟨hnext.asserted_eq _, hnext⟩

theorem Consistent.schedulePump_eq (h : coordinator.Consistent) :
    let next := { coordinator with pumpTimer := true }
    coordinator.schedulePump = .ok next ∧ next.Consistent := by
  intro next
  have hnext : next.Consistent := ⟨h.nonnegative, h.bounded, h.entries, h.apart⟩
  refine ⟨?_, hnext⟩
  rw [schedulePump]
  split
  · next harmed =>
      have hsame : next = coordinator := congrArg (fun armed =>
        ({ coordinator with pumpTimer := armed } : AgentStartCoordinator)) harmed.symm
      rw [hsame]
  · exact hnext.asserted_eq _

theorem Consistent.timerFires (h : coordinator.Consistent) : coordinator.timerFires.Consistent :=
  ⟨h.nonnegative, h.bounded, h.entries, h.apart⟩

theorem Consistent.dequeue_nil (h : coordinator.Consistent) (hqueue : coordinator.queue = []) :
    coordinator.dequeue = .ok (.empty, coordinator) := by
  have hasserted := h.asserted_eq (js "dequeue empty")
  rw [dequeue]
  split
  · rw [hasserted]
    rfl
  · next hcons => rw [hqueue] at hcons; cases hcons

theorem Consistent.dequeue_cons (h : coordinator.Consistent) {item : AgentStartQueueItem}
    {rest : List AgentStartQueueItem} (hqueue : coordinator.queue = item :: rest) :
    let next :=
      { coordinator with
        queue := rest
        queuedByAgent := coordinator.queuedByAgent.delete item.agentId }
    coordinator.dequeue = .ok (.item item, next) ∧ next.Consistent := by
  intro next
  have hget : coordinator.queuedByAgent.get item.agentId = some item :=
    h.get_eq_some.mpr ⟨hqueue ▸ List.mem_cons_self, rfl⟩
  have hnodup := h.nodup
  rw [hqueue, List.map_cons, List.nodup_cons] at hnodup
  have hnext : next.Consistent := by
    refine ⟨h.nonnegative, h.bounded, ?_, fun other hother =>
      h.apart other (hqueue ▸ List.mem_cons_of_mem _ hother)⟩
    have hothers : ∀ other ∈ rest.map fun item => (item.agentId, item),
        decide (other.1 ≠ item.agentId) = true := by
      rintro other hother
      obtain ⟨found, hfound, rfl⟩ := List.mem_map.mp hother
      refine decide_eq_true fun heq => hnodup.1 ?_
      exact heq ▸ List.mem_map_of_mem hfound
    have hentries : (coordinator.queuedByAgent.delete item.agentId).entries =
        coordinator.queuedByAgent.entries.filter fun entry => entry.1 ≠ item.agentId := rfl
    rw [h.entries, hqueue, List.map_cons, List.filter_cons_of_neg (by simp)] at hentries
    exact hentries.trans (List.filter_eq_self.mpr hothers)
  refine ⟨?_, hnext⟩
  rw [dequeue]
  split
  · next hnil => rw [hqueue] at hnil; cases hnil
  · next head tail hcons =>
      obtain ⟨rfl, rfl⟩ := List.cons.inj (hqueue.symm.trans hcons)
      rw [if_neg (not_not.mpr hget), hnext.asserted_eq]
      rfl

theorem Consistent.claimStartSlot_eq (h : coordinator.Consistent) (agentId : JsString) (now : ℚ)
    (hfree : coordinator.activeStarts < coordinator.maxConcurrentStarts) :
    let next :=
      { coordinator with
        activeStarts := coordinator.activeStarts + 1
        lastStartAt := now
        lastStartAgentId := some agentId }
    coordinator.claimStartSlot agentId now = .ok next ∧ next.Consistent := by
  intro next
  have hnext : next.Consistent :=
    ⟨(Int.add_nonneg h.nonnegative (by decide)), hfree, h.entries, h.apart⟩
  exact ⟨hnext.asserted_eq _, hnext⟩

theorem Consistent.releaseStartSlot_eq (h : coordinator.Consistent) :
    ∃ released activeStarts, activeStarts ≤ coordinator.activeStarts ∧
      coordinator.releaseStartSlot =
        .ok (released, { coordinator with activeStarts := activeStarts }) ∧
      ({ coordinator with activeStarts := activeStarts } : AgentStartCoordinator).Consistent := by
  rw [releaseStartSlot]
  split
  · exact ⟨false, coordinator.activeStarts, le_refl _, rfl, h⟩
  · next hactive =>
      have hle : max 0 (coordinator.activeStarts - 1) ≤ coordinator.activeStarts := by omega
      have hnext : ({ coordinator with
          activeStarts := max 0 (coordinator.activeStarts - 1) } :
            AgentStartCoordinator).Consistent :=
        ⟨le_max_left _ _, hle.trans h.bounded, h.entries, h.apart⟩
      refine ⟨true, _, hle, ?_, hnext⟩
      rw [hnext.asserted_eq]
      rfl

theorem Consistent.clearPumpTimerIfIdle (h : coordinator.Consistent) :
    coordinator.clearPumpTimerIfIdle.Consistent := by
  rw [AgentStartCoordinator.clearPumpTimerIfIdle]
  split
  · exact ⟨h.nonnegative, h.bounded, h.entries, h.apart⟩
  · exact h

theorem Consistent.cancelQueued_none (agentId : JsString)
    (hget : coordinator.queuedByAgent.get agentId = none) :
    coordinator.cancelQueued agentId = .ok (none, coordinator) := by
  rw [cancelQueued, hget]

theorem Consistent.cancelQueued_some (h : coordinator.Consistent) {agentId : JsString}
    {item : AgentStartQueueItem} (hget : coordinator.queuedByAgent.get agentId = some item) :
    let next := AgentStartCoordinator.clearPumpTimerIfIdle
      { coordinator with
        queuedByAgent := coordinator.queuedByAgent.delete agentId
        queue := coordinator.queue.filter fun candidate => candidate ≠ item }
    coordinator.cancelQueued agentId = .ok (some item, next) ∧ next.Consistent := by
  intro next
  obtain ⟨hitem, hagent⟩ := h.get_eq_some.mp hget
  have hsame : ∀ other ∈ coordinator.queue,
      decide (other.agentId ≠ agentId) = decide (other ≠ item) := by
    intro other hother
    refine decide_eq_decide.mpr (not_congr ?_)
    constructor
    · intro heq
      exact List.inj_on_of_nodup_map h.nodup hother hitem (heq.trans hagent.symm)
    · rintro rfl
      exact hagent
  have hnext : next.Consistent := by
    refine Consistent.clearPumpTimerIfIdle ⟨h.nonnegative, h.bounded, ?_, fun other hother =>
      h.apart other (List.mem_of_mem_filter hother)⟩
    have hentries : (coordinator.queuedByAgent.delete agentId).entries =
        coordinator.queuedByAgent.entries.filter fun entry => entry.1 ≠ agentId := rfl
    rw [h.entries, List.filter_map] at hentries
    exact hentries.trans (congrArg _ (List.filter_congr hsame))
  refine ⟨?_, hnext⟩
  rw [cancelQueued, hget]
  simp only
  rw [hnext.asserted_eq]
  rfl

theorem Consistent.cancelAllQueued_eq (h : coordinator.Consistent) :
    let next := AgentStartCoordinator.clearPumpTimer
      { coordinator with queue := [], queuedByAgent := .empty }
    coordinator.cancelAllQueued = .ok (coordinator.queue, next) ∧ next.Consistent := by
  intro next
  have hnext : next.Consistent :=
    ⟨h.nonnegative, h.bounded, rfl, fun _ hitem => absurd hitem List.not_mem_nil⟩
  have hitems : (coordinator.queue.filter fun item =>
      coordinator.queuedByAgent.get item.agentId = some item) = coordinator.queue :=
    List.filter_eq_self.mpr fun item hitem =>
      decide_eq_true (h.get_eq_some.mpr ⟨hitem, rfl⟩)
  refine ⟨?_, hnext⟩
  rw [cancelAllQueued, hitems, hnext.asserted_eq]
  rfl

theorem getPumpState_ready {now : ℚ} {item : AgentStartQueueItem}
    (h : coordinator.getPumpState now = .ready item) :
    (∃ rest, coordinator.queue = item :: rest) ∧
      coordinator.activeStarts < coordinator.maxConcurrentStarts ∧
      (some item.agentId ≠ coordinator.lastStartAgentId →
        coordinator.lastStartAt + coordinator.minStartIntervalMs ≤ now) := by
  rw [getPumpState] at h
  split at h
  · cases h
  · split at h
    · cases h
    · next head rest hqueue =>
        split at h
        · cases h
        · next hfree =>
            simp only at h
            generalize hwaitMs : (if some head.agentId ≠ coordinator.lastStartAgentId then
              max 0 (coordinator.minStartIntervalMs - (now - coordinator.lastStartAt))
              else 0) = waitMs at h
            split at h
            · cases h
            · next hwait =>
                cases h
                refine ⟨⟨rest, hqueue⟩, not_le.mp hfree, fun hother => ?_⟩
                rw [if_pos hother] at hwaitMs
                rw [← hwaitMs] at hwait
                have hnone := (max_le_iff.mp (not_lt.mp hwait)).2
                linarith

end Consistency

end AgentStartCoordinator

end Raft.AgentStarts
