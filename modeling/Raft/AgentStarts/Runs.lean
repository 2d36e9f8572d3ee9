import Mathlib.Data.List.Chain
import Mathlib.Data.List.Range
import Raft.AgentStarts.Coordinator
import Raft.Foundation.Run

/-!
# Runs of the start queue

Each enqueued item gets a ticket beside the coordinator, and the answers say
which tickets were handed out.  The tickets still queued belong to the items of
the queue, in the same order, so nothing is lost, repeated or overtaken.
-/

namespace Raft.AgentStarts

open Raft.Foundation

/-! ## Operations and answers -/

inductive StartOp where
  | enqueue (item : AgentStartQueueItem)
  | markStarting (agentId : JsString)
  | clearStarting (agentId : JsString)
  | getPumpState (now : ℚ)
  | schedulePump
  | timerFires
  | dequeue
  | claimStartSlot (agentId : JsString) (now : ℚ)
  | releaseStartSlot
  | cancelQueued (agentId : JsString)
  | cancelAllQueued

inductive StartAnswer where
  | done
  | pumpState (state : AgentStartPumpState)
  | dequeued (result : AgentStartDequeueResult)
  | released (released : Bool)
  | cancelled (item : Option AgentStartQueueItem)
  | cancelledAll (items : List AgentStartQueueItem)

namespace AgentStartCoordinator

def perform (coordinator : AgentStartCoordinator) :
    StartOp → Except JsString (StartAnswer × AgentStartCoordinator)
  | .enqueue item => (coordinator.enqueue item).map fun next => (.done, next)
  | .markStarting agentId => (coordinator.markStarting agentId).map fun next => (.done, next)
  | .clearStarting agentId => (coordinator.clearStarting agentId).map fun next => (.done, next)
  | .getPumpState now => .ok (.pumpState (coordinator.getPumpState now), coordinator)
  | .schedulePump => coordinator.schedulePump.map fun next => (.done, next)
  | .timerFires => .ok (.done, coordinator.timerFires)
  | .dequeue => coordinator.dequeue.map fun answer => (.dequeued answer.1, answer.2)
  | .claimStartSlot agentId now =>
      (coordinator.claimStartSlot agentId now).map fun next => (.done, next)
  | .releaseStartSlot =>
      coordinator.releaseStartSlot.map fun answer => (.released answer.1, answer.2)
  | .cancelQueued agentId =>
      (coordinator.cancelQueued agentId).map fun answer => (.cancelled answer.1, answer.2)
  | .cancelAllQueued =>
      coordinator.cancelAllQueued.map fun answer => (.cancelledAll answer.1, answer.2)

end AgentStartCoordinator

/-! ## Tickets -/

/-- How far a pump has come: it was told to go on at a time, and it was handed an agent's item. -/
inductive PumpPhase where
  | idle
  | ready (now : ℚ)
  | handed (agentId : JsString) (now : ℚ)
  deriving DecidableEq

def PumpPhase.next : PumpPhase → StartOp → StartAnswer → PumpPhase
  | _, .getPumpState now, .pumpState (.ready _) => .ready now
  | .ready now, .dequeue, .dequeued (.item item) => .handed item.agentId now
  | _, _, _ => .idle

structure StartRun where
  coordinator : AgentStartCoordinator
  /-- The message of the last operation that threw. -/
  thrown : Option JsString
  phase : PumpPhase
  /-- The item of each ticket. -/
  enqueued : List AgentStartQueueItem
  queued : List (Nat × AgentStartQueueItem)
  /-- What `dequeue` handed out, and for which tickets. -/
  dequeued : List (Nat × AgentStartQueueItem)
  /-- What the two cancelling operations handed out, and for which tickets. -/
  cancelled : List (Nat × AgentStartQueueItem)
  stale : List AgentStartQueueItem
  claims : List (JsString × ℚ)

namespace StartRun

def start (coordinator : AgentStartCoordinator) : StartRun where
  coordinator := coordinator
  thrown := none
  phase := .idle
  enqueued := []
  queued := []
  dequeued := []
  cancelled := []
  stale := []
  claims := []

def watch (record : StartRun) : StartOp → StartAnswer → StartRun
  | .enqueue item, _ =>
      { record with
        enqueued := record.enqueued ++ [item]
        queued := record.queued ++ [(record.enqueued.length, item)] }
  | .claimStartSlot agentId now, _ =>
      { record with claims := record.claims ++ [(agentId, now)] }
  | _, .dequeued (.item item) =>
      { record with
        queued := record.queued.drop 1
        dequeued := record.dequeued ++ (record.queued.take 1).map fun entry => (entry.1, item) }
  | _, .dequeued (.stale item) =>
      { record with queued := record.queued.drop 1, stale := record.stale ++ [item] }
  | _, .cancelled (some item) =>
      { record with
        queued := record.queued.filter fun entry => entry.2 ≠ item
        cancelled := record.cancelled ++ record.queued.filter fun entry => entry.2 = item }
  | _, .cancelledAll items =>
      { record with
        queued := []
        cancelled := record.cancelled ++ (record.queued.map Prod.fst).zip items }
  | _, _ => record

def step (record : StartRun) (op : StartOp) : StartRun :=
  match record.coordinator.perform op with
  | .error message => { record with thrown := some message, phase := .idle }
  | .ok (answer, next) =>
      { record.watch op answer with
        coordinator := next
        phase := record.phase.next op answer }

/-- What callers promise.  A slot is claimed by a pump that was told to go on and then handed the
agent's item. -/
def Allowed (record : StartRun) : StartOp → Prop
  | .enqueue item =>
      record.coordinator.hasStarting item.agentId = false ∧
        record.coordinator.hasQueued item.agentId = false
  | .markStarting agentId => record.coordinator.hasQueued agentId = false
  | .claimStartSlot agentId now =>
      ∃ readyAt, record.phase = .handed agentId readyAt ∧ readyAt ≤ now
  | _ => True

end StartRun

def Spaced (interval : ℤ) (claims : List (JsString × ℚ)) : Prop :=
  claims.IsChain fun first second => first.1 ≠ second.1 →
    first.2 + (interval : ℚ) ≤ second.2

/-- No operation threw, no dequeued item was stale, each ticket is in one place with its item,
items were dequeued in the order of their tickets, and slots and claims kept their limits. -/
structure Orderly (slots interval : ℤ) (record : StartRun) : Prop where
  quiet : record.thrown = none
  fresh : record.stale = []
  accounted : ((record.dequeued ++ record.cancelled ++ record.queued).map Prod.fst).Perm
    (List.range record.enqueued.length)
  same : ∀ entry ∈ record.dequeued ++ record.cancelled ++ record.queued,
    record.enqueued[entry.1]? = some entry.2
  still : record.queued.map Prod.snd = record.coordinator.queue
  ordered : (record.dequeued.map Prod.fst).Pairwise (· < ·)
  bounded : record.coordinator.activeStarts ≤ slots
  spaced : Spaced interval record.claims

/-! ## The invariant -/

def PumpPhase.Holds (coordinator : AgentStartCoordinator) : PumpPhase → Prop
  | .idle => True
  | .ready now =>
      coordinator.activeStarts < coordinator.maxConcurrentStarts ∧
        ∃ item rest, coordinator.queue = item :: rest ∧
          (some item.agentId ≠ coordinator.lastStartAgentId →
            coordinator.lastStartAt + coordinator.minStartIntervalMs ≤ now)
  | .handed agentId now =>
      coordinator.activeStarts < coordinator.maxConcurrentStarts ∧
        (some agentId ≠ coordinator.lastStartAgentId →
          coordinator.lastStartAt + coordinator.minStartIntervalMs ≤ now)

structure Tracked (slots interval : ℤ) (record : StartRun) : Prop where
  consistent : record.coordinator.Consistent
  maxSlots : record.coordinator.maxConcurrentStarts = slots
  minInterval : record.coordinator.minStartIntervalMs = interval
  quiet : record.thrown = none
  fresh : record.stale = []
  accounted : ((record.dequeued ++ record.cancelled ++ record.queued).map Prod.fst).Perm
    (List.range record.enqueued.length)
  same : ∀ entry ∈ record.dequeued ++ record.cancelled ++ record.queued,
    record.enqueued[entry.1]? = some entry.2
  still : record.queued.map Prod.snd = record.coordinator.queue
  ordered : ((record.dequeued ++ record.queued).map Prod.fst).Pairwise (· < ·)
  last : record.claims.getLast? =
    record.coordinator.lastStartAgentId.map fun agentId =>
      (agentId, record.coordinator.lastStartAt)
  spaced : Spaced interval record.claims
  phase : record.phase.Holds record.coordinator

namespace Tracked

variable {slots interval : ℤ} {record : StartRun}

theorem orderly (h : Tracked slots interval record) : Orderly slots interval record where
  quiet := h.quiet
  fresh := h.fresh
  accounted := h.accounted
  same := h.same
  still := h.still
  ordered := by
    have hordered := h.ordered
    rw [List.map_append] at hordered
    exact (List.pairwise_append.mp hordered).1
  bounded := h.maxSlots ▸ h.consistent.bounded
  spaced := h.spaced

theorem unmoved (h : Tracked slots interval record) {next : AgentStartCoordinator}
    (hnext : next.Consistent) (hqueue : next.queue = record.coordinator.queue)
    (hlimits : next.maxConcurrentStarts = record.coordinator.maxConcurrentStarts ∧
      next.minStartIntervalMs = record.coordinator.minStartIntervalMs)
    (hlast : next.lastStartAgentId = record.coordinator.lastStartAgentId ∧
      next.lastStartAt = record.coordinator.lastStartAt)
    {phase : PumpPhase} (hphase : phase.Holds next) :
    Tracked slots interval { record with coordinator := next, phase := phase } where
  consistent := hnext
  maxSlots := hlimits.1.trans h.maxSlots
  minInterval := hlimits.2.trans h.minInterval
  quiet := h.quiet
  fresh := h.fresh
  accounted := h.accounted
  same := h.same
  still := h.still.trans hqueue.symm
  ordered := h.ordered
  last := by
    simp only [hlast.1, hlast.2]
    exact h.last
  spaced := h.spaced
  phase := hphase

theorem lt_of_queued (h : Tracked slots interval record) {ticket : Nat}
    (hticket : ticket ∈ (record.dequeued ++ record.queued).map Prod.fst) :
    ticket < record.enqueued.length := by
  refine List.mem_range.mp (h.accounted.mem_iff.mp ?_)
  simp only [List.map_append, List.mem_append] at hticket ⊢
  exact hticket.imp_left Or.inl

theorem enqueue (h : Tracked slots interval record) {item : AgentStartQueueItem}
    (hallowed : record.Allowed (.enqueue item)) :
    Tracked slots interval (record.step (.enqueue item)) := by
  obtain ⟨heq, hnext⟩ := h.consistent.enqueue_eq hallowed.1 hallowed.2
  have hstep : record.step (.enqueue item) = { record.watch (.enqueue item) .done with
      coordinator :=
        { record.coordinator with
          queue := record.coordinator.queue ++ [item]
          queuedByAgent := record.coordinator.queuedByAgent.set item.agentId item }
      phase := .idle } := by
    rw [StartRun.step, AgentStartCoordinator.perform, heq]
    rfl
  rw [hstep]
  refine ⟨hnext, h.maxSlots, h.minInterval, h.quiet, h.fresh, ?_, ?_, ?_, ?_, h.last, h.spaced,
    trivial⟩
  · have hperm := h.accounted.append_right [record.enqueued.length]
    simpa [StartRun.watch, List.range_succ] using hperm
  · intro entry hentry
    rw [StartRun.watch, ← List.append_assoc] at hentry
    rcases List.mem_append.mp hentry with hold | hnew
    · have hsame := h.same entry hold
      have hlt : entry.1 < record.enqueued.length := (List.getElem?_eq_some_iff.mp hsame).1
      exact (List.getElem?_append_left hlt).trans hsame
    · rw [List.mem_singleton.mp hnew]
      exact List.getElem?_concat_length
  · rw [StartRun.watch, List.map_append, h.still]
    rfl
  · rw [StartRun.watch, ← List.append_assoc, List.map_append, List.pairwise_append]
    refine ⟨h.ordered, List.pairwise_singleton _ _, fun ticket hticket other hother => ?_⟩
    rw [List.mem_singleton.mp hother]
    exact h.lt_of_queued hticket

theorem dequeue (h : Tracked slots interval record) :
    Tracked slots interval (record.step .dequeue) := by
  cases hqueue : record.coordinator.queue with
  | nil =>
      have hstep : record.step .dequeue =
          { record with coordinator := record.coordinator, phase := .idle } := by
        rw [StartRun.step, AgentStartCoordinator.perform, h.consistent.dequeue_nil hqueue]
        cases hphase : record.phase <;> simp [PumpPhase.next, Except.map, StartRun.watch]
      rw [hstep]
      exact h.unmoved h.consistent rfl ⟨rfl, rfl⟩ ⟨rfl, rfl⟩ trivial
  | cons item rest =>
      obtain ⟨heq, hnext⟩ := h.consistent.dequeue_cons hqueue
      obtain ⟨⟨ticket, found⟩, tail, hqueued, hfound, htail⟩ :
          ∃ entry tail, record.queued = entry :: tail ∧ entry.2 = item ∧
            tail.map Prod.snd = rest := by
        have hstill := h.still.trans hqueue
        obtain ⟨entry, tail, hcons, hentry, htail⟩ := List.map_eq_cons_iff.mp hstill
        exact ⟨entry, tail, hcons, hentry, htail⟩
      obtain rfl : found = item := hfound
      obtain ⟨phase, hphase, hholds⟩ : ∃ phase,
          record.phase.next .dequeue (.dequeued (.item found)) = phase ∧
          phase.Holds { record.coordinator with
            queue := rest
            queuedByAgent := record.coordinator.queuedByAgent.delete found.agentId } := by
        cases hphase : record.phase with
        | idle => exact ⟨.idle, rfl, trivial⟩
        | handed agentId now => exact ⟨.idle, rfl, trivial⟩
        | ready now =>
            refine ⟨.handed found.agentId now, rfl, ?_⟩
            have hready := h.phase
            rw [hphase] at hready
            obtain ⟨hfree, item, others, hhead, hspaced⟩ := hready
            obtain ⟨rfl, -⟩ := List.cons.inj (hhead.symm.trans hqueue)
            exact ⟨hfree, hspaced⟩
      have hstep : record.step .dequeue =
          { record with
            coordinator :=
              { record.coordinator with
                queue := rest
                queuedByAgent := record.coordinator.queuedByAgent.delete found.agentId }
            phase := phase
            queued := tail
            dequeued := record.dequeued ++ [(ticket, found)] } := by
        rw [StartRun.step, AgentStartCoordinator.perform, heq, ← hphase]
        simp [Except.map, StartRun.watch, hqueued]
      have hsplit : record.dequeued ++ [(ticket, found)] ++ tail =
          record.dequeued ++ record.queued := by
        rw [hqueued, List.append_assoc]
        rfl
      have hperm : (record.dequeued ++ [(ticket, found)] ++ record.cancelled ++ tail).Perm
          (record.dequeued ++ record.cancelled ++ record.queued) := by
        rw [hqueued]
        simp only [List.append_assoc, List.singleton_append]
        exact List.Perm.append_left _ (List.perm_middle.symm)
      rw [hstep]
      exact ⟨hnext, h.maxSlots, h.minInterval, h.quiet, h.fresh,
        (hperm.map Prod.fst).trans h.accounted,
        fun entry hentry => h.same entry (hperm.mem_iff.mp hentry), htail,
        hsplit ▸ h.ordered, h.last, h.spaced, hholds⟩

theorem clearPumpTimerIfIdle_frame (coordinator : AgentStartCoordinator) :
    coordinator.clearPumpTimerIfIdle.queue = coordinator.queue ∧
      coordinator.clearPumpTimerIfIdle.maxConcurrentStarts = coordinator.maxConcurrentStarts ∧
      coordinator.clearPumpTimerIfIdle.minStartIntervalMs = coordinator.minStartIntervalMs ∧
      coordinator.clearPumpTimerIfIdle.lastStartAgentId = coordinator.lastStartAgentId ∧
      coordinator.clearPumpTimerIfIdle.lastStartAt = coordinator.lastStartAt := by
  rw [AgentStartCoordinator.clearPumpTimerIfIdle]
  split
  · exact ⟨rfl, rfl, rfl, rfl, rfl⟩
  · exact ⟨rfl, rfl, rfl, rfl, rfl⟩

theorem drop (h : Tracked slots interval record) {next : AgentStartCoordinator}
    {kept gone : List (Nat × AgentStartQueueItem)} (hnext : next.Consistent)
    (hlimits : next.maxConcurrentStarts = record.coordinator.maxConcurrentStarts ∧
      next.minStartIntervalMs = record.coordinator.minStartIntervalMs)
    (hlast : next.lastStartAgentId = record.coordinator.lastStartAgentId ∧
      next.lastStartAt = record.coordinator.lastStartAt)
    (hsublist : kept.Sublist record.queued) (hperm : (gone ++ kept).Perm record.queued)
    (hkept : kept.map Prod.snd = next.queue) :
    Tracked slots interval
      { record with
        coordinator := next
        phase := .idle
        queued := kept
        cancelled := record.cancelled ++ gone } := by
  have hall : (record.dequeued ++ (record.cancelled ++ gone) ++ kept).Perm
      (record.dequeued ++ record.cancelled ++ record.queued) := by
    have happend := hperm.append_left (record.dequeued ++ record.cancelled)
    simpa only [List.append_assoc] using happend
  refine ⟨hnext, hlimits.1.trans h.maxSlots, hlimits.2.trans h.minInterval, h.quiet, h.fresh,
    (hall.map Prod.fst).trans h.accounted, fun entry hentry => h.same entry
    (hall.mem_iff.mp hentry), hkept, ?_, ?_, h.spaced, trivial⟩
  · exact h.ordered.sublist ((hsublist.append_left _).map Prod.fst)
  · simp only [hlast.1, hlast.2]
    exact h.last

theorem cancelQueued (h : Tracked slots interval record) (agentId : JsString) :
    Tracked slots interval (record.step (.cancelQueued agentId)) := by
  have hidle (answer : StartAnswer) : record.phase.next (.cancelQueued agentId) answer = .idle := by
    cases record.phase <;> rfl
  cases hget : record.coordinator.queuedByAgent.get agentId with
  | none =>
      have hstep : record.step (.cancelQueued agentId) =
          { record with coordinator := record.coordinator, phase := .idle } := by
        rw [StartRun.step, AgentStartCoordinator.perform,
          AgentStartCoordinator.Consistent.cancelQueued_none agentId hget]
        simp only [Except.map, hidle]
        rfl
      rw [hstep]
      exact h.unmoved h.consistent rfl ⟨rfl, rfl⟩ ⟨rfl, rfl⟩ trivial
  | some item =>
      obtain ⟨heq, hnext⟩ := h.consistent.cancelQueued_some hget
      generalize hcleared : AgentStartCoordinator.clearPumpTimerIfIdle _ = next at heq hnext
      obtain ⟨hqueue, hslots, hinterval, hagent, hat⟩ :=
        hcleared ▸ clearPumpTimerIfIdle_frame { record.coordinator with
          queuedByAgent := record.coordinator.queuedByAgent.delete agentId
          queue := record.coordinator.queue.filter fun candidate => candidate ≠ item }
      have hstep : record.step (.cancelQueued agentId) =
          { record with
            coordinator := next
            phase := .idle
            queued := record.queued.filter fun entry => entry.2 ≠ item
            cancelled := record.cancelled ++ record.queued.filter fun entry => entry.2 =
              item } := by
        rw [StartRun.step, AgentStartCoordinator.perform, heq]
        simp only [Except.map, hidle]
        rfl
      rw [hstep]
      refine h.drop hnext ⟨hslots, hinterval⟩ ⟨hagent, hat⟩ List.filter_sublist ?_ ?_
      · simpa using List.filter_append_perm (fun entry : Nat × AgentStartQueueItem =>
          decide (entry.2 = item)) record.queued
      · rw [hqueue, ← h.still, List.filter_map]
        rfl

theorem cancelAllQueued (h : Tracked slots interval record) :
    Tracked slots interval (record.step .cancelAllQueued) := by
  obtain ⟨heq, hnext⟩ := h.consistent.cancelAllQueued_eq
  generalize hcleared : AgentStartCoordinator.clearPumpTimer _ = next at heq hnext
  have hitems : (record.queued.map Prod.fst).zip record.coordinator.queue = record.queued :=
    (List.zip_of_prod rfl h.still).symm
  have hidle (answer : StartAnswer) : record.phase.next .cancelAllQueued answer = .idle := by
    cases record.phase <;> rfl
  have hstep : record.step .cancelAllQueued =
      { record with
        coordinator := next
        phase := .idle
        queued := []
        cancelled := record.cancelled ++ record.queued } := by
    rw [StartRun.step, AgentStartCoordinator.perform, heq]
    simp only [Except.map, hidle, StartRun.watch, hitems]
  rw [hstep]
  subst hcleared
  exact h.drop hnext ⟨rfl, rfl⟩ ⟨rfl, rfl⟩ (List.nil_sublist _)
    (by rw [List.append_nil]) rfl

theorem claimStartSlot (h : Tracked slots interval record) {agentId : JsString} {now : ℚ}
    (hallowed : record.Allowed (.claimStartSlot agentId now)) :
    Tracked slots interval (record.step (.claimStartSlot agentId now)) := by
  obtain ⟨readyAt, hphase, hle⟩ := hallowed
  have hholds := h.phase
  rw [hphase] at hholds
  obtain ⟨hfree, hspaced⟩ := hholds
  obtain ⟨heq, hnext⟩ := h.consistent.claimStartSlot_eq agentId now hfree
  have hstep : record.step (.claimStartSlot agentId now) =
      { record with
        coordinator :=
          { record.coordinator with
            activeStarts := record.coordinator.activeStarts + 1
            lastStartAt := now
            lastStartAgentId := some agentId }
        phase := .idle
        claims := record.claims ++ [(agentId, now)] } := by
    rw [StartRun.step, AgentStartCoordinator.perform, heq, hphase]
    rfl
  rw [hstep]
  refine ⟨hnext, h.maxSlots, h.minInterval, h.quiet, h.fresh, h.accounted, h.same, h.still,
    h.ordered, ?_, ?_, trivial⟩
  · exact List.getLast?_concat
  · refine List.IsChain.append h.spaced (List.isChain_singleton _) ?_
    intro last hlast claim hclaim hother
    obtain rfl : claim = (agentId, now) := by simpa using hclaim.symm
    rw [h.last] at hlast
    obtain ⟨lastAgent, hagent, rfl⟩ := Option.map_eq_some_iff.mp hlast
    have hwaited := hspaced (by rw [hagent]; exact fun heq => hother (Option.some.inj heq).symm)
    rw [h.minInterval] at hwaited
    exact hwaited.trans hle

theorem step_unmoved {op : StartOp} {answer : StartAnswer} {next : AgentStartCoordinator}
    {phase : PumpPhase} (hperform : record.coordinator.perform op = .ok (answer, next))
    (hwatch : record.watch op answer = record) (hphase : record.phase.next op answer = phase) :
    record.step op = { record with coordinator := next, phase := phase } := by
  rw [StartRun.step, hperform]
  simp only [hwatch, hphase]

theorem getPumpState (h : Tracked slots interval record) (now : ℚ) :
    Tracked slots interval (record.step (.getPumpState now)) := by
  have hidle {state : AgentStartPumpState}
      (hstate : record.coordinator.getPumpState now = state)
      (hphase : record.phase.next (.getPumpState now) (.pumpState state) = .idle) :
      Tracked slots interval (record.step (.getPumpState now)) := by
    rw [step_unmoved rfl rfl (hstate ▸ hphase)]
    exact h.unmoved h.consistent rfl ⟨rfl, rfl⟩ ⟨rfl, rfl⟩ trivial
  cases hstate : record.coordinator.getPumpState now with
  | blocked reason => exact hidle hstate (by cases record.phase <;> rfl)
  | rate_limited item waitMs => exact hidle hstate (by cases record.phase <;> rfl)
  | ready item =>
      obtain ⟨⟨rest, hqueue⟩, hfree, hspaced⟩ :=
        AgentStartCoordinator.getPumpState_ready hstate
      have hphase : record.phase.next (.getPumpState now)
          (.pumpState (record.coordinator.getPumpState now)) = .ready now := by
        rw [hstate]
        cases record.phase <;> rfl
      rw [step_unmoved rfl rfl hphase]
      exact h.unmoved h.consistent rfl ⟨rfl, rfl⟩ ⟨rfl, rfl⟩
        ⟨hfree, item, rest, hqueue, hspaced⟩

theorem step (h : Tracked slots interval record) {op : StartOp} (hallowed : record.Allowed op) :
    Tracked slots interval (record.step op) := by
  cases op with
  | enqueue item => exact h.enqueue hallowed
  | dequeue => exact h.dequeue
  | claimStartSlot agentId now => exact h.claimStartSlot hallowed
  | cancelQueued agentId => exact h.cancelQueued agentId
  | cancelAllQueued => exact h.cancelAllQueued
  | getPumpState now => exact h.getPumpState now
  | markStarting agentId =>
      obtain ⟨heq, hnext⟩ := h.consistent.markStarting_eq hallowed
      rw [step_unmoved (by rw [AgentStartCoordinator.perform, heq]; rfl) rfl
        (by cases record.phase <;> rfl)]
      exact h.unmoved hnext rfl ⟨rfl, rfl⟩ ⟨rfl, rfl⟩ trivial
  | clearStarting agentId =>
      obtain ⟨heq, hnext⟩ := h.consistent.clearStarting_eq agentId
      rw [step_unmoved (by rw [AgentStartCoordinator.perform, heq]; rfl) rfl
        (by cases record.phase <;> rfl)]
      exact h.unmoved hnext rfl ⟨rfl, rfl⟩ ⟨rfl, rfl⟩ trivial
  | schedulePump =>
      obtain ⟨heq, hnext⟩ := h.consistent.schedulePump_eq
      rw [step_unmoved (by rw [AgentStartCoordinator.perform, heq]; rfl) rfl
        (by cases record.phase <;> rfl)]
      exact h.unmoved hnext rfl ⟨rfl, rfl⟩ ⟨rfl, rfl⟩ trivial
  | timerFires =>
      rw [step_unmoved rfl rfl (by cases record.phase <;> rfl)]
      exact h.unmoved h.consistent.timerFires rfl ⟨rfl, rfl⟩ ⟨rfl, rfl⟩ trivial
  | releaseStartSlot =>
      obtain ⟨released, activeStarts, -, heq, hnext⟩ := h.consistent.releaseStartSlot_eq
      rw [step_unmoved (by rw [AgentStartCoordinator.perform, heq]; rfl) rfl
        (by cases record.phase <;> rfl)]
      exact h.unmoved hnext rfl ⟨rfl, rfl⟩ ⟨rfl, rfl⟩ trivial

theorem start {initial : AgentStartCoordinator} (hinitial : initial.Consistent)
    (hqueue : initial.queue = []) (hlast : initial.lastStartAgentId = none) :
    Tracked initial.maxConcurrentStarts initial.minStartIntervalMs (StartRun.start initial) where
  consistent := hinitial
  maxSlots := rfl
  minInterval := rfl
  quiet := rfl
  fresh := rfl
  accounted := List.Perm.refl _
  same := fun _ hentry => absurd hentry List.not_mem_nil
  still := hqueue.symm
  ordered := List.Pairwise.nil
  last := by
    rw [StartRun.start, hlast]
    rfl
  spaced := List.isChain_nil
  phase := trivial

theorem run {ops : List StartOp} (h : Tracked slots interval record)
    (hallowed : Admitted StartRun.step StartRun.Allowed record ops) :
    Tracked slots interval (Foundation.run StartRun.step record ops) := by
  induction ops generalizing record with
  | nil => exact h
  | cons op ops ih => exact ih (h.step hallowed.1) hallowed.2

end Tracked

/-- Whatever limits a coordinator is built with, every sequence of operations that callers are
allowed to make is orderly. -/
theorem start_queue_orderly (maxConcurrentStarts minStartIntervalMs : ℚ) :
    ∃ initial, AgentStartCoordinator.create maxConcurrentStarts minStartIntervalMs =
        .ok initial ∧
      ∀ ops, Admitted StartRun.step StartRun.Allowed (.start initial) ops →
        Orderly (max 1 ⌊maxConcurrentStarts⌋) (max 0 ⌊minStartIntervalMs⌋)
          (run StartRun.step (.start initial) ops) := by
  obtain ⟨initial, hcreate, hconsistent, hqueue, hlast, hslots, hinterval⟩ :=
    AgentStartCoordinator.create_eq maxConcurrentStarts minStartIntervalMs
  refine ⟨initial, hcreate, fun ops hallowed => ?_⟩
  rw [← hslots, ← hinterval]
  exact ((Tracked.start hconsistent hqueue hlast).run hallowed).orderly

def idleCoordinator : AgentStartCoordinator where
  starting := ∅
  queuedByAgent := .empty
  queue := []
  activeStarts := 0
  pumpTimer := false
  lastStartAt := 0
  lastStartAgentId := none
  maxConcurrentStarts := 1
  minStartIntervalMs := 50

def itemOf (object : Nat) (agentId : JsString) (enqueuedAtMs : ℚ) : AgentStartQueueItem :=
  ⟨object, agentId, enqueuedAtMs⟩

/-- Agent `b` is cancelled, and `a` and `c` start one after the other. -/
def twoStarts : List StartOp :=
  [.enqueue (itemOf 1 (js "a") 0), .enqueue (itemOf 2 (js "b") 1), .enqueue (itemOf 3 (js "c") 2),
    .cancelQueued (js "b"), .getPumpState 100, .dequeue, .claimStartSlot (js "a") 100,
    .markStarting (js "a"), .clearStarting (js "a"), .releaseStartSlot, .getPumpState 160, .dequeue,
    .claimStartSlot (js "c") 160]

theorem allowed_twoStarts :
    Admitted StartRun.step StartRun.Allowed (.start idleCoordinator) twoStarts :=
  ⟨⟨by decide +kernel, by decide +kernel⟩, ⟨by decide +kernel, by decide +kernel⟩,
    ⟨by decide +kernel, by decide +kernel⟩, trivial, trivial, trivial,
    ⟨100, by decide +kernel, le_rfl⟩,
    (by decide +kernel : AgentStartCoordinator.hasQueued _ _ = false), trivial, trivial, trivial,
    trivial, ⟨160, by decide +kernel, le_rfl⟩, trivial⟩

theorem start_queue_orderly_twoStarts :
    (run StartRun.step (.start idleCoordinator) twoStarts).claims = [(js "a", 100), (js "c", 160)] ∧
      (run StartRun.step (.start idleCoordinator) twoStarts).cancelled =
        [(1, itemOf 2 (js "b") 1)] ∧
      Orderly 1 50 (run StartRun.step (.start idleCoordinator) twoStarts) := by
  have hcreated : AgentStartCoordinator.create 1 50 = .ok idleCoordinator := by rfl
  obtain ⟨initial, hcreate, horderly⟩ := start_queue_orderly 1 50
  rw [hcreated] at hcreate
  cases hcreate
  refine ⟨by decide +kernel, by decide +kernel, ?_⟩
  simpa using horderly twoStarts allowed_twoStarts

end Raft.AgentStarts
