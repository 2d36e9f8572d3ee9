import Raft.Foundation.HighWater
import Raft.Outbox.Delivery
import Raft.TerminalBreaker.Manual

/-!
# Outcome frames from the daemon to the record

The daemon puts its oldest queued entry on the wire until its ack comes back, and
the server judges what arrives and acks it after the write.  What was put on the
wire or acked may be lost, late or repeated.  Every step is durable, so a crash
between two of them loses nothing but messages.
-/

namespace Raft.TerminalBreaker

open Raft.Foundation Raft.Outbox

deriving instance DecidableEq for NormalEntry, OutboxEntry, OutboxAck

/-- An entry is named by the frame it holds, and so is its ack. -/
def entryOfFrame (kind : EntryKind) (takeoverEpoch : Int) (frame : TerminalOutboxFrame) :
    NormalEntry TerminalOutboxFrame where
  kind
  daemonInstanceId := (terminalOutboxFrameSeq frame).daemonInstanceId
  clientSeq := (terminalOutboxFrameSeq frame).clientSeq.toNat
  takeoverEpoch
  frame

/-- A gap of clean turns only is backlog. -/
def gapIsCritical (counts : GapCounts) : Bool :=
  0 < counts.e1 || 0 < counts.spawned || 0 < counts.exited || 0 < counts.startOutcome

def ackOf : OutboxEntry TerminalOutboxFrame → OutboxAck
  | .normal entry => ⟨some entry.daemonInstanceId, some entry.clientSeq, none⟩
  | .gap gap => ⟨none, none, some gap.gapId⟩
  | .cross cross => ⟨none, none, some cross.gapId⟩

def nameOf (entry : NormalEntry TerminalOutboxFrame) : JsString × Int :=
  (entry.daemonInstanceId, entry.clientSeq)

structure OutcomeWorld where
  queue : AgentOutboxState TerminalOutboxFrame
  /-- What the queue accepted, first sent and removed on an ack. -/
  history : Outbox.History TerminalOutboxFrame
  wire : List (OutboxEntry TerminalOutboxFrame)
  acks : List OutboxAck
  record : TerminalFailureBreakerState
  /-- The frames judged so far, one for each transition that judged one. -/
  judged : List (JsString × Int)

def initialWorld (agentId : JsString) (record : TerminalFailureBreakerState) : OutcomeWorld :=
  ⟨freshOutboxState agentId, .empty, [], [], record, []⟩

inductive OutcomeEvent where
  | enqueue (kind : EntryKind) (frame : TerminalOutboxFrame) (evict : Bool)
      (crossId gapId : JsString)
  | adoptTakeoverEpoch (epoch : Int)
  | humanStart (epoch : Int)
  /-- The oldest entry is marked in flight, and a crash comes before the send. -/
  | markInFlight
  | sendOldest
  | receive (entry : OutboxEntry TerminalOutboxFrame) (input : TerminalOutboxFrameInput)
  | receiveAck (ack : OutboxAck)
  | server (event : BreakerEvent)

namespace OutcomeWorld

variable (world : OutcomeWorld)

def daemonStep (event : OutboxEvent TerminalOutboxFrame) : OutcomeWorld :=
  { world with
    queue := outboxStep world.queue event
    history := observe world.queue world.history event }

def receiveFrame (entry : NormalEntry TerminalOutboxFrame) (input : TerminalOutboxFrameInput) :
    OutcomeWorld :=
  let applied := world.record.applyTerminalOutboxFrame entry.frame input
  { world with
    record := applied.state
    judged := if applied.duplicate then world.judged else world.judged ++ [nameOf entry]
    acks := world.acks ++ [ackOf (.normal entry)] }

def receiveMarker (marker : TerminalOutcomeMarker) (ack : OutboxAck) (nowMs : Int) : OutcomeWorld :=
  { world with
    record := (world.record.applyTerminalOutcomeMarker marker nowMs).1
    acks := world.acks ++ [ack] }

def receiveEntry (entry : OutboxEntry TerminalOutboxFrame) (input : TerminalOutboxFrameInput) :
    OutcomeWorld :=
  match entry with
  | .normal entry => world.receiveFrame entry input
  | .gap gap =>
      world.receiveMarker ⟨gap.takeoverEpoch, gapIsCritical gap.counts⟩ (ackOf (.gap gap))
        input.nowMs
  | .cross cross =>
      world.receiveMarker ⟨cross.takeoverEpoch, true⟩ (ackOf (.cross cross)) input.nowMs

def putOnWire : OutcomeWorld :=
  { world with wire := world.wire ++ world.queue.entries.head?.toList }

def step : OutcomeEvent → OutcomeWorld
  | .enqueue kind frame evict crossId gapId =>
      world.daemonStep
        (.append (entryOfFrame kind world.queue.takeoverEpoch frame) evict crossId gapId)
  | .adoptTakeoverEpoch epoch => world.daemonStep (.adoptTakeoverEpoch epoch)
  | .humanStart epoch => world.daemonStep (.humanStart epoch)
  | .markInFlight => world.daemonStep .sendOldest
  | .sendOldest => (world.daemonStep .sendOldest).putOnWire
  | .receive entry input => world.receiveEntry entry input
  | .receiveAck ack => world.daemonStep (.ack ack)
  | .server event => { world with record := world.record.transition event }

/-- Frames of one daemon instance are numbered upwards, and nothing is received that
was not sent. -/
def Possible (world : OutcomeWorld) : OutcomeEvent → Prop
  | .enqueue _ frame _ _ _ =>
      0 ≤ (terminalOutboxFrameSeq frame).clientSeq ∧
        ∀ earlier ∈ world.history.accepted,
          earlier.daemonInstanceId = (terminalOutboxFrameSeq frame).daemonInstanceId →
            (earlier.clientSeq : Int) < (terminalOutboxFrameSeq frame).clientSeq
  | .receive entry _ => entry ∈ world.wire
  | .receiveAck ack => ack ∈ world.acks
  | .server event => event.isFrame = false
  | _ => True

instance (event : OutcomeEvent) : Decidable (world.Possible event) :=
  match event with
  | .enqueue _ frame _ _ _ =>
    inferInstanceAs (Decidable (0 ≤ (terminalOutboxFrameSeq frame).clientSeq ∧
      ∀ earlier ∈ world.history.accepted,
        earlier.daemonInstanceId = (terminalOutboxFrameSeq frame).daemonInstanceId →
          (earlier.clientSeq : Int) < (terminalOutboxFrameSeq frame).clientSeq))
  | .receive entry _ => inferInstanceAs (Decidable (entry ∈ world.wire))
  | .receiveAck ack => inferInstanceAs (Decidable (ack ∈ world.acks))
  | .server event => inferInstanceAs (Decidable (event.isFrame = false))
  | .adoptTakeoverEpoch _ | .humanStart _ | .markInFlight | .sendOldest => isTrue trivial

end OutcomeWorld

/-! ## Watermarks -/

namespace TerminalFailureBreakerState

variable (record : TerminalFailureBreakerState)

theorem outboxWatermarks_claim (input : TerminalClaimInput) :
    (record.transition (.claim input)).outboxWatermarks = record.outboxWatermarks := by
  show ((record.claimTerminalStart input).stateAfter record).outboxWatermarks =
    record.outboxWatermarks
  have hnormalized := Keeps.normalizeTerminalBreaker record input.nowMs
  have heffect := record.claimEffect input
  generalize record.claimTerminalStart input = result at heffect
  cases heffect with
  | refused => rfl
  | takenOver _ state hstate =>
      subst hstate
      exact (keeps_claimLaunch input false).outboxWatermarks.trans hnormalized.outboxWatermarks
  | probe _ _ _ state hstate =>
      subst hstate
      exact (hnormalized.trans ((keeps_claimProbe input.nowMs).trans
        (keeps_claimLaunch input true))).outboxWatermarks
  | replaced _ _ _ state hstate =>
      subst hstate
      exact (hnormalized.trans (keeps_claimLaunch input false)).outboxWatermarks

theorem outboxWatermarks_transition {event : BreakerEvent} (hframe : event.isFrame = false) :
    (record.transition event).outboxWatermarks = record.outboxWatermarks := by
  cases htakeover : event.isTakeover with
  | false => exact (record.keeps_transition htakeover hframe).outboxWatermarks
  | true =>
      cases event with
      | claim input => exact record.outboxWatermarks_claim input
      | _ => simp [BreakerEvent.isTakeover] at htakeover

theorem terminalOutboxWatermark_advance (seq : TerminalFrameSeq) (other : JsString)
    (hnew : ∀ top, record.terminalOutboxWatermark seq.daemonInstanceId = some top →
      top < seq.clientSeq) :
    (record.advanceOutboxWatermark seq).terminalOutboxWatermark other =
      if other = seq.daemonInstanceId then some seq.clientSeq
      else record.terminalOutboxWatermark other := by
  rw [terminalOutboxWatermark, advanceOutboxWatermark, InsertionMap.get_set]
  split
  · cases hmark : record.terminalOutboxWatermark seq.daemonInstanceId with
    | none => simp
    | some top => simp [max_eq_right (hnew top hmark).le]
  · rfl

/-- A frame is a replay at or below the watermark of its instance, or is judged above it and
becomes the watermark. -/
theorem outboxFrame_cases (frame : TerminalOutboxFrame) (input : TerminalOutboxFrameInput) :
    (record.applyTerminalOutboxFrame frame input).duplicate = true ∧
        (record.applyTerminalOutboxFrame frame input).state = record ∧
        (∃ top, record.terminalOutboxWatermark (terminalOutboxFrameSeq frame).daemonInstanceId =
          some top ∧ (terminalOutboxFrameSeq frame).clientSeq ≤ top) ∨
      (record.applyTerminalOutboxFrame frame input).duplicate = false ∧
        (∀ top, record.terminalOutboxWatermark (terminalOutboxFrameSeq frame).daemonInstanceId =
          some top → top < (terminalOutboxFrameSeq frame).clientSeq) ∧
        ∀ other, (record.applyTerminalOutboxFrame frame input).state.terminalOutboxWatermark other =
          if other = (terminalOutboxFrameSeq frame).daemonInstanceId then
            some (terminalOutboxFrameSeq frame).clientSeq
          else record.terminalOutboxWatermark other := by
  have hfresh (hnew : record.isReplayed (terminalOutboxFrameSeq frame) = false) (top : Int)
      (htop : record.terminalOutboxWatermark (terminalOutboxFrameSeq frame).daemonInstanceId =
        some top) : top < (terminalOutboxFrameSeq frame).clientSeq := by
    simpa [isReplayed, htop] using hnew
  have hadvanced {next : TerminalFailureBreakerState} (hkeeps : Keeps record next)
      (hnew : record.isReplayed (terminalOutboxFrameSeq frame) = false) (other : JsString) :
      (next.advanceOutboxWatermark (terminalOutboxFrameSeq frame)).terminalOutboxWatermark other =
        if other = (terminalOutboxFrameSeq frame).daemonInstanceId then
          some (terminalOutboxFrameSeq frame).clientSeq
        else record.terminalOutboxWatermark other := by
    have hmarks (source : JsString) : next.terminalOutboxWatermark source =
        record.terminalOutboxWatermark source := by
      rw [terminalOutboxWatermark, terminalOutboxWatermark, hkeeps.outboxWatermarks]
    rw [next.terminalOutboxWatermark_advance _ _ fun top htop =>
      hfresh hnew top (by rwa [← hmarks]),
      hmarks]
  have heffect := record.outboxEffect frame input
  generalize record.applyTerminalOutboxFrame frame input = applied at heffect
  cases heffect with
  | replayed hreplayed =>
      refine .inl ⟨rfl, rfl, ?_⟩
      cases htop : record.terminalOutboxWatermark
        (terminalOutboxFrameSeq frame).daemonInstanceId with
      | none => simp [isReplayed, htop] at hreplayed
      | some top => exact ⟨top, rfl, by simpa [isReplayed, htop] using hreplayed⟩
  | lost hnew => exact .inr ⟨rfl, hfresh hnew, hadvanced (record.keeps_markEvidenceLost _) hnew⟩
  | judged hnew => exact .inr ⟨rfl, hfresh hnew, hadvanced (record.keeps_judged _ _) hnew⟩

theorem watermark_le_transition (event : BreakerEvent) {daemonInstanceId : JsString} {top : Int}
    (htop : record.terminalOutboxWatermark daemonInstanceId = some top) :
    ∃ later, (record.transition event).terminalOutboxWatermark daemonInstanceId = some later ∧
      top ≤ later := by
  cases hframe : event.isFrame with
  | false =>
      refine ⟨top, ?_, le_rfl⟩
      rw [terminalOutboxWatermark, record.outboxWatermarks_transition hframe]
      exact htop
  | true =>
      cases event with
      | outboxFrame frame input =>
          show ∃ later, (record.applyTerminalOutboxFrame frame input).state.terminalOutboxWatermark
            daemonInstanceId = some later ∧ top ≤ later
          rcases record.outboxFrame_cases frame input with ⟨_, hsame, _⟩ | ⟨_, hnew, hmarks⟩
          · exact ⟨top, by rw [hsame]; exact htop, le_rfl⟩
          · by_cases hsource : daemonInstanceId = (terminalOutboxFrameSeq frame).daemonInstanceId
            · refine ⟨_, by rw [hmarks, if_pos hsource], ?_⟩
              exact (hnew top (hsource ▸ htop)).le
            · exact ⟨top, by rw [hmarks, if_neg hsource, htop], le_rfl⟩
      | _ => simp [BreakerEvent.isFrame] at hframe

end TerminalFailureBreakerState

/-! ## The queue and the record together -/

/-- Of the frames first sent, only the one in flight may still be unjudged. -/
structure Delivering (world : OutcomeWorld) : Prop where
  settled : world.queue.FlightSettled
  inOrder : InOrder world.queue world.history
  increasing : world.history.accepted.Pairwise fun first second =>
    first.daemonInstanceId = second.daemonInstanceId → first.clientSeq < second.clientSeq
  named : ∀ entry ∈ world.history.accepted,
    terminalOutboxFrameSeq entry.frame = ⟨entry.daemonInstanceId, entry.clientSeq⟩
  held : ∀ entry, .normal entry ∈ world.queue.flight → entry ∈ world.history.firstSent
  latest : ∀ entry, .normal entry ∈ world.queue.flight → ∀ other ∈ world.history.firstSent,
    other.daemonInstanceId = entry.daemonInstanceId → other.clientSeq ≤ entry.clientSeq
  settledOrHeld : ∀ entry ∈ world.history.firstSent,
    nameOf entry ∈ world.judged ∨ .normal entry ∈ world.queue.flight
  wire : ∀ entry, .normal entry ∈ world.wire → entry ∈ world.history.firstSent
  judged : ∀ name ∈ world.judged, ∃ entry ∈ world.history.firstSent, nameOf entry = name
  acks : ∀ ack ∈ world.acks, ∀ entry : NormalEntry TerminalOutboxFrame,
    ack.names (.normal entry) = true → nameOf entry ∈ world.judged
  acked : ∀ entry, .normal entry ∈ world.history.acked → nameOf entry ∈ world.judged
  marks : HighWater world.record.terminalOutboxWatermark world.judged

namespace Delivering

variable {world : OutcomeWorld}

theorem initial (agentId : JsString) {record : TerminalFailureBreakerState}
    (hmarks : record.outboxWatermarks = .empty) : Delivering (initialWorld agentId record) where
  settled h := by cases h
  inOrder := ⟨List.Sublist.refl _, fun _ h => absurd h List.not_mem_nil⟩
  increasing := .nil
  named _ h := absurd h List.not_mem_nil
  held _ h := absurd h List.not_mem_nil
  latest _ h := absurd h List.not_mem_nil
  settledOrHeld _ h := absurd h List.not_mem_nil
  wire _ h := absurd h List.not_mem_nil
  judged _ h := absurd h List.not_mem_nil
  acks _ h := absurd h List.not_mem_nil
  acked _ h := absurd h List.not_mem_nil
  marks := .nil fun source => by
    simp [initialWorld, TerminalFailureBreakerState.terminalOutboxWatermark, hmarks]

theorem lt_of_waiting (h : Delivering world) {sent entry : NormalEntry TerminalOutboxFrame}
    (hsent : sent ∈ world.history.firstSent) (hwaiting : entry ∈ normals world.queue.waiting)
    (hsame : sent.daemonInstanceId = entry.daemonInstanceId) :
    sent.clientSeq < entry.clientSeq := by
  have hordered := h.increasing.sublist h.inOrder.ordered
  exact (List.pairwise_append.mp hordered).2.2 sent hsent entry hwaiting hsame

theorem named_of_sent (h : Delivering world) {entry : NormalEntry TerminalOutboxFrame}
    (hsent : entry ∈ world.history.firstSent) :
    terminalOutboxFrameSeq entry.frame = ⟨entry.daemonInstanceId, entry.clientSeq⟩ :=
  h.named entry (h.inOrder.ordered.subset (List.mem_append_left _ hsent))

theorem judged_of_le (h : Delivering world) {entry : NormalEntry TerminalOutboxFrame}
    (hentry : entry ∈ world.history.firstSent) {top : Int}
    (htop : world.record.terminalOutboxWatermark entry.daemonInstanceId = some top)
    (hle : (entry.clientSeq : Int) ≤ top) : nameOf entry ∈ world.judged := by
  rcases h.settledOrHeld entry hentry with hjudged | hheld
  · exact hjudged
  · have hlast := h.marks.attained _ top htop
    obtain ⟨last, hsent, hname⟩ := h.judged _ hlast
    obtain ⟨hinstance, hseq⟩ := Prod.mk.inj hname
    have hbound := h.latest entry hheld last hsent hinstance
    have heq : (entry.clientSeq : Int) = top := by omega
    rwa [nameOf, heq]

theorem daemonStep_quiet (h : Delivering world) {event : OutboxEvent TerminalOutboxFrame}
    (hflight : (outboxStep world.queue event).flight = world.queue.flight)
    (hsent : (observe world.queue world.history event).firstSent = world.history.firstSent)
    (hacked : (observe world.queue world.history event).acked = world.history.acked)
    (hincreasing : (observe world.queue world.history event).accepted.Pairwise fun first second =>
      first.daemonInstanceId = second.daemonInstanceId → first.clientSeq < second.clientSeq)
    (hnamed : ∀ entry ∈ (observe world.queue world.history event).accepted,
      terminalOutboxFrameSeq entry.frame = ⟨entry.daemonInstanceId, entry.clientSeq⟩) :
    Delivering (world.daemonStep event) where
  settled := (flightKept_step h.settled event).settled
  inOrder := inOrder_step h.settled h.inOrder event
  increasing := hincreasing
  named := hnamed
  held entry hentry := by
    show entry ∈ (observe world.queue world.history event).firstSent
    rw [hsent]
    exact h.held entry (hflight ▸ hentry)
  latest entry hentry other hother := h.latest entry (hflight ▸ hentry) other (hsent ▸ hother)
  settledOrHeld entry hentry := by
    show nameOf entry ∈ world.judged ∨ .normal entry ∈ (outboxStep world.queue event).flight
    rw [hflight]
    exact h.settledOrHeld entry (hsent ▸ hentry)
  wire entry hentry := by
    show entry ∈ (observe world.queue world.history event).firstSent
    rw [hsent]
    exact h.wire entry hentry
  judged name hname := by
    show ∃ entry ∈ (observe world.queue world.history event).firstSent, nameOf entry = name
    rw [hsent]
    exact h.judged name hname
  acks := h.acks
  acked entry hentry := h.acked entry (hacked ▸ hentry)
  marks := h.marks

theorem enqueue (h : Delivering world) {kind : EntryKind} {frame : TerminalOutboxFrame}
    {evict : Bool}
    {crossId gapId : JsString}
    (hpossible : world.Possible (.enqueue kind frame evict crossId gapId)) :
    Delivering (world.step (.enqueue kind frame evict crossId gapId)) := by
  obtain ⟨hseq, hnew⟩ := hpossible
  have happended := appendToOutbox_cases h.settled crossId gapId
    (entryOfFrame kind world.queue.takeoverEpoch frame) evict
  have htoNat : ((terminalOutboxFrameSeq frame).clientSeq.toNat : Int) =
      (terminalOutboxFrameSeq frame).clientSeq := Int.toNat_of_nonneg hseq
  refine h.daemonStep_quiet (happended.flightSettled h.settled).2 ?_ ?_ ?_ ?_ <;>
    rw [observe] <;> split
  · rfl
  · rfl
  · rfl
  · rfl
  · exact h.increasing
  · rw [List.pairwise_append]
    refine ⟨h.increasing, List.pairwise_singleton _ _,
      fun earlier hearlier entry hentry hsame => ?_⟩
    rw [List.mem_singleton] at hentry
    subst hentry
    have hlt := hnew earlier hearlier hsame
    show earlier.clientSeq < (terminalOutboxFrameSeq frame).clientSeq.toNat
    omega
  · exact h.named
  · intro entry hentry
    rcases List.mem_append.mp hentry with hold | hlast
    · exact h.named entry hold
    · rw [List.mem_singleton] at hlast
      subst hlast
      simp [entryOfFrame, htoNat]

theorem adoptTakeoverEpoch (h : Delivering world) (epoch : Int) :
    Delivering (world.daemonStep (.adoptTakeoverEpoch epoch)) :=
  h.daemonStep_quiet (flight_adoptTakeoverEpoch h.settled epoch) rfl rfl h.increasing h.named

theorem humanStart (h : Delivering world) (epoch : Int) :
    Delivering (world.daemonStep (.humanStart epoch)) := by
  refine h.daemonStep_quiet ?_ rfl rfl h.increasing h.named
  rw [outboxStep, AgentOutboxState.recordHumanTakeover]
  split <;> exact flight_adoptTakeoverEpoch h.settled epoch

theorem putInFlight (h : Delivering world) {oldest : OutboxEntry TerminalOutboxFrame}
    {rest : List (OutboxEntry TerminalOutboxFrame)} (hinFlight : world.queue.inFlight = false)
    (hentries : world.queue.entries = oldest :: rest) :
    Delivering (world.daemonStep .sendOldest) := by
  have hmarked : world.queue.markInFlight =
      { world.queue with entries := oldest.sealed :: rest, inFlight := true } := by
    simp [AgentOutboxState.markInFlight, hentries, hinFlight]
  have hflight : (outboxStep world.queue .sendOldest).flight = [oldest.sealed] := by
    simp [outboxStep, hmarked, AgentOutboxState.flight]
  have hjudged : ∀ entry ∈ world.history.firstSent, nameOf entry ∈ world.judged := by
    intro entry hentry
    refine (h.settledOrHeld entry hentry).resolve_right fun hheld => ?_
    simp [AgentOutboxState.flight, hinFlight] at hheld
  have hsettled := (flightKept_step h.settled .sendOldest).settled
  have hordered := inOrder_step h.settled h.inOrder .sendOldest
  have hsent : (observe world.queue world.history .sendOldest).firstSent =
      world.history.firstSent ++ normals [oldest] := by
    rw [observe, hmarked]
    cases oldest with
    | normal entry =>
        have hwaiting : entry ∈ normals world.queue.waiting := by
          simp [AgentOutboxState.waiting, hinFlight, hentries]
        have hnew : entry.identity ∉ world.history.firstSent.map NormalEntry.identity := by
          rintro hmem
          obtain ⟨sent, hsent, hname⟩ := List.mem_map.mp hmem
          obtain ⟨hinstance, hseq⟩ := Prod.mk.inj hname
          exact absurd hseq (h.lt_of_waiting hsent hwaiting hinstance).ne
        simp [OutboxEntry.sealed, Outbox.History.send, hnew]
    | gap | cross => simp [OutboxEntry.sealed, Outbox.History.send]
  have hrest : (observe world.queue world.history .sendOldest).accepted = world.history.accepted ∧
      (observe world.queue world.history .sendOldest).acked = world.history.acked := by
    rw [observe, hmarked]
    cases oldest with
    | normal entry =>
        simp only [OutboxEntry.sealed, List.head?_cons, Option.elim_some, Outbox.History.send]
        split <;> exact ⟨rfl, rfl⟩
    | gap | cross => exact ⟨rfl, rfl⟩
  have hnormal (entry : NormalEntry TerminalOutboxFrame) :
      .normal entry ∈ (outboxStep world.queue .sendOldest).flight ↔ entry ∈ normals [oldest] := by
    rw [hflight]
    cases oldest <;> simp [OutboxEntry.sealed]
  refine ⟨hsettled, hordered, ?_, ?_, fun entry hentry => ?_,
    fun entry hentry other hother hsame => ?_,
    fun entry hentry => ?_, fun entry hentry => ?_, fun name hname => ?_, h.acks,
      fun entry hentry => ?_,
    h.marks⟩ <;> simp only [OutcomeWorld.daemonStep, hsent, hrest, hnormal] at *
  · exact h.increasing
  · exact h.named
  · exact List.mem_append_right _ hentry
  · rcases List.mem_append.mp hother with hold | hnew
    · refine (h.lt_of_waiting hold ?_ hsame).le
      cases oldest with
      | normal held => simp_all [AgentOutboxState.waiting]
      | gap | cross => simp at hentry
    · cases oldest with
      | normal held => simp_all
      | gap | cross => simp at hentry
  · rcases List.mem_append.mp hentry with hold | hnew
    · exact .inl (hjudged entry hold)
    · exact .inr hnew
  · exact List.mem_append_left _ (h.wire entry hentry)
  · obtain ⟨entry, hentry, hname⟩ := h.judged name hname
    exact ⟨entry, List.mem_append_left _ hentry, hname⟩
  · exact h.acked entry hentry

theorem markInFlight (h : Delivering world) : Delivering (world.daemonStep .sendOldest) := by
  cases hentries : world.queue.entries with
  | nil =>
      have hqueue : outboxStep world.queue .sendOldest = world.queue := by
        simp [outboxStep, AgentOutboxState.markInFlight, hentries]
      have hhistory : observe world.queue world.history .sendOldest = world.history := by
        simp [observe, AgentOutboxState.markInFlight, hentries]
      rw [OutcomeWorld.daemonStep, hqueue, hhistory]
      exact h
  | cons oldest rest =>
      cases hinFlight : world.queue.inFlight with
      | true =>
          obtain ⟨first, hflight, hsealed⟩ := h.settled hinFlight
          obtain rfl : oldest = first := by
            simpa [AgentOutboxState.flight, hinFlight, hentries] using hflight
          have hqueue : outboxStep world.queue .sendOldest = world.queue := by
            simp [outboxStep, AgentOutboxState.markInFlight, hentries, hinFlight, hsealed]
          have hhistory : observe world.queue world.history .sendOldest = world.history := by
            rw [observe, show world.queue.markInFlight = world.queue from hqueue, hentries]
            cases oldest with
            | normal entry =>
                have hsent := h.held entry (by rw [hflight]; exact List.mem_singleton_self _)
                have hidentity := List.mem_map_of_mem (f := NormalEntry.identity) hsent
                simp [Outbox.History.send, hidentity]
            | gap | cross => rfl
          rw [OutcomeWorld.daemonStep, hqueue, hhistory]
          exact h
      | false => exact h.putInFlight hinFlight hentries

theorem putOnWire (h : Delivering world) (hinFlight : world.queue.entries ≠ [] →
    world.queue.inFlight = true) : Delivering world.putOnWire := by
  refine { h with wire := fun entry hentry => ?_ }
  rcases List.mem_append.mp hentry with hold | hnew
  · exact h.wire entry hold
  · refine h.held entry ?_
    cases hentries : world.queue.entries with
    | nil => simp [hentries] at hnew
    | cons oldest rest =>
        have hon := hinFlight (by simp [hentries])
        simpa [AgentOutboxState.flight, hon, hentries, eq_comm] using hnew

theorem inFlight_markInFlight (queue : AgentOutboxState TerminalOutboxFrame)
    (hentries : queue.markInFlight.entries ≠ []) : queue.markInFlight.inFlight = true := by
  revert hentries
  rw [AgentOutboxState.markInFlight]
  split
  · rename_i hnil
    exact fun hentries => absurd hnil hentries
  · split
    · exact fun _ => rfl
    · rename_i hstays
      intro _
      simp only [Bool.or_eq_true, not_or, Bool.not_eq_true', Bool.not_eq_false] at hstays
      exact hstays.1

theorem receiveAck (h : Delivering world) {ack : OutboxAck} (hack : ack ∈ world.acks) :
    Delivering (world.daemonStep (.ack ack)) := by
  have hkept := flightKept_applyOutboxAck h.settled ack
  have hflight := flight_applyOutboxAck h.settled ack
  have hsent : (observe world.queue world.history (.ack ack)).firstSent = world.history.firstSent ∧
      (observe world.queue world.history (.ack ack)).accepted = world.history.accepted := by
    rw [observe]
    split <;> exact ⟨rfl, rfl⟩
  refine ⟨hkept.settled, inOrder_step h.settled h.inOrder (.ack ack), ?_, ?_,
    fun entry hentry => ?_,
    fun entry hentry other hother => ?_, fun entry hentry => ?_, fun entry hentry => ?_,
    fun name hname => ?_, h.acks, fun entry hentry => ?_, h.marks⟩ <;>
    simp only [OutcomeWorld.daemonStep, hsent] at *
  · exact h.increasing
  · exact h.named
  · exact h.held entry (hflight _ hentry)
  · exact h.latest entry (hflight _ hentry) other hother
  · rcases h.settledOrHeld entry hentry with hjudged | hheld
    · exact .inl hjudged
    · have hinFlight : world.queue.inFlight = true := by
        by_contra hidle
        simp [AgentOutboxState.flight, hidle] at hheld
      rcases hkept.kept hinFlight with ⟨other, heq, hhead⟩ | ⟨_, hsame⟩
      · cases heq
        -- The ack is for the entry in flight.
        refine .inl (h.acks ack hack entry ?_)
        obtain ⟨oldest, hentries, _⟩ := h.settled hinFlight
        rw [hentries, List.mem_singleton] at hheld
        subst hheld
        obtain ⟨_, hfirst⟩ := flight_eq_singleton.mp ⟨hinFlight, hentries⟩
        obtain ⟨rest, hcons⟩ := List.head?_eq_some_iff.mp hfirst
        rw [AgentOutboxState.ackedIndex, hcons, List.findIdx?_cons] at hhead
        by_contra hother
        simp [hother] at hhead
      · exact .inr (by rw [outboxStep, hsame]; exact hheld)
  · exact h.wire entry hentry
  · exact h.judged name hname
  · rw [observe] at hentry
    split at hentry
    · exact h.acked entry hentry
    · rename_i removed hremoved
      rcases List.mem_append.mp hentry with hold | hnew
      · exact h.acked entry hold
      · rw [List.mem_singleton] at hnew
        subst hnew
        obtain ⟨index, hindex, hget⟩ := Option.bind_eq_some_iff.mp hremoved
        obtain ⟨hlt, hnames, _⟩ := List.findIdx?_eq_some_iff_getElem.mp hindex
        refine h.acks ack hack entry ?_
        rw [List.getElem?_eq_getElem hlt] at hget
        rwa [Option.some.inj hget] at hnames

theorem receiveFrame (h : Delivering world) {entry : NormalEntry TerminalOutboxFrame}
    (hwire : .normal entry ∈ world.wire) (input : TerminalOutboxFrameInput) :
    Delivering (world.receiveFrame entry input) := by
  have hsent := h.wire entry hwire
  have hseq := h.named_of_sent hsent
  have hcases := world.record.outboxFrame_cases entry.frame input
  rw [hseq] at hcases
  have hacks {judged : List (JsString × Int)} (hjudged : nameOf entry ∈ judged)
      (hmono : world.judged ⊆ judged) : ∀ ack ∈ world.acks ++ [ackOf (.normal entry)],
      ∀ other : NormalEntry TerminalOutboxFrame, ack.names (.normal other) = true →
        nameOf other ∈ judged := by
    intro ack hack other hnames
    rcases List.mem_append.mp hack with hold | hnew
    · exact hmono (h.acks ack hold other hnames)
    · rw [List.mem_singleton] at hnew
      subst hnew
      simp only [ackOf, OutboxAck.names, Option.isNone_none, Option.some.injEq, Bool.true_and,
        Bool.and_eq_true, decide_eq_true_eq] at hnames
      rwa [nameOf, hnames.1, hnames.2]
  rcases hcases with ⟨hduplicate, hsame, top, htop, hle⟩ | ⟨hduplicate, hnew, hmarks⟩
  · have hjudged := h.judged_of_le hsent htop hle
    simp only [OutcomeWorld.receiveFrame, hduplicate, hsame, if_true]
    exact { h with acks := hacks hjudged (List.Subset.refl _) }
  · have hmore : world.judged ⊆ world.judged ++ [nameOf entry] := List.subset_append_left _ _
    simp only [OutcomeWorld.receiveFrame, hduplicate, Bool.false_eq_true, if_false]
    exact { h with
      settledOrHeld := fun other hother => (h.settledOrHeld other hother).imp_left (hmore ·)
      judged := fun name hname => by
        rcases List.mem_append.mp hname with hold | hlast
        · exact h.judged name hold
        · exact ⟨entry, hsent, (List.mem_singleton.mp hlast).symm⟩
      acks := hacks (List.mem_append_right _ (List.mem_singleton_self _)) hmore
      acked := fun other hother => hmore (h.acked other hother)
      marks := h.marks.judge hnew hmarks }

theorem receiveMarker (h : Delivering world) (marker : TerminalOutcomeMarker) {ack : OutboxAck}
    (hmarker : ack.gapId ≠ none) (nowMs : Int) :
    Delivering (world.receiveMarker marker ack nowMs) := by
  refine { h with
    acks := fun other hother entry hnames => ?_
    marks := h.marks.congr fun source => ?_ }
  · rcases List.mem_append.mp hother with hold | hnew
    · exact h.acks other hold entry hnames
    · rw [List.mem_singleton] at hnew
      subst hnew
      simp [OutboxAck.names, hmarker] at hnames
  · have hkeeps := world.record.keeps_marker marker nowMs
    exact congrArg (InsertionMap.get · source) hkeeps.outboxWatermarks

theorem server (h : Delivering world) {event : BreakerEvent} (hframe : event.isFrame = false) :
    Delivering { world with record := world.record.transition event } :=
  { h with
    marks := h.marks.congr fun source =>
      congrArg (InsertionMap.get · source) (world.record.outboxWatermarks_transition hframe) }

theorem step (h : Delivering world) {event : OutcomeEvent} (hpossible : world.Possible event) :
    Delivering (world.step event) := by
  cases event with
  | enqueue => exact h.enqueue hpossible
  | adoptTakeoverEpoch epoch => exact h.adoptTakeoverEpoch epoch
  | humanStart epoch => exact h.humanStart epoch
  | markInFlight => exact h.markInFlight
  | sendOldest => exact h.markInFlight.putOnWire (inFlight_markInFlight world.queue)
  | receive entry input =>
      cases entry with
      | normal entry => exact h.receiveFrame hpossible input
      | gap gap => exact h.receiveMarker _ (by simp [ackOf]) input.nowMs
      | cross cross => exact h.receiveMarker _ (by simp [ackOf]) input.nowMs
  | receiveAck ack => exact h.receiveAck hpossible
  | server event => exact h.server hpossible

end Delivering

/-! ## Exactly once, in order -/

namespace OutcomeWorld

variable (world : OutcomeWorld)

/-- The name a step judges; a frame judged before is not judged again. -/
def judges : OutcomeEvent → Option (JsString × Int)
  | .receive (.normal entry) _ => if nameOf entry ∈ world.judged then none else some (nameOf entry)
  | _ => none

def transitionOf (event : OutcomeEvent) : Option BreakerEvent :=
  match event with
  | .receive (.normal entry) input =>
      (world.judges event).map fun _ => .outboxFrame entry.frame input
  | .receive (.gap gap) input =>
      some (.marker ⟨gap.takeoverEpoch, gapIsCritical gap.counts⟩ input.nowMs)
  | .receive (.cross cross) input => some (.marker ⟨cross.takeoverEpoch, true⟩ input.nowMs)
  | .server transition => some transition
  | _ => none

end OutcomeWorld

structure DeliversExactlyOnce (world : OutcomeWorld) : Prop where
  removed : ∀ entry, .normal entry ∈ world.history.acked → world.judged.count (nameOf entry) = 1
  ordered : world.judged.Pairwise fun first second => first.1 = second.1 → first.2 < second.2
  queued : ∀ entry, .normal entry ∈ world.queue.entries → ∀ top,
    world.record.terminalOutboxWatermark entry.daemonInstanceId = some top →
      (entry.clientSeq : Int) ≤ top → nameOf entry ∈ world.judged
  -- Without a transition the record stays as it is, also when a judged frame comes again.
  moved : ∀ event, world.Possible event →
    (world.step event).record =
        (world.transitionOf event).elim world.record world.record.transition ∧
      (world.step event).judged = world.judged ++ (world.judges event).toList

theorem Delivering.notMem_judged {world : OutcomeWorld} (h : Delivering world)
    {entry : NormalEntry TerminalOutboxFrame}
    (hnew : ∀ top, world.record.terminalOutboxWatermark entry.daemonInstanceId = some top →
      top < entry.clientSeq) : nameOf entry ∉ world.judged := by
  intro hjudged
  obtain ⟨top, htop, hle⟩ := h.marks.below _ hjudged
  exact (hnew top htop).not_ge hle

theorem Delivering.moved_receiveFrame {world : OutcomeWorld} (h : Delivering world)
    {entry : NormalEntry TerminalOutboxFrame} (hwire : .normal entry ∈ world.wire)
    (input : TerminalOutboxFrameInput) :
    (world.receiveFrame entry input).record =
        (world.transitionOf (.receive (.normal entry) input)).elim world.record
          world.record.transition ∧
      (world.receiveFrame entry input).judged =
        world.judged ++ (world.judges (.receive (.normal entry) input)).toList := by
  have hsent := h.wire entry hwire
  have hcases := world.record.outboxFrame_cases entry.frame input
  rw [h.named_of_sent hsent] at hcases
  rcases hcases with ⟨hduplicate, hsame, top, htop, hle⟩ | ⟨hduplicate, hnew, -⟩
  · have hjudged := h.judged_of_le hsent htop hle
    simp [OutcomeWorld.receiveFrame, OutcomeWorld.transitionOf, OutcomeWorld.judges, hjudged,
      hduplicate, hsame]
  · have hfresh := h.notMem_judged hnew
    simp [OutcomeWorld.receiveFrame, OutcomeWorld.transitionOf, OutcomeWorld.judges, hfresh,
      hduplicate, TerminalFailureBreakerState.transition]

theorem Delivering.moved {world : OutcomeWorld} (h : Delivering world) {event : OutcomeEvent}
    (hpossible : world.Possible event) :
    (world.step event).record =
        (world.transitionOf event).elim world.record world.record.transition ∧
      (world.step event).judged = world.judged ++ (world.judges event).toList := by
  cases event with
  | receive entry input =>
      cases entry with
      | normal entry => exact h.moved_receiveFrame hpossible input
      | gap gap => exact ⟨rfl, (List.append_nil _).symm⟩
      | cross cross => exact ⟨rfl, (List.append_nil _).symm⟩
  | _ => exact ⟨rfl, (List.append_nil _).symm⟩

theorem Delivering.exactlyOnce {world : OutcomeWorld} (h : Delivering world) :
    DeliversExactlyOnce world where
  removed entry hentry := List.count_eq_one_of_mem h.marks.nodup (h.acked entry hentry)
  ordered := h.marks.increasing
  queued entry hentry top htop hle := by
    rw [← world.queue.flight_append_waiting, List.mem_append] at hentry
    rcases hentry with hflight | hwaiting
    · exact h.judged_of_le (h.held entry hflight) htop hle
    · obtain ⟨last, hsent, hname⟩ := h.judged _ (h.marks.attained _ top htop)
      obtain ⟨hinstance, hseq⟩ := Prod.mk.inj hname
      have hlt := h.lt_of_waiting hsent (mem_normals.mpr hwaiting) hinstance
      omega
  moved _ hpossible := h.moved hpossible

/-- Over every run of the queue, the wire and the server, outcome frames take effect exactly once
and in order, and no transition of the record lowers or drops a watermark. -/
theorem outcomes_take_effect_exactly_once {agentId : JsString}
    {record : TerminalFailureBreakerState}
    {events : List OutcomeEvent} (hmarks : record.outboxWatermarks = .empty)
    (hpossible : Admitted OutcomeWorld.step OutcomeWorld.Possible (initialWorld agentId record)
      events) :
    DeliversExactlyOnce (run OutcomeWorld.step (initialWorld agentId record) events) ∧
      ∀ (state : TerminalFailureBreakerState) (event : BreakerEvent) (daemonInstanceId : JsString)
        (top : Int), state.terminalOutboxWatermark daemonInstanceId = some top →
          ∃ later, (state.transition event).terminalOutboxWatermark daemonInstanceId = some later ∧
            top ≤ later :=
  ⟨(hpossible.invariant Delivering (fun _ _ h hguard => h.step hguard)
      (.initial agentId hmarks)).exactlyOnce,
    fun state event _ _ htop => state.watermark_le_transition event htop⟩

def lostOutcome (clientSeq : Int) : TerminalOutboxFrame :=
  .evidenceLost (js "daemon-1") clientSeq (js "unknown_version")

def lostEntry (clientSeq : Int) : OutboxEntry TerminalOutboxFrame :=
  .normal (entryOfFrame .e1 0 (lostOutcome clientSeq))

def lossyRun : List OutcomeEvent :=
  [.enqueue .e1 (lostOutcome 1) true (js "cross") (js "gap"), .markInFlight, .sendOldest,
    .sendOldest,
    .enqueue .e1 (lostOutcome 2) true (js "cross") (js "gap"), .receive (lostEntry 1)
      ⟨0, none, none⟩,
    .receive (lostEntry 1) ⟨1, none, none⟩, .receiveAck (ackOf (lostEntry 1)), .sendOldest,
    .receive (lostEntry 1) ⟨2, none, none⟩, .receive (lostEntry 2) ⟨3, none, none⟩,
    .receiveAck (ackOf (lostEntry 1)), .receiveAck (ackOf (lostEntry 2))]

theorem lossyRun_exactly_once :
    DeliversExactlyOnce (run OutcomeWorld.step
      (initialWorld (js "agent-1") freshTerminalFailureBreakerState) lossyRun) :=
  (outcomes_take_effect_exactly_once rfl (by decide +kernel)).1

end Raft.TerminalBreaker
