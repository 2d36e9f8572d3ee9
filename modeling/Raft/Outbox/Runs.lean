import Raft.Foundation.Run
import Raft.Outbox.Edits

/-!
# Runs of the queue

One agent's queue takes frames, epochs, acks and human takeovers in any order
and sends its oldest entry.  What is in flight stays the oldest entry, unchanged,
until its own ack.
-/

namespace Raft.Outbox

open Raft.Foundation AgentOutboxState

universe u

variable {φ : Type u} {crossId gapId : JsString} {state : AgentOutboxState φ}

inductive OutboxEvent (φ : Type u) where
  | append (entry : NormalEntry φ) (evict : Bool) (crossId gapId : JsString)
  | adoptTakeoverEpoch (epoch : Int)
  | sendOldest
  | ack (ack : OutboxAck)
  | humanStart (epoch : Int)

/-- A human start adopts its epoch before it records its takeover. -/
def outboxStep (state : AgentOutboxState φ) : OutboxEvent φ → AgentOutboxState φ
  | .append entry evict crossId gapId => (state.appendToOutbox crossId gapId entry evict).1
  | .adoptTakeoverEpoch epoch => state.adoptTakeoverEpoch epoch
  | .sendOldest => state.markInFlight
  | .ack ack => state.applyOutboxAck ack
  | .humanStart epoch => (state.adoptTakeoverEpoch epoch).recordHumanTakeover epoch

def outboxRun (agentId : JsString) (events : List (OutboxEvent φ)) : AgentOutboxState φ :=
  run outboxStep (freshOutboxState agentId) events

/-! ## What is in flight -/

@[simp] theorem isUnsealed_sealed (entry : OutboxEntry φ) : entry.sealed.isUnsealed = false := by
  cases entry <;> rfl

theorem sealed_eq_self {entry : OutboxEntry φ} (h : entry.isUnsealed = false) :
    entry.sealed = entry := by
  cases entry with
  | normal entry => rfl
  | gap gap =>
      have hsealed : gap.isSealed = true := by simpa [OutboxEntry.isUnsealed] using h
      simp [OutboxEntry.sealed, ← hsealed]
  | cross cross =>
      have hsealed : cross.isSealed = true := by simpa [OutboxEntry.isUnsealed] using h
      simp [OutboxEntry.sealed, ← hsealed]

theorem push_eq_withWaiting (state : AgentOutboxState φ) (entry : NormalEntry φ) :
    state.push entry = state.withWaiting (state.waiting ++ [.normal entry]) := by
  rw [push, withWaiting, ← List.append_assoc, flight_append_waiting]

theorem Consume.flightSettled {entry : NormalEntry φ} {next : AgentOutboxState φ}
    (h : Consume crossId gapId state entry next) (hsettled : state.FlightSettled) :
    next.FlightSettled ∧ next.flight = state.flight := by
  cases h <;> exact ⟨hsettled.withWaiting _, flight_withWaiting hsettled _⟩

theorem flight_push (hsettled : state.FlightSettled) (entry : NormalEntry φ) :
    (state.push entry).FlightSettled ∧ (state.push entry).flight = state.flight := by
  rw [push_eq_withWaiting]
  exact ⟨hsettled.withWaiting _, flight_withWaiting hsettled _⟩

theorem Appended.flightSettled {entry : NormalEntry φ} {next : AgentOutboxState φ}
    {result : AppendResult} (h : Appended crossId gapId state entry next result)
    (hsettled : state.FlightSettled) : next.FlightSettled ∧ next.flight = state.flight := by
  cases h with
  | appended hroom => exact flight_push hsettled entry
  | ignored hkind => exact ⟨hsettled, rfl⟩
  | no_room => exact ⟨hsettled, rfl⟩
  | @madeRoom prepared roomy consumed _ hprepared hconsumed hresult =>
      have hprepared : prepared.FlightSettled ∧ prepared.flight = state.flight := by
        rcases hprepared with rfl | hmerge
        · exact ⟨hsettled, rfl⟩
        · exact hmerge.flightSettled hsettled
      obtain ⟨hroomy, hflight⟩ := hconsumed.flightSettled hprepared.1
      obtain ⟨hpushed, hsame⟩ := flight_push hroomy entry
      exact ⟨hpushed, hsame.trans (hflight.trans hprepared.2)⟩

theorem Consume.inFlight {entry : NormalEntry φ} {next : AgentOutboxState φ}
    (h : Consume crossId gapId state entry next) : next.inFlight = state.inFlight := by
  cases h <;> rfl

theorem Merge.inFlight {next : AgentOutboxState φ} (h : Merge crossId state next) :
    next.inFlight = state.inFlight := by
  cases h <;> rfl

theorem Appended.inFlight {entry : NormalEntry φ} {next : AgentOutboxState φ}
    {result : AppendResult} (h : Appended crossId gapId state entry next result) :
    next.inFlight = state.inFlight := by
  cases h with
  | appended hroom => rfl
  | ignored hkind => rfl
  | no_room => rfl
  | madeRoom hprepared hconsumed hresult =>
      rcases hprepared with rfl | hmerge
      · exact hconsumed.inFlight
      · exact hconsumed.inFlight.trans hmerge.inFlight

theorem flight_eq_singleton {oldest : OutboxEntry φ} :
    state.inFlight = true ∧ state.flight = [oldest] ↔
      state.inFlight = true ∧ state.entries.head? = some oldest := by
  refine and_congr_right fun hinFlight => ?_
  rw [flight, if_pos hinFlight]
  cases state.entries <;> simp

structure FlightKept (state : AgentOutboxState φ) (event : OutboxEvent φ)
    (next : AgentOutboxState φ) : Prop where
  settled : next.FlightSettled
  kept : state.inFlight = true →
    (∃ ack, event = .ack ack ∧ state.ackedIndex ack = some 0) ∨
      next.inFlight = true ∧ next.flight = state.flight

theorem flightKept_of_eq {event : OutboxEvent φ} {next : AgentOutboxState φ}
    (hsettled : state.FlightSettled) (hinFlight : next.inFlight = state.inFlight)
    (hflight : next.flight = state.flight) : FlightKept state event next where
  settled h := by
    rw [hflight]
    exact hsettled (hinFlight ▸ h)
  kept h := .inr ⟨hinFlight.trans h, hflight⟩

theorem flight_adoptTakeoverEpoch (hsettled : state.FlightSettled) (epoch : Int) :
    (state.adoptTakeoverEpoch epoch).flight = state.flight := by
  rw [adoptTakeoverEpoch]
  split
  · by_cases hinFlight : state.inFlight = true
    · obtain ⟨oldest, hflight, hsealed⟩ := hsettled hinFlight
      simp only [flight, hinFlight, if_true] at hflight ⊢
      rw [← List.map_take, hflight, List.map_singleton, sealed_eq_self hsealed]
    · simp [flight, hinFlight]
  · rfl

theorem inFlight_adoptTakeoverEpoch (epoch : Int) :
    (state.adoptTakeoverEpoch epoch).inFlight = state.inFlight := by
  rw [adoptTakeoverEpoch]
  split <;> rfl

theorem flightKept_markInFlight (hsettled : state.FlightSettled) :
    FlightKept state .sendOldest state.markInFlight := by
  cases hentries : state.entries with
  | nil =>
      have heq : state.markInFlight = state := by simp [markInFlight, hentries]
      rw [heq]
      exact flightKept_of_eq hsettled rfl rfl
  | cons oldest rest =>
      by_cases hmark : (!state.inFlight || oldest.isUnsealed) = true
      · have heq : state.markInFlight =
            { state with entries := oldest.sealed :: rest, inFlight := true } := by
          simp only [markInFlight, hentries, hmark, if_true]
        rw [heq]
        refine ⟨fun _ => ⟨oldest.sealed, by simp [flight], isUnsealed_sealed oldest⟩,
          fun hinFlight => ?_⟩
        obtain ⟨first, hflight, hsealed⟩ := hsettled hinFlight
        obtain rfl : oldest = first := by
          simpa [flight, hinFlight, hentries] using hflight
        simp [hinFlight, hsealed] at hmark
      · have heq : state.markInFlight = state := by
          simp only [markInFlight, hentries, hmark, Bool.false_eq_true, if_false]
        rw [heq]
        exact flightKept_of_eq hsettled rfl rfl

theorem flightKept_applyOutboxAck (hsettled : state.FlightSettled) (ack : OutboxAck) :
    FlightKept state (.ack ack) (state.applyOutboxAck ack) := by
  rw [applyOutboxAck]
  cases hindex : state.ackedIndex ack with
  | none => exact flightKept_of_eq hsettled rfl rfl
  | some index =>
      cases index with
      | zero =>
          refine ⟨fun h => ?_, fun _ => .inl ⟨ack, rfl, hindex⟩⟩
          simp [isInFlightIndex] at h
      | succ index =>
          refine flightKept_of_eq hsettled (by simp [isInFlightIndex]) ?_
          cases hinFlight : state.inFlight with
          | false => simp [flight, hinFlight]
          | true =>
              cases hentries : state.entries <;>
                simp [flight, hinFlight, hentries, isInFlightIndex]

theorem waiting_applyOutboxAck (ack : OutboxAck) :
    (state.applyOutboxAck ack).waiting.Sublist state.waiting := by
  rw [applyOutboxAck]
  cases hindex : state.ackedIndex ack with
  | none => exact List.Sublist.refl _
  | some index =>
      cases hinFlight : state.inFlight with
      | false => simpa [waiting, hinFlight] using List.eraseIdx_sublist _ _
      | true =>
          cases hentries : state.entries with
          | nil => simp [waiting]
          | cons oldest rest =>
              cases index with
              | zero => simp [waiting, hinFlight, hentries, isInFlightIndex]
              | succ index =>
                  simpa [waiting, hinFlight, hentries, isInFlightIndex] using
                    List.eraseIdx_sublist _ _

theorem flightKept_step (hsettled : state.FlightSettled) (event : OutboxEvent φ) :
    FlightKept state event (outboxStep state event) := by
  cases event with
  | append entry evict crossId gapId =>
      have happended := appendToOutbox_cases hsettled crossId gapId entry evict
      exact flightKept_of_eq hsettled happended.inFlight (happended.flightSettled hsettled).2
  | adoptTakeoverEpoch epoch =>
      exact flightKept_of_eq hsettled (inFlight_adoptTakeoverEpoch epoch)
        (flight_adoptTakeoverEpoch hsettled epoch)
  | sendOldest => exact flightKept_markInFlight hsettled
  | ack ack => exact flightKept_applyOutboxAck hsettled ack
  | humanStart epoch =>
      have hrecord : ∀ other : AgentOutboxState φ,
          (other.recordHumanTakeover epoch).inFlight = other.inFlight ∧
            (other.recordHumanTakeover epoch).flight = other.flight := by
        intro other
        rw [recordHumanTakeover]
        split <;> exact ⟨rfl, rfl⟩
      exact flightKept_of_eq hsettled
        ((hrecord _).1.trans (inFlight_adoptTakeoverEpoch epoch))
        ((hrecord _).2.trans (flight_adoptTakeoverEpoch hsettled epoch))

theorem flightSettled_outboxRun (agentId : JsString) (events : List (OutboxEvent φ)) :
    (outboxRun agentId events).FlightSettled :=
  run_invariant AgentOutboxState.FlightSettled events
    (fun _ event hsettled => (flightKept_step hsettled event).settled) fun h => by cases h

theorem flight_outboxRun {agentId : JsString} {before during : List (OutboxEvent φ)}
    {oldest : OutboxEntry φ} (hinFlight : (outboxRun agentId before).inFlight = true)
    (holdest : (outboxRun agentId before).entries.head? = some oldest)
    (hunacked : ∀ between ack, between ++ [.ack ack] <+: during →
      (outboxRun agentId (before ++ between)).ackedIndex ack ≠ some 0) :
    (outboxRun agentId (before ++ during)).inFlight = true ∧
      (outboxRun agentId (before ++ during)).entries.head? = some oldest := by
  rw [← flight_eq_singleton]
  induction during using List.reverseRecOn with
  | nil =>
      rw [List.append_nil]
      exact flight_eq_singleton.mpr ⟨hinFlight, holdest⟩
  | append_singleton during event ih =>
      obtain ⟨hstill, hflight⟩ := ih fun between ack hstarts =>
        hunacked between ack (hstarts.trans (List.prefix_append _ _))
      have hstep := flightKept_step (flightSettled_outboxRun agentId (before ++ during)) event
      rw [← List.append_assoc, outboxRun, run_concat]
      rcases hstep.kept hstill with ⟨ack, rfl, hacked⟩ | hkept
      · exact absurd hacked (hunacked during ack (List.prefix_refl _))
      · exact ⟨hkept.1, hkept.2.trans hflight⟩

end Raft.Outbox
