import Mathlib.Tactic.Abel
import Raft.Outbox.Accounts
import Raft.Outbox.Epochs

/-!
# Conservation and stop-and-wait delivery

Every accepted frame that matters is queued, acked or counted in a marker that
is queued or acked.  Frames are first sent in the order they were accepted.
-/

namespace Raft.Outbox

open Raft.Foundation AgentOutboxState

universe u

variable {φ : Type u} {crossId gapId : JsString} {state : AgentOutboxState φ}

/-- What acks name a frame by. -/
def NormalEntry.identity (entry : NormalEntry φ) : JsString × Nat :=
  (entry.daemonInstanceId, entry.clientSeq)

structure History (φ : Type u) where
  accepted : List (NormalEntry φ)
  acked : List (OutboxEntry φ)
  firstSent : List (NormalEntry φ)

def History.empty : History φ := ⟨[], [], []⟩

def History.send (history : History φ) : OutboxEntry φ → History φ
  | .normal entry =>
      if entry.identity ∈ history.firstSent.map NormalEntry.identity then history
      else { history with firstSent := history.firstSent ++ [entry] }
  | .gap _ | .cross _ => history

def observe (state : AgentOutboxState φ) (history : History φ) : OutboxEvent φ → History φ
  | .append entry evict crossId gapId =>
      if (state.appendToOutbox crossId gapId entry evict).2 = .no_room then history
      else { history with accepted := history.accepted ++ [entry] }
  | .sendOldest => (state.markInFlight.entries.head?).elim history history.send
  | .ack ack =>
      match (state.ackedIndex ack).bind fun index => state.entries[index]? with
      | none => history
      | some entry => { history with acked := history.acked ++ [entry] }
  | .adoptTakeoverEpoch _ | .humanStart _ => history

def observedRun (agentId : JsString) (events : List (OutboxEvent φ)) :
    AgentOutboxState φ × History φ :=
  run (instrument outboxStep observe) (freshOutboxState agentId, .empty) events

theorem fst_observedRun (agentId : JsString) (events : List (OutboxEvent φ)) :
    (observedRun agentId events).1 = outboxRun agentId events := run_instrument_fst _ _ _

theorem observedRun_concat (agentId : JsString) (events : List (OutboxEvent φ))
    (event : OutboxEvent φ) :
    observedRun agentId (events ++ [event]) =
      (outboxStep (outboxRun agentId events) event,
        observe (outboxRun agentId events) (observedRun agentId events).2 event) := by
  rw [observedRun, run_concat, instrument, ← observedRun, fst_observedRun]

/-! ## Conservation -/

structure Attributed (state : AgentOutboxState φ) (history : History φ)
    (queued acked dropped : Multiset (NormalEntry φ)) : Prop where
  inQueue : Accounts state.entries queued
  inAcks : Accounts history.acked acked
  accepted : (history.accepted : Multiset (NormalEntry φ)) = queued + acked + dropped
  completed : ∀ frame ∈ dropped, frame.kind = .turnCompleted

theorem accounts_sealed {entries : List (OutboxEntry φ)} {frames : Multiset (NormalEntry φ)}
    (h : Accounts entries frames) : Accounts (entries.map OutboxEntry.sealed) frames := by
  induction h with
  | nil => exact .nil
  | cons hentry hrest ih => exact .cons hentry.sealed ih

theorem accounts_adoptTakeoverEpoch {frames : Multiset (NormalEntry φ)}
    (h : Accounts state.entries frames) (epoch : Int) :
    Accounts (state.adoptTakeoverEpoch epoch).entries frames := by
  rw [adoptTakeoverEpoch]
  split
  · exact accounts_sealed h
  · exact h

theorem accounts_markInFlight {frames : Multiset (NormalEntry φ)}
    (h : Accounts state.entries frames) : Accounts state.markInFlight.entries frames := by
  rw [markInFlight]
  split
  · exact h
  · next oldest rest hentries =>
      split
      · rw [hentries] at h
        obtain ⟨own, others, holdest, hrest, rfl⟩ := accounts_cons_iff.mp h
        exact .cons holdest.sealed hrest
      · exact h

theorem accounts_push {frames : Multiset (NormalEntry φ)} (h : Accounts state.entries frames)
    (entry : NormalEntry φ) : Accounts (state.push entry).entries (frames + {entry}) :=
  accounts_append_iff.mpr ⟨frames, {entry}, h,
    accounts_cons_iff.mpr ⟨{entry}, 0, rfl, .nil, (add_zero _).symm⟩, rfl⟩

theorem accounts_concat {entries : List (OutboxEntry φ)} {entry : OutboxEntry φ}
    {frames own : Multiset (NormalEntry φ)} (h : Accounts entries frames)
    (hentry : StandsFor entry own) : Accounts (entries ++ [entry]) (frames + own) :=
  accounts_append_iff.mpr ⟨frames, own, h,
    accounts_cons_iff.mpr ⟨own, 0, hentry, .nil, (add_zero _).symm⟩, rfl⟩

theorem Appended.attributed {entry : NormalEntry φ} {next : AgentOutboxState φ}
    {result : AppendResult} {frames : Multiset (NormalEntry φ)}
    (happended : Appended crossId gapId state entry next result) (hsettled : state.FlightSettled)
    (h : Accounts state.entries frames) :
    ∃ kept dropped, Accounts next.entries kept ∧
      (frames + if result = .no_room then 0 else {entry}) = kept + dropped ∧
      ∀ frame ∈ dropped, frame.kind = .turnCompleted := by
  have hnone : ∀ frame ∈ (0 : Multiset (NormalEntry φ)), frame.kind = .turnCompleted :=
    fun _ hframe => absurd hframe (Multiset.notMem_zero _)
  cases happended with
  | appended hroom => exact ⟨_, 0, accounts_push h entry, by simp, hnone⟩
  | no_room => exact ⟨frames, 0, h, by simp, hnone⟩
  | ignored hkind =>
      refine ⟨frames, {entry}, h, by simp, fun frame hframe => ?_⟩
      obtain rfl := Multiset.mem_singleton.mp hframe
      exact hkind
  | @madeRoom prepared roomy consumed _ hprepared hconsumed hresult =>
      have hprepared : Accounts prepared.entries frames := by
        rcases hprepared with rfl | hmerge
        · exact h
        · exact h.merge hsettled hmerge
      obtain ⟨kept, dropped, hkept, rfl, hdropped⟩ := hprepared.consume hconsumed
      refine ⟨_, dropped, accounts_push hkept entry, ?_, hdropped⟩
      rw [if_neg hresult, add_right_comm]

theorem accounts_applyOutboxAck {ack : OutboxAck} {history : History φ}
    {queued acked : Multiset (NormalEntry φ)} (hqueued : Accounts state.entries queued)
    (hacked : Accounts history.acked acked) :
    ∃ kept removed, Accounts (state.applyOutboxAck ack).entries kept ∧
      Accounts (observe state history (.ack ack)).acked removed ∧
      queued + acked = kept + removed := by
  cases hindex : state.ackedIndex ack with
  | none =>
      have heq : state.applyOutboxAck ack = state := by simp [applyOutboxAck, hindex]
      have hsame : observe state history (.ack ack) = history := by simp [observe, hindex]
      rw [heq, hsame]
      exact ⟨queued, acked, hqueued, hacked, rfl⟩
  | some index =>
      have hlt : index < state.entries.length := (List.findIdx?_eq_some_iff_getElem.mp hindex).1
      have hentries : state.entries =
          state.entries.take index ++ state.entries[index] :: state.entries.drop (index + 1) := by
        rw [List.cons_getElem_drop_succ, List.take_append_drop]
      rw [hentries] at hqueued
      obtain ⟨own, others, hentry, hrest, rfl⟩ := accounts_split_iff.mp hqueued
      have heq : (state.applyOutboxAck ack).entries =
          state.entries.take index ++ state.entries.drop (index + 1) := by
        simp only [applyOutboxAck, hindex, List.eraseIdx_eq_take_drop_succ]
      have hremoved : (observe state history (.ack ack)).acked =
          history.acked ++ [state.entries[index]] := by
        simp [observe, hindex, List.getElem?_eq_getElem hlt]
      rw [heq, hremoved]
      exact ⟨others, acked + own, hrest, accounts_concat hacked hentry, by abel⟩

theorem attributed_step {history : History φ} {queued acked dropped : Multiset (NormalEntry φ)}
    (hsettled : state.FlightSettled) (h : Attributed state history queued acked dropped)
    (event : OutboxEvent φ) :
    ∃ queued acked dropped,
      Attributed (outboxStep state event) (observe state history event) queued acked dropped := by
  cases event with
  | append entry evict crossId gapId =>
      obtain ⟨kept, lost, hkept, hframes, hlost⟩ :=
        (appendToOutbox_cases hsettled crossId gapId entry evict).attributed hsettled h.inQueue
      have haccepted : ((observe state history
          (.append entry evict crossId gapId)).accepted : Multiset (NormalEntry φ)) =
          history.accepted +
            if (state.appendToOutbox crossId gapId entry evict).2 = .no_room then 0
            else {entry} := by
        rw [observe]
        split
        · simp
        · simp [← Multiset.coe_add]
      refine ⟨kept, acked, dropped + lost, hkept, ?_, ?_, fun frame hframe =>
        (Multiset.mem_add.mp hframe).elim (h.completed frame) (hlost frame)⟩
      · rw [observe]
        split <;> exact h.inAcks
      · rw [haccepted, h.accepted]
        generalize (if (state.appendToOutbox crossId gapId entry evict).2 = .no_room then 0
          else ({entry} : Multiset (NormalEntry φ))) = added at hframes ⊢
        calc queued + acked + dropped + added = queued + added + (acked + dropped) := by abel
          _ = kept + lost + (acked + dropped) := by rw [hframes]
          _ = kept + acked + (dropped + lost) := by abel
  | adoptTakeoverEpoch epoch =>
      exact ⟨queued, acked, dropped, accounts_adoptTakeoverEpoch h.inQueue epoch, h.inAcks,
        h.accepted, h.completed⟩
  | humanStart epoch =>
      refine ⟨queued, acked, dropped, ?_, h.inAcks, h.accepted, h.completed⟩
      have hadopted := accounts_adoptTakeoverEpoch h.inQueue epoch
      rw [outboxStep, recordHumanTakeover]
      split <;> exact hadopted
  | sendOldest =>
      refine ⟨queued, acked, dropped, accounts_markInFlight h.inQueue, ?_, ?_, h.completed⟩
      · rw [observe]
        cases state.markInFlight.entries.head? with
        | none => exact h.inAcks
        | some oldest =>
            cases oldest with
            | gap gap => exact h.inAcks
            | cross cross => exact h.inAcks
            | normal entry =>
                rw [Option.elim_some, History.send]
                split <;> exact h.inAcks
      · rw [observe]
        cases state.markInFlight.entries.head? with
        | none => exact h.accepted
        | some oldest =>
            cases oldest with
            | gap gap => exact h.accepted
            | cross cross => exact h.accepted
            | normal entry =>
                rw [Option.elim_some, History.send]
                split <;> exact h.accepted
  | ack ack =>
      obtain ⟨kept, removed, hkept, hremoved, hsum⟩ := accounts_applyOutboxAck h.inQueue h.inAcks
      refine ⟨kept, removed, dropped, hkept, hremoved, ?_, h.completed⟩
      have haccepted : (observe state history (.ack ack)).accepted = history.accepted := by
        rw [observe]
        split <;> rfl
      rw [haccepted, h.accepted, hsum]

theorem attributed_observedRun (agentId : JsString) (events : List (OutboxEvent φ)) :
    ∃ queued acked dropped, Attributed (outboxRun agentId events) (observedRun agentId events).2
      queued acked dropped := by
  induction events using List.reverseRecOn with
  | nil => exact ⟨0, 0, 0, .nil, .nil, rfl, fun _ h => absurd h (Multiset.notMem_zero _)⟩
  | append_singleton events event ih =>
      obtain ⟨queued, acked, dropped, h⟩ := ih
      rw [observedRun_concat, outboxRun, run_concat, ← outboxRun]
      exact attributed_step (flightSettled_outboxRun agentId events) h event

theorem Attributed.conserved {history : History φ} {queued acked dropped : Multiset (NormalEntry φ)}
    (h : Attributed state history queued acked dropped) {kind : EntryKind}
    (hkind : kind ≠ .turnCompleted) :
    history.accepted.countP (fun frame => frame.kind = kind) =
      heldCount kind state.entries + heldCount kind history.acked := by
  have hdropped : frameCount kind dropped = 0 :=
    Multiset.countP_eq_zero.mpr fun frame hframe heq =>
      hkind (heq.symm.trans (h.completed frame hframe))
  rw [h.inQueue.heldCount, h.inAcks.heldCount, ← Multiset.coe_countP, h.accepted]
  change frameCount kind (queued + acked + dropped) = _
  rw [frameCount_add, frameCount_add, hdropped, Nat.add_zero]

/-! ## Order of sending -/

theorem Consume.normals_waiting {entry : NormalEntry φ} {next : AgentOutboxState φ}
    (h : Consume crossId gapId state entry next) (hsettled : state.FlightSettled) :
    (normals next.waiting).Sublist (normals state.waiting) := by
  have hrest : ∀ {pre post : List (OutboxEntry φ)}, state.waiting = pre ++ .normal entry :: post →
      (normals (pre ++ post)).Sublist (normals state.waiting) := by
    intro pre post hwaiting
    rw [hwaiting, normals_append, normals_append]
    exact (List.sublist_cons_self _ _).append_left _
  cases h with
  | countInGap hwaiting hothers hepoch hgap hopen =>
      have hkept := hrest hwaiting
      rw [hothers] at hkept
      simpa [waiting_withWaiting hsettled] using hkept
  | newGap hwaiting hepoch hgaps hinstances =>
      simpa [waiting_withWaiting hsettled] using hrest hwaiting
  | countInCross hwaiting hothers hepoch hopen =>
      have hkept := hrest hwaiting
      rw [hothers] at hkept
      simpa [waiting_withWaiting hsettled] using hkept
  | newCross hwaiting hepoch hclosed hcross =>
      simpa [waiting_withWaiting hsettled] using hrest hwaiting
  | dropCompleted hwaiting hkind =>
      rw [waiting_withWaiting hsettled]
      exact hrest hwaiting

theorem waiting_push (hsettled : state.FlightSettled) (entry : NormalEntry φ) :
    (state.push entry).waiting = state.waiting ++ [.normal entry] := by
  rw [push_eq_withWaiting, waiting_withWaiting hsettled]

theorem Appended.normals_waiting {entry : NormalEntry φ} {next : AgentOutboxState φ}
    {result : AppendResult} (h : Appended crossId gapId state entry next result)
    (hsettled : state.FlightSettled) :
    (normals next.waiting).Sublist
      (normals state.waiting ++ if result = .no_room then [] else [entry]) := by
  cases h with
  | appended hroom => simp [waiting_push hsettled]
  | ignored hkind => simp
  | no_room => simp
  | @madeRoom prepared roomy consumed _ hprepared hconsumed hresult =>
      have hprepared : prepared.FlightSettled ∧
          normals prepared.waiting = normals state.waiting := by
        rcases hprepared with rfl | hmerge
        · exact ⟨hsettled, rfl⟩
        · exact ⟨(hmerge.flightSettled hsettled).1, hmerge.normals_waiting hsettled⟩
      have hkept := hconsumed.normals_waiting hprepared.1
      rw [waiting_push (hconsumed.flightSettled hprepared.1).1, normals_append, if_neg hresult,
        ← hprepared.2]
      exact hkept.append_right _

@[simp] theorem normals_map_sealed (entries : List (OutboxEntry φ)) :
    normals (entries.map OutboxEntry.sealed) = normals entries := by
  induction entries with
  | nil => rfl
  | cons entry rest ih => cases entry <;> simpa [OutboxEntry.sealed] using ih

theorem normals_waiting_adoptTakeoverEpoch (epoch : Int) :
    normals (state.adoptTakeoverEpoch epoch).waiting = normals state.waiting := by
  rw [adoptTakeoverEpoch]
  split
  · simp only [waiting, ← List.map_drop]
    split <;> rw [normals_map_sealed]
  · rfl

structure InOrder (state : AgentOutboxState φ) (history : History φ) : Prop where
  ordered : (history.firstSent ++ normals state.waiting).Sublist history.accepted
  sent : ∀ entry, .normal entry ∈ state.flight →
    entry.identity ∈ history.firstSent.map NormalEntry.identity

theorem InOrder.of_waiting {next : AgentOutboxState φ} {history : History φ}
    (h : InOrder state history) (hflight : ∀ entry ∈ next.flight, entry ∈ state.flight)
    (hwaiting : (normals next.waiting).Sublist (normals state.waiting)) :
    InOrder next history where
  ordered := (hwaiting.append_left _).trans h.ordered
  sent entry hentry := h.sent entry (hflight _ hentry)

theorem inOrder_markInFlight {history : History φ} (hsettled : state.FlightSettled)
    (h : InOrder state history) :
    InOrder state.markInFlight (observe state history .sendOldest) := by
  cases hentries : state.entries with
  | nil =>
      have heq : state.markInFlight = state := by simp [markInFlight, hentries]
      simpa [observe, heq, hentries] using h
  | cons oldest rest =>
      cases hinFlight : state.inFlight with
      | true =>
          obtain ⟨first, hflight, hsealed⟩ := hsettled hinFlight
          obtain rfl : oldest = first := by simpa [flight, hinFlight, hentries] using hflight
          have heq : state.markInFlight = state := by
            simp [markInFlight, hentries, hinFlight, hsealed]
          have hsent : observe state history .sendOldest = history := by
            cases oldest with
            | gap gap => simp [observe, heq, hentries, History.send]
            | cross cross => simp [observe, heq, hentries, History.send]
            | normal entry =>
                have hmem := h.sent entry (by simp [hflight])
                simp only [observe, heq, hentries, List.head?_cons, Option.elim_some, History.send,
                  if_pos hmem]
          rw [heq, hsent]
          exact h
      | false =>
          have heq : state.markInFlight =
              { state with entries := oldest.sealed :: rest, inFlight := true } := by
            simp [markInFlight, hentries, hinFlight]
          have hordered := h.ordered
          simp only [waiting, hinFlight, hentries, Bool.false_eq_true, if_false] at hordered
          cases oldest with
          | gap gap =>
              simp only [observe, heq, OutboxEntry.sealed, List.head?_cons, Option.elim_some,
                History.send]
              exact ⟨by simpa [waiting] using hordered, by simp [flight]⟩
          | cross cross =>
              simp only [observe, heq, OutboxEntry.sealed, List.head?_cons, Option.elim_some,
                History.send]
              exact ⟨by simpa [waiting] using hordered, by simp [flight]⟩
          | normal entry =>
              rw [normals_cons_normal] at hordered
              simp only [observe, heq, OutboxEntry.sealed, List.head?_cons, Option.elim_some,
                History.send]
              split
              · next hmem =>
                  refine ⟨?_, by simpa [flight] using hmem⟩
                  exact ((List.sublist_cons_self _ _).append_left _).trans hordered
              · exact ⟨by simpa [waiting] using hordered, by simp [flight]⟩

theorem flight_applyOutboxAck (hsettled : state.FlightSettled) (ack : OutboxAck) :
    ∀ entry ∈ (state.applyOutboxAck ack).flight, entry ∈ state.flight := by
  intro entry hmem
  cases hinFlight : (state.applyOutboxAck ack).inFlight with
  | false => simp [flight, hinFlight] at hmem
  | true =>
      rw [applyOutboxAck] at hinFlight hmem
      cases hindex : state.ackedIndex ack with
      | none => simpa [hindex] using hmem
      | some index =>
          simp only [hindex, Bool.and_eq_true] at hinFlight
          rcases (flightKept_applyOutboxAck hsettled ack).kept hinFlight.1 with
            ⟨other, heq, hhead⟩ | ⟨-, hsame⟩
          · cases heq
            obtain rfl : index = 0 := Option.some.inj (hindex.symm.trans hhead)
            simp [isInFlightIndex, hinFlight.1] at hinFlight
          · rw [← hsame, applyOutboxAck]
            exact hmem

theorem inOrder_step {history : History φ} (hsettled : state.FlightSettled)
    (h : InOrder state history) (event : OutboxEvent φ) :
    InOrder (outboxStep state event) (observe state history event) := by
  cases event with
  | append entry evict crossId gapId =>
      have happended := appendToOutbox_cases hsettled crossId gapId entry evict
      have hflight := (happended.flightSettled hsettled).2
      have hwaiting := happended.normals_waiting hsettled
      have haccepted : (observe state history (.append entry evict crossId gapId)).accepted =
          history.accepted ++
            if (state.appendToOutbox crossId gapId entry evict).2 = .no_room then []
            else [entry] := by
        rw [observe]
        split <;> simp
      have hsent : (observe state history (.append entry evict crossId gapId)).firstSent =
          history.firstSent := by
        rw [observe]
        split <;> rfl
      refine ⟨?_, fun other hother => ?_⟩
      · rw [haccepted, hsent]
        refine (hwaiting.append_left _).trans ?_
        rw [← List.append_assoc]
        exact h.ordered.append_right _
      · rw [hsent]
        exact h.sent other (hflight ▸ hother)
  | adoptTakeoverEpoch epoch =>
      exact h.of_waiting (by rw [outboxStep, flight_adoptTakeoverEpoch hsettled]; exact fun _ => id)
        (by rw [outboxStep, normals_waiting_adoptTakeoverEpoch])
  | sendOldest => exact inOrder_markInFlight hsettled h
  | ack ack =>
      have hsame : (observe state history (.ack ack)).firstSent = history.firstSent ∧
          (observe state history (.ack ack)).accepted = history.accepted := by
        rw [observe]
        split <;> exact ⟨rfl, rfl⟩
      refine ⟨?_, fun other hother => ?_⟩
      · rw [hsame.1, hsame.2]
        exact (((waiting_applyOutboxAck ack).filterMap _).append_left _).trans h.ordered
      · rw [hsame.1]
        exact h.sent other (flight_applyOutboxAck hsettled ack _ hother)
  | humanStart epoch =>
      have hrecord : ∀ other : AgentOutboxState φ,
          (other.recordHumanTakeover epoch).flight = other.flight ∧
            (other.recordHumanTakeover epoch).waiting = other.waiting := by
        intro other
        rw [recordHumanTakeover]
        split <;> exact ⟨rfl, rfl⟩
      refine h.of_waiting ?_ ?_
      · rw [outboxStep, (hrecord _).1, flight_adoptTakeoverEpoch hsettled]
        exact fun _ => id
      · rw [outboxStep, (hrecord _).2, normals_waiting_adoptTakeoverEpoch]

theorem inOrder_observedRun (agentId : JsString) (events : List (OutboxEvent φ)) :
    InOrder (outboxRun agentId events) (observedRun agentId events).2 := by
  induction events using List.reverseRecOn with
  | nil => exact ⟨List.Sublist.refl _, fun _ h => absurd h List.not_mem_nil⟩
  | append_singleton events event ih =>
      rw [observedRun_concat, outboxRun, run_concat, ← outboxRun]
      exact inOrder_step (flightSettled_outboxRun agentId events) ih event

/-! ## Stop-and-wait delivery -/

structure DeliversStopAndWait (agentId : JsString) (events : List (OutboxEvent φ)) : Prop where
  attributed : ∃ queued acked dropped,
    Attributed (outboxRun agentId events) (observedRun agentId events).2 queued acked dropped
  conserved : ∀ kind ≠ EntryKind.turnCompleted,
    (observedRun agentId events).2.accepted.countP (fun frame => frame.kind = kind) =
      heldCount kind (outboxRun agentId events).entries +
        heldCount kind (observedRun agentId events).2.acked
  oldestInFlight : (outboxRun agentId events).inFlight = true →
    ∃ oldest, (outboxRun agentId events).entries.head? = some oldest
  frozen : ∀ before during, events = before ++ during → ∀ oldest,
    (outboxRun agentId before).inFlight = true →
    (outboxRun agentId before).entries.head? = some oldest →
    (∀ between ack, between ++ [.ack ack] <+: during →
      (outboxRun agentId (before ++ between)).ackedIndex ack ≠ some 0) →
    (outboxRun agentId events).inFlight = true ∧
      (outboxRun agentId events).entries.head? = some oldest
  olderKept : ∀ entry evict crossId gapId, ∃ kept,
    DropsCompleted (older (outboxRun agentId events)) kept ∧
      (older (outboxRun agentId (events ++ [.append entry evict crossId gapId])) = kept ∨
        older (outboxRun agentId (events ++ [.append entry evict crossId gapId])) =
          kept ++ [.normal entry])
  ordered : (observedRun agentId events).2.firstSent.Sublist (observedRun agentId events).2.accepted

/-- Evidence is conserved, and sent one entry at a time in the order of acceptance. -/
theorem outbox_delivers_stop_and_wait (agentId : JsString) (events : List (OutboxEvent φ)) :
    DeliversStopAndWait agentId events where
  attributed := attributed_observedRun agentId events
  conserved kind hkind := by
    obtain ⟨queued, acked, dropped, h⟩ := attributed_observedRun agentId events
    exact h.conserved hkind
  oldestInFlight hinFlight := by
    obtain ⟨oldest, hflight, -⟩ := flightSettled_outboxRun agentId events hinFlight
    exact ⟨oldest, (flight_eq_singleton.mp ⟨hinFlight, hflight⟩).2⟩
  frozen before during heq oldest hinFlight holdest hunacked := by
    rw [heq]
    exact flight_outboxRun hinFlight holdest hunacked
  olderKept entry evict crossId gapId := by
    have happended := appendToOutbox_cases (flightSettled_outboxRun agentId events)
      crossId gapId entry evict
    rw [outboxRun, outboxRun, run_concat, ← outboxRun]
    exact happended.older
  ordered := (List.sublist_append_left _ _).trans (inOrder_observedRun agentId events).ordered

end Raft.Outbox
