import Mathlib.Data.List.Sort
import Raft.Foundation.JsComparison
import Raft.Foundation.Run
import Raft.SeenPolicy.Frontier

/-!
# Draining the inbox

`drainInbox` pulls batches until the server reports nothing more.  It is a
generator: it hands a batch out and stands still until the consumer asks for the
next one.  The log records what crosses its boundary, in order.
-/

namespace Raft.AgentOps

open Raft.Foundation Raft.SeenPolicy

inductive RaftAckMode where
  | cursor
  | immediate
  deriving DecidableEq

structure RaftMessage (β : Type) where
  target : JsString
  seq : Option ℚ
  rest : β

structure RaftInboxBatch (β : Type) where
  messages : List (RaftMessage β)
  cursor : Option JsNumber
  ackMode : RaftAckMode
  hasMore : Bool
  stillUnreadConversations : Option Nat
  replyTarget : Option JsString

structure DrainInboxRequest where
  since : Option JsNumber
  limit : Option JsNumber
  ack : Option RaftAckMode

def DrainInboxRequest.ackMode (request : DrainInboxRequest) : RaftAckMode :=
  request.ack.getD .cursor

/-- `drainInboxRequestSchema` and `checkInboxRequestSchema`: zod integers are safe integers. -/
def validRequest (since limit : Option JsNumber) : Bool :=
  since.all JsNumber.isUnsignedSafeInteger &&
    limit.all fun limit => limit.isSafeInteger && limit.positiveInteger.isSome

/-! ## One pull -/

/-- A `since` of `none` is sent as `latest`. -/
structure EventsQuery where
  since : Option JsNumber
  limit : Option JsNumber
  ack : RaftAckMode

structure EventsResponse (ε : Type) where
  events : List ε
  last_seen_seq : Option JsNumber
  ack_mode : Option RaftAckMode
  has_more : Bool
  unread_conversations : Option Nat
  reply_target : Option JsString

def sortBySeq {β : Type} (messages : List (RaftMessage β)) : List (RaftMessage β) :=
  messages.mergeSort fun first second =>
    first.seq.getD maxSafeInteger ≤ second.seq.getD maxSafeInteger

def seqsByTarget {β : Type} (messages : List (RaftMessage β)) :
    InsertionMap JsString (List JsNumber) :=
  messages.foldl
    (fun byTarget message =>
      match message.seq with
      | none => byTarget
      | some seq =>
          byTarget.set message.target ((byTarget.get message.target).getD [] ++ [.finite seq]))
    .empty

def recordExactSeen {β : Type} (frontier : SeenFrontier) (messages : List (RaftMessage β)) :
    SeenFrontier :=
  (seqsByTarget messages).entries.foldl
    (fun frontier entry => frontier.recordExact entry.1 entry.2) frontier

def batchOf {ε β : Type} (projectRaftMessage : ε → Option (RaftMessage β))
    (data : EventsResponse ε) : RaftInboxBatch β where
  messages := sortBySeq (data.events.filterMap projectRaftMessage)
  cursor := data.last_seen_seq
  ackMode := data.ack_mode.getD .immediate
  hasMore := data.has_more
  stillUnreadConversations := data.unread_conversations
  replyTarget := data.reply_target

/-! ## The generator -/

def MAX_DRAIN_ROUNDS : Nat := 50

inductive DrainError (φ : Type) where
  | invalidRequest
  | client (failure : φ)

structure RaftInboxDrainSummary (φ : Type) where
  cursor : Option JsNumber
  ackMode : RaftAckMode
  rounds : Nat
  hasMore : Bool
  stillUnreadConversations : Option Nat
  error : Option (DrainError φ)

inductive DrainEvent (β φ : Type) where
  | asked
  | pulled (query : EventsQuery)
  | answered (sent : Option JsNumber) (batch : RaftInboxBatch β)
  | yielded (batch : RaftInboxBatch β)
  | stopped
  | returned (summary : RaftInboxDrainSummary φ)

inductive DrainPhase (β : Type) where
  | created
  | pulling (sent : Option JsNumber)
  | handing (batch : RaftInboxBatch β)
  | finished

structure Drain (β φ : Type) where
  request : DrainInboxRequest
  frontier : Option SeenFrontier
  cursor : Option JsNumber
  ackMode : RaftAckMode
  stillUnread : Option Nat
  rounds : Nat
  phase : DrainPhase β
  log : List (DrainEvent β φ)

inductive DrainInput (ε φ : Type) where
  | next
  | stop
  | reply (result : Except φ (EventsResponse ε))

variable {ε β φ : Type}

def createDrain (request : DrainInboxRequest) (frontier : Option SeenFrontier) : Drain β φ :=
  ⟨request, frontier, request.since, request.ackMode, none, 0, .created, []⟩

namespace Drain

variable (drain : Drain β φ)

def record (event : DrainEvent β φ) : Drain β φ := { drain with log := drain.log ++ [event] }

def finish (cursor : Option JsNumber) (hasMore : Bool) (error : Option (DrainError φ)) :
    Drain β φ :=
  { drain with phase := .finished }.record (.returned
    ⟨cursor, drain.ackMode, drain.rounds, hasMore, drain.stillUnread, error⟩)

/-- The head of the `while` loop and, within its body, the call of `checkInbox`. -/
def loop : Drain β φ :=
  if drain.rounds < MAX_DRAIN_ROUNDS then
    let sent := drain.cursor
    let drain := { drain with rounds := drain.rounds + 1 }
    if validRequest sent drain.request.limit then
      { drain with phase := .pulling sent }.record
        (.pulled ⟨sent, drain.request.limit, drain.request.ackMode⟩)
    else drain.finish drain.cursor true (some .invalidRequest)
  else drain.finish drain.cursor true none

def begin : Drain β φ :=
  if validRequest drain.request.since drain.request.limit then drain.loop
  else drain.finish none true (some .invalidRequest)

def resume (batch : RaftInboxBatch β) : Drain β φ :=
  if drain.request.ackMode = .cursor ∧ batch.ackMode = .cursor then drain.loop
  else if batch.hasMore then drain.loop
  else drain.finish drain.cursor false none

def movesCursor (sent cursor : Option JsNumber) : Bool :=
  cursor.any fun cursor => !sent.any cursor.strictEq

def receive (projectRaftMessage : ε → Option (RaftMessage β)) (sent : Option JsNumber) :
    Except φ (EventsResponse ε) → Drain β φ
  | .error failure => drain.finish drain.cursor true (some (.client failure))
  | .ok data =>
      let batch := batchOf projectRaftMessage data
      let drain := { drain with
        frontier := drain.frontier.map fun frontier => recordExactSeen frontier batch.messages
        ackMode := batch.ackMode
        stillUnread := batch.stillUnreadConversations }
      if batch.messages.length > 0 then
        { drain with cursor := batch.cursor.or sent, phase := .handing batch }.record
          (.yielded batch)
      else if drain.request.ackMode = .cursor ∧ batch.ackMode = .cursor ∧
          movesCursor sent batch.cursor then
        { drain with cursor := batch.cursor }.loop
      else drain.finish drain.cursor batch.hasMore none

/-- A successful answer of the server is put in the log before the generator goes on. -/
def hear (projectRaftMessage : ε → Option (RaftMessage β)) (sent : Option JsNumber) :
    Except φ (EventsResponse ε) → Drain β φ
  | .error _ => drain
  | .ok data => drain.record (.answered sent (batchOf projectRaftMessage data))

end Drain

def drainStep (projectRaftMessage : ε → Option (RaftMessage β)) (drain : Drain β φ) :
    DrainInput ε φ → Drain β φ
  | .next =>
      match drain.phase with
      | .created => (drain.record .asked).begin
      | .handing batch => (drain.record .asked).resume batch
      | .pulling _ | .finished => drain
  | .stop =>
      match drain.phase with
      | .created | .handing _ => { drain with phase := .finished }.record .stopped
      | .pulling _ | .finished => drain
  | .reply result =>
      match drain.phase with
      | .pulling sent =>
          (drain.hear projectRaftMessage sent result).receive projectRaftMessage sent result
      | .created | .handing _ | .finished => drain

/-! ## Acknowledgement follows consumption -/

/-- The consumer was handed the batch and has asked for the next one since. -/
def AskedPast (log : List (DrainEvent β φ)) (batch : RaftInboxBatch β) : Prop :=
  ∃ before, before ++ [.yielded batch, .asked] <+: log

/-- The request's own cursor, that of a batch asked past or that of an empty round. -/
def MayAcknowledge (request : DrainInboxRequest) (log : List (DrainEvent β φ))
    (cursor : Option JsNumber) : Prop :=
  cursor = request.since ∨
    (∃ batch, AskedPast log batch ∧ batch.cursor = cursor) ∨
    ∃ sent batch, .answered sent batch ∈ log ∧ batch.messages = [] ∧ batch.cursor = cursor

def answerOf (projectRaftMessage : ε → Option (RaftMessage β)) (drain : Drain β φ) :
    DrainInput ε φ → Option (RaftInboxBatch β)
  | .reply (.ok data) =>
      match drain.phase with
      | .pulling _ => some (batchOf projectRaftMessage data)
      | .created | .handing _ | .finished => none
  | .next | .stop | .reply (.error _) => none

def answers (projectRaftMessage : ε → Option (RaftMessage β)) (drain : Drain β φ) :
    List (DrainInput ε φ) → List (RaftInboxBatch β)
  | [] => []
  | input :: inputs =>
      (answerOf projectRaftMessage drain input).toList ++
        answers projectRaftMessage (drainStep projectRaftMessage drain input) inputs

def answeredBatch : DrainEvent β φ → Option (RaftInboxBatch β)
  | .answered _ batch => some batch
  | _ => none

def yieldedBatch : DrainEvent β φ → Option (RaftInboxBatch β)
  | .yielded batch => some batch
  | _ => none

def nonEmptyAnswer : DrainEvent β φ → Option (RaftInboxBatch β)
  | .answered _ batch => if batch.messages = [] then none else some batch
  | _ => none

structure AckFollowsConsumption (request : DrainInboxRequest)
    (answered : List (RaftInboxBatch β)) (log : List (DrainEvent β φ)) : Prop where
  sends : ∀ before query, before ++ [.pulled query] <+: log →
    MayAcknowledge request before query.since
  holds : ∀ before batch event, before ++ [.yielded batch, event] <+: log →
    event = .asked ∨ event = .stopped
  stops : ∀ before event, ¬ before ++ [.stopped, event] <+: log
  hears : log.filterMap answeredBatch = answered
  yields : log.filterMap yieldedBatch = answered.filter fun batch => batch.messages.length > 0
  summarises : ∀ before summary, before ++ [.returned summary] <+: log →
    summary.cursor = none ∨ MayAcknowledge request before summary.cursor ∨
      ∃ batch, .yielded batch ∈ before ∧ batch.cursor = summary.cursor

/-! ## Logs event by event -/

/-- What may follow a log, by its last event and by what it holds. -/
structure Allowed (request : DrainInboxRequest) (log : List (DrainEvent β φ))
    (event : DrainEvent β φ) : Prop where
  open_ : log.getLast? ≠ some .stopped
  held : ∀ batch, log.getLast? = some (.yielded batch) → event = .asked ∨ event = .stopped
  send : ∀ query, event = .pulled query → MayAcknowledge request log query.since
  summary : ∀ summary, event = .returned summary →
    summary.cursor = none ∨ MayAcknowledge request log summary.cursor ∨
      ∃ batch, .yielded batch ∈ log ∧ batch.cursor = summary.cursor

def AllowedThroughout (request : DrainInboxRequest) (log : List (DrainEvent β φ)) : Prop :=
  ∀ before event, before ++ [event] <+: log → Allowed request before event

theorem AllowedThroughout.concat {request : DrainInboxRequest} {log : List (DrainEvent β φ)}
    {event : DrainEvent β φ} (h : AllowedThroughout request log)
    (hevent : Allowed request log event) : AllowedThroughout request (log ++ [event]) := by
  intro before next hstarts
  obtain heq | hearlier := List.prefix_concat_iff.mp hstarts
  · obtain ⟨rfl, hsame⟩ := List.append_inj' heq rfl
    rwa [← List.singleton_inj.mp hsame.symm]
  · exact h before next hearlier

theorem filterMap_nonEmptyAnswer (log : List (DrainEvent β φ)) :
    log.filterMap nonEmptyAnswer =
      (log.filterMap answeredBatch).filter fun batch => batch.messages.length > 0 := by
  induction log with
  | nil => rfl
  | cons event log ih =>
      cases event with
      | answered sent batch =>
          rw [List.filterMap_cons, List.filterMap_cons, ih]
          by_cases hempty : batch.messages = []
          · simp [nonEmptyAnswer, answeredBatch, hempty]
          · simp [nonEmptyAnswer, answeredBatch, hempty, List.length_pos_iff]
      | asked => exact ih
      | pulled query => exact ih
      | yielded batch => exact ih
      | stopped => exact ih
      | returned summary => exact ih

theorem AllowedThroughout.follows {request : DrainInboxRequest} {log : List (DrainEvent β φ)}
    {answered : List (RaftInboxBatch β)} (h : AllowedThroughout request log)
    (hhears : log.filterMap answeredBatch = answered)
    (hyields : log.filterMap yieldedBatch = log.filterMap nonEmptyAnswer) :
    AckFollowsConsumption request answered log where
  sends := fun before query hstarts => (h before _ hstarts).send query rfl
  holds := fun before batch event hstarts =>
    (h (before ++ [.yielded batch]) event (by simpa using hstarts)).held batch (by simp)
  stops := fun before event hstarts =>
    (h (before ++ [.stopped]) event (by simpa using hstarts)).open_ (by simp)
  hears := hhears
  yields := by rw [hyields, filterMap_nonEmptyAnswer, hhears]
  summarises := fun before summary hstarts => (h before _ hstarts).summary summary rfl

theorem AskedPast.append {log : List (DrainEvent β φ)} {batch : RaftInboxBatch β}
    (h : AskedPast log batch) (events : List (DrainEvent β φ)) :
    AskedPast (log ++ events) batch := by
  obtain ⟨before, hstarts⟩ := h
  exact ⟨before, hstarts.trans (List.prefix_append _ _)⟩

theorem MayAcknowledge.append {request : DrainInboxRequest} {log : List (DrainEvent β φ)}
    {cursor : Option JsNumber} (h : MayAcknowledge request log cursor)
    (events : List (DrainEvent β φ)) : MayAcknowledge request (log ++ events) cursor := by
  obtain hrequest | ⟨batch, hpast, hcursor⟩ | ⟨sent, batch, hmem, hempty, hcursor⟩ := h
  · exact .inl hrequest
  · exact .inr (.inl ⟨batch, hpast.append events, hcursor⟩)
  · exact .inr (.inr ⟨sent, batch, List.mem_append_left _ hmem, hempty, hcursor⟩)

theorem yields_concat {log : List (DrainEvent β φ)} {event : DrainEvent β φ}
    (h : log.filterMap yieldedBatch = log.filterMap nonEmptyAnswer)
    (hevent : yieldedBatch event = nonEmptyAnswer event) :
    (log ++ [event]).filterMap yieldedBatch = (log ++ [event]).filterMap nonEmptyAnswer := by
  simp only [List.filterMap_append, List.filterMap_cons, List.filterMap_nil, h, hevent]

/-! ## The generator's invariant -/

def Running (log : List (DrainEvent β φ)) : Prop :=
  ∀ last, log.getLast? = some last → yieldedBatch last = none ∧ last ≠ .stopped

theorem Running.allowed {request : DrainInboxRequest} {log : List (DrainEvent β φ)}
    {event : DrainEvent β φ} (h : Running log)
    (hsend : ∀ query, event = .pulled query → MayAcknowledge request log query.since)
    (hsummary : ∀ summary, event = .returned summary →
      summary.cursor = none ∨ MayAcknowledge request log summary.cursor ∨
        ∃ batch, .yielded batch ∈ log ∧ batch.cursor = summary.cursor) :
    Allowed request log event where
  open_ := fun hlast => (h _ hlast).2 rfl
  held := fun batch hlast => absurd (h _ hlast).1 (by simp [yieldedBatch])
  send := hsend
  summary := hsummary

def Suspended (request : DrainInboxRequest) (drain : Drain β φ) : Prop :=
  match drain.phase with
  | .created => drain.log = [] ∧ drain.cursor = request.since
  | .pulling sent =>
      Running drain.log ∧ drain.cursor = sent ∧ MayAcknowledge request drain.log sent
  | .handing batch =>
      drain.log.getLast? = some (.yielded batch) ∧
        (drain.cursor = batch.cursor ∨ MayAcknowledge request drain.log drain.cursor)
  | .finished => True

structure Draining (request : DrainInboxRequest) (drain : Drain β φ) : Prop where
  request_eq : drain.request = request
  allowed : AllowedThroughout request drain.log
  yields : drain.log.filterMap yieldedBatch = drain.log.filterMap nonEmptyAnswer
  suspended : Suspended request drain

variable {request : DrainInboxRequest} {drain : Drain β φ}

theorem draining_finish {cursor : Option JsNumber} {hasMore : Bool}
    {error : Option (DrainError φ)} (hrequest : drain.request = request)
    (hallowed : AllowedThroughout request drain.log)
    (hyields : drain.log.filterMap yieldedBatch = drain.log.filterMap nonEmptyAnswer)
    (hrunning : Running drain.log)
    (hcursor : cursor = none ∨ MayAcknowledge request drain.log cursor ∨
      ∃ batch, .yielded batch ∈ drain.log ∧ batch.cursor = cursor) :
    Draining request (drain.finish cursor hasMore error) where
  request_eq := hrequest
  allowed := hallowed.concat (hrunning.allowed (by simp) (by
    intro summary hsummary
    obtain rfl := DrainEvent.returned.inj hsummary
    exact hcursor))
  yields := yields_concat hyields rfl
  suspended := trivial

theorem draining_loop (hrequest : drain.request = request)
    (hallowed : AllowedThroughout request drain.log)
    (hyields : drain.log.filterMap yieldedBatch = drain.log.filterMap nonEmptyAnswer)
    (hrunning : Running drain.log) (hcursor : MayAcknowledge request drain.log drain.cursor) :
    Draining request drain.loop := by
  rw [Drain.loop]
  split
  · dsimp only
    split
    · exact {
        request_eq := hrequest
        allowed := hallowed.concat (hrunning.allowed (by
          intro query hquery
          obtain rfl := DrainEvent.pulled.inj hquery
          exact hcursor) (by simp))
        yields := yields_concat hyields rfl
        suspended := by
          refine ⟨fun last hlast => ?_, rfl, hcursor.append _⟩
          obtain rfl : DrainEvent.pulled _ = last := by simpa [Drain.record] using hlast
          simp [yieldedBatch] }
    · exact draining_finish hrequest hallowed hyields hrunning (.inr (.inl hcursor))
  · exact draining_finish hrequest hallowed hyields hrunning (.inr (.inl hcursor))

/-- Once the consumer asks, the batch it holds has been asked past. -/
theorem mayAcknowledge_asked {log : List (DrainEvent β φ)} {batch : RaftInboxBatch β}
    {cursor : Option JsNumber} (hlast : log.getLast? = some (.yielded batch))
    (hcursor : cursor = batch.cursor ∨ MayAcknowledge request log cursor) :
    MayAcknowledge request (log ++ [.asked]) cursor := by
  obtain rfl | hearlier := hcursor
  · obtain ⟨before, rfl⟩ := List.getLast?_eq_some_iff.mp hlast
    exact .inr (.inl ⟨batch, ⟨before, by simp⟩, rfl⟩)
  · exact hearlier.append _

theorem running_concat {log : List (DrainEvent β φ)} {event : DrainEvent β φ}
    (hyield : yieldedBatch event = none) (hstop : event ≠ .stopped) :
    Running (log ++ [event]) := by
  intro last hlast
  obtain rfl : event = last := by simpa using hlast
  exact ⟨hyield, hstop⟩

theorem Draining.next (h : Draining request drain)
    (projectRaftMessage : ε → Option (RaftMessage β)) :
    Draining request (drainStep projectRaftMessage drain .next) := by
  have hsuspended := h.suspended
  rw [drainStep]
  cases hphase : drain.phase with
  | created =>
      rw [Suspended, hphase] at hsuspended
      obtain ⟨hlog, hcursor⟩ := hsuspended
      have hrunning : Running (drain.record .asked).log := running_concat rfl (by simp)
      have hallowed : AllowedThroughout request (drain.record .asked).log :=
        h.allowed.concat ⟨by simp [hlog], by simp [hlog], by simp, by simp⟩
      have hyields : (drain.record .asked).log.filterMap yieldedBatch =
          (drain.record .asked).log.filterMap nonEmptyAnswer := yields_concat h.yields rfl
      simp only [Drain.begin]
      split
      · exact draining_loop h.request_eq hallowed hyields hrunning (.inl hcursor)
      · exact draining_finish h.request_eq hallowed hyields hrunning (.inl rfl)
  | handing batch =>
      rw [Suspended, hphase] at hsuspended
      obtain ⟨hlast, hcursor⟩ := hsuspended
      have hrunning : Running (drain.record .asked).log := running_concat rfl (by simp)
      have hallowed : AllowedThroughout request (drain.record .asked).log :=
        h.allowed.concat ⟨by simp [hlast], by simp, by simp, by simp⟩
      have hyields : (drain.record .asked).log.filterMap yieldedBatch =
          (drain.record .asked).log.filterMap nonEmptyAnswer := yields_concat h.yields rfl
      have hasked := mayAcknowledge_asked hlast hcursor
      simp only [Drain.resume]
      split
      · exact draining_loop h.request_eq hallowed hyields hrunning hasked
      · split
        · exact draining_loop h.request_eq hallowed hyields hrunning hasked
        · exact draining_finish h.request_eq hallowed hyields hrunning (.inr (.inl hasked))
  | pulling sent => exact h
  | finished => exact h

theorem Draining.stop (h : Draining request drain)
    (projectRaftMessage : ε → Option (RaftMessage β)) :
    Draining request (drainStep projectRaftMessage drain .stop) := by
  have hsuspended := h.suspended
  have hclosed (hopen : drain.log.getLast? ≠ some .stopped) :
      Draining request ({ drain with phase := .finished }.record .stopped) := {
    request_eq := h.request_eq
    allowed := h.allowed.concat ⟨hopen, fun _ _ => .inr rfl, by simp, by simp⟩
    yields := yields_concat h.yields rfl
    suspended := trivial }
  rw [drainStep]
  cases hphase : drain.phase with
  | created =>
      rw [Suspended, hphase] at hsuspended
      exact hclosed (by simp [hsuspended.1])
  | handing batch =>
      rw [Suspended, hphase] at hsuspended
      exact hclosed (by simp [hsuspended.1])
  | pulling sent => exact h
  | finished => exact h

theorem Draining.reply (h : Draining request drain)
    (projectRaftMessage : ε → Option (RaftMessage β)) (result : Except φ (EventsResponse ε)) :
    Draining request (drainStep projectRaftMessage drain (.reply result)) := by
  have hsuspended := h.suspended
  rw [drainStep]
  cases hphase : drain.phase with
  | created => exact h
  | handing batch => exact h
  | finished => exact h
  | pulling sent =>
      rw [Suspended, hphase] at hsuspended
      obtain ⟨hrunning, hcursor, hsent⟩ := hsuspended
      cases result with
      | error failure =>
          exact draining_finish h.request_eq h.allowed h.yields hrunning
            (.inr (.inl (hcursor ▸ hsent)))
      | ok data =>
          change Draining request ((drain.record (.answered sent
            (batchOf projectRaftMessage data))).receive projectRaftMessage sent (.ok data))
          generalize hheard : drain.record (.answered sent (batchOf projectRaftMessage data)) =
            heard
          simp only [Drain.receive]
          generalize batchOf projectRaftMessage data = batch at hheard ⊢
          have hlog : heard.log = drain.log ++ [.answered sent batch] := by rw [← hheard]; rfl
          have hrequest : heard.request = request := by rw [← hheard]; exact h.request_eq
          have hkept : heard.cursor = sent := by rw [← hheard]; exact hcursor
          have hanswered : AllowedThroughout request heard.log := by
            rw [hlog]
            exact h.allowed.concat (hrunning.allowed (by simp) (by simp))
          have hstill : Running heard.log := by
            rw [hlog]
            exact running_concat rfl (by simp)
          have hmay : MayAcknowledge request heard.log sent := by
            rw [hlog]
            exact hsent.append _
          split
          · next hmessages =>
              have hnonempty : batch.messages ≠ [] := List.ne_nil_of_length_pos hmessages
              exact {
                request_eq := hrequest
                allowed := hanswered.concat (hstill.allowed (by simp) (by simp))
                yields := by
                  simp [Drain.record, hlog, yieldedBatch, nonEmptyAnswer, hnonempty, h.yields,
                    List.filterMap_cons]
                suspended := by
                  refine ⟨by simp [Drain.record], ?_⟩
                  cases batch.cursor with
                  | none => exact .inr (hmay.append _)
                  | some cursor => exact .inl (by simp [Drain.record]) }
          · next hmessages =>
              have hempty : batch.messages = [] := by
                simpa using hmessages
              have hyields : heard.log.filterMap yieldedBatch =
                  heard.log.filterMap nonEmptyAnswer := by
                rw [hlog]
                exact yields_concat h.yields (by simp [yieldedBatch, nonEmptyAnswer, hempty])
              split
              · exact draining_loop hrequest hanswered hyields hstill
                  (.inr (.inr ⟨sent, batch, by simp [hlog], hempty, rfl⟩))
              · exact draining_finish hrequest hanswered hyields hstill
                  (.inr (.inl (hkept ▸ hmay)))

/-! ## The answers that meet a pull -/

section Answers

variable (projectRaftMessage : ε → Option (RaftMessage β)) (drain : Drain β φ)

theorem answered_finish (cursor : Option JsNumber) (hasMore : Bool)
    (error : Option (DrainError φ)) :
    (drain.finish cursor hasMore error).log.filterMap answeredBatch =
      drain.log.filterMap answeredBatch := by
  simp [Drain.finish, Drain.record, answeredBatch]

theorem answered_loop :
    drain.loop.log.filterMap answeredBatch = drain.log.filterMap answeredBatch := by
  unfold Drain.loop
  split
  · dsimp only
    split
    · simp [Drain.record, answeredBatch]
    · exact answered_finish _ _ _ _
  · exact answered_finish _ _ _ _

theorem answered_next :
    (drainStep projectRaftMessage drain .next).log.filterMap answeredBatch =
      drain.log.filterMap answeredBatch := by
  have hasked : (drain.record .asked).log.filterMap answeredBatch =
      drain.log.filterMap answeredBatch := by
    simp [Drain.record, answeredBatch]
  unfold drainStep
  cases drain.phase with
  | created =>
      refine Eq.trans ?_ hasked
      dsimp only [Drain.begin]
      split
      · exact answered_loop _
      · exact answered_finish _ _ _ _
  | handing batch =>
      refine Eq.trans ?_ hasked
      dsimp only [Drain.resume]
      split
      · exact answered_loop _
      · split
        · exact answered_loop _
        · exact answered_finish _ _ _ _
  | pulling sent => rfl
  | finished => rfl

theorem answered_receive (sent : Option JsNumber) (result : Except φ (EventsResponse ε)) :
    (drain.receive projectRaftMessage sent result).log.filterMap answeredBatch =
      drain.log.filterMap answeredBatch := by
  cases result with
  | error failure => exact answered_finish _ _ _ _
  | ok data =>
      simp only [Drain.receive]
      split
      · simp [Drain.record, answeredBatch]
      · split
        · exact answered_loop _
        · exact answered_finish _ _ _ _

theorem answered_step (input : DrainInput ε φ) :
    (drainStep projectRaftMessage drain input).log.filterMap answeredBatch =
      drain.log.filterMap answeredBatch ++ (answerOf projectRaftMessage drain input).toList := by
  cases input with
  | next => exact (answered_next projectRaftMessage drain).trans (List.append_nil _).symm
  | stop =>
      unfold drainStep
      cases hphase : drain.phase with
      | created => simp [Drain.record, answeredBatch, answerOf]
      | handing batch => simp [Drain.record, answeredBatch, answerOf]
      | pulling sent => simp [answerOf]
      | finished => simp [answerOf]
  | reply result =>
      unfold drainStep
      cases hphase : drain.phase with
      | created => cases result <;> simp [answerOf, hphase]
      | handing batch => cases result <;> simp [answerOf, hphase]
      | finished => cases result <;> simp [answerOf, hphase]
      | pulling sent =>
          refine (answered_receive projectRaftMessage _ sent result).trans ?_
          cases result with
          | error failure => simp [Drain.hear, answerOf]
          | ok data => simp [Drain.hear, Drain.record, answerOf, hphase, answeredBatch]

theorem answered_run (inputs : List (DrainInput ε φ)) :
    (run (drainStep projectRaftMessage) drain inputs).log.filterMap answeredBatch =
      drain.log.filterMap answeredBatch ++ answers projectRaftMessage drain inputs := by
  induction inputs generalizing drain with
  | nil => exact (List.append_nil _).symm
  | cons input inputs ih =>
      rw [run_cons, ih, answered_step, answers, List.append_assoc]

end Answers

theorem drain_acknowledges_after_consumption
    (projectRaftMessage : ε → Option (RaftMessage β)) (request : DrainInboxRequest)
    (frontier : Option SeenFrontier) (inputs : List (DrainInput ε φ)) :
    AckFollowsConsumption request
      (answers projectRaftMessage (createDrain request frontier : Drain β φ) inputs)
      (run (drainStep projectRaftMessage) (createDrain request frontier) inputs).log := by
  have hcreated : Draining request (createDrain request frontier : Drain β φ) := {
    request_eq := rfl
    allowed := fun before event hstarts => by
      simp [createDrain] at hstarts
    yields := rfl
    suspended := ⟨rfl, rfl⟩ }
  have hdraining := run_invariant (Draining request) inputs
    (fun drain input h => by
      cases input with
      | next => exact h.next projectRaftMessage
      | stop => exact h.stop projectRaftMessage
      | reply result => exact h.reply projectRaftMessage result) hcreated
  exact hdraining.allowed.follows (answered_run projectRaftMessage _ inputs) hdraining.yields

end Raft.AgentOps
