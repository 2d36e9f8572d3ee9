import Mathlib.Algebra.Order.Group.Multiset
import Mathlib.Tactic.Abel
import Raft.Foundation.InsertionMap
import Raft.Foundation.JsString
import Raft.Foundation.Run

/-!
# Messages waiting for a start

Messages that arrive while an agent starts are kept per agent until the spawn
drains them, the start is cancelled or the agent turns out to have seen them.
An operation changes the map first and then asserts its invariants, so one that
throws has still made its change.
-/

namespace Raft.AgentStarts

open Raft.Foundation

variable {M : Type}

structure AgentStartPendingDeliveryBuffer (M : Type) where
  pending : InsertionMap JsString (List M)

/-- What a call leaves and what it returns or throws. -/
structure PendingDeliveryCall (M α : Type) where
  buffer : AgentStartPendingDeliveryBuffer M
  result : Except JsString α

structure AgentStartPendingDeliveryAllowedSnapshot where
  queuedAgentIds : List JsString
  startingAgentIds : List JsString
  terminalRecoveryAgentIds : Option (List JsString)
  cooldownAgentIds : Option (List JsString)

def AgentStartPendingDeliveryAllowedSnapshot.allowed
    (snapshot : AgentStartPendingDeliveryAllowedSnapshot) : List JsString :=
  snapshot.queuedAgentIds ++ snapshot.startingAgentIds ++
    snapshot.terminalRecoveryAgentIds.getD [] ++ snapshot.cooldownAgentIds.getD []

def violationText (context detail : JsString) : JsString :=
  js "Agent start pending delivery invariant violation after " ++ context ++ js ": " ++ detail

def emptyAgentIdText (context : JsString) : JsString := violationText context (js "empty agent id")

namespace AgentStartPendingDeliveryBuffer

variable {α : Type}

def create : AgentStartPendingDeliveryBuffer M := ⟨.empty⟩

variable (buffer : AgentStartPendingDeliveryBuffer M)

def values (agentId : JsString) : List M := (buffer.pending.get agentId).getD []

def count (agentId : JsString) : Nat := (buffer.values agentId).length

def assertInternalInvariants (context : JsString) : Except JsString Unit :=
  let violation := buffer.pending.entries.findSome? fun entry =>
    if entry.1 = js "" then some (emptyAgentIdText context)
    else if entry.2.isEmpty then
      some (violationText context (js "empty pending buffer for " ++ entry.1))
    else none
  match violation with
  | some text => .error text
  | none => .ok ()

def asserted (context : JsString) (value : α) : PendingDeliveryCall M α :=
  ⟨buffer, (buffer.assertInternalInvariants context).map fun _ => value⟩

def assertInvariants (context : JsString) (snapshot : AgentStartPendingDeliveryAllowedSnapshot) :
    Except JsString Unit :=
  match buffer.assertInternalInvariants context with
  | .error text => .error text
  | .ok () =>
      match buffer.pending.keys.find? fun agentId => agentId ∉ snapshot.allowed with
      | some agentId =>
          .error (violationText context (js "pending messages for non-starting agent " ++ agentId))
      | none => .ok ()

/-- `existing.push(...messages)`, or a new entry of the map. -/
def push (agentId : JsString) (messages : List M) : AgentStartPendingDeliveryBuffer M :=
  match buffer.pending.get agentId with
  | some existing => ⟨buffer.pending.set agentId (existing ++ messages)⟩
  | none => ⟨buffer.pending.set agentId messages⟩

def append (agentId : JsString) (messages : List M) (context : JsString) :
    PendingDeliveryCall M Nat :=
  if messages.isEmpty then ⟨buffer, .ok (buffer.count agentId)⟩
  else
    (buffer.push agentId messages).asserted context ((buffer.push agentId messages).count agentId)

def bufferDuringStart (agentId : JsString) (message : M) : PendingDeliveryCall M Nat :=
  buffer.append agentId [message] (js "bufferDuringStart")

def bufferMessagesDuringStart (agentId : JsString) (messages : List M) :
    PendingDeliveryCall M Nat :=
  buffer.append agentId messages (js "bufferMessagesDuringStart")

/-- What a rebind appends: the previous wake, unless it is the next one. -/
def reboundWake (sameWakeMessage : M → M → Bool) : Option M → Option M → List M
  | some previous, some next => if sameWakeMessage previous next then [] else [previous]
  | _, _ => []

def rebindWake (sameWakeMessage : M → M → Bool) (agentId : JsString)
    (previousWakeMessage nextWakeMessage : Option M) : PendingDeliveryCall M Nat :=
  buffer.append agentId (reboundWake sameWakeMessage previousWakeMessage nextWakeMessage)
    (js "rebindWake")

def drainOnSpawn (agentId : JsString) : PendingDeliveryCall M (List M) :=
  asserted ⟨buffer.pending.delete agentId⟩ (js "drainOnSpawn") (buffer.values agentId)

def cancelStart (agentId : JsString) : PendingDeliveryCall M Unit :=
  asserted ⟨buffer.pending.delete agentId⟩ (js "cancelStart") ()

def cancelAllStarts (_ : AgentStartPendingDeliveryBuffer M) : PendingDeliveryCall M Unit :=
  asserted ⟨.empty⟩ (js "cancelAllStarts") ()

/-- The map without the messages that match; `retained` is what is left of them. -/
def retain (agentId : JsString) (retained : List M) : AgentStartPendingDeliveryBuffer M :=
  if retained.isEmpty then ⟨buffer.pending.delete agentId⟩
  else ⟨buffer.pending.set agentId retained⟩

/-- Also `purge`. -/
def suppressConsumed (agentId : JsString) (predicate : M → Bool) : PendingDeliveryCall M Nat :=
  let messages := buffer.values agentId
  if messages.isEmpty then ⟨buffer, .ok 0⟩
  else
    (buffer.retain agentId (messages.filter fun message => !predicate message)).asserted
      (js "suppressConsumed") (messages.filter predicate).length

variable {buffer}

/-! ## What each operation leaves -/

theorem values_set (agentId other : JsString) (messages : List M) :
    values ⟨buffer.pending.set agentId messages⟩ other =
      if other = agentId then messages else buffer.values other := by
  unfold values
  rw [InsertionMap.get_set]
  split
  · rfl
  · rfl

theorem values_delete (agentId other : JsString) :
    values ⟨buffer.pending.delete agentId⟩ other =
      if other = agentId then [] else buffer.values other := by
  unfold values
  rw [InsertionMap.get_delete]
  split
  · rfl
  · rfl

theorem values_push (agentId other : JsString) (messages : List M) :
    (buffer.push agentId messages).values other =
      if other = agentId then buffer.values agentId ++ messages else buffer.values other := by
  unfold push
  split
  · rename_i existing hexisting
    rw [values_set]
    have hvalues : buffer.values agentId = existing := by
      rw [values, hexisting]
      rfl
    rw [hvalues]
  · rename_i hnone
    rw [values_set]
    have hvalues : buffer.values agentId = [] := by
      rw [values, hnone]
      rfl
    rw [hvalues, List.nil_append]

theorem values_append (agentId other : JsString) (messages : List M) (context : JsString) :
    (buffer.append agentId messages context).buffer.values other =
      if other = agentId then buffer.values agentId ++ messages else buffer.values other := by
  unfold append
  split
  · rename_i hempty
    rw [List.isEmpty_iff.mp hempty, List.append_nil]
    split
    · rename_i heq
      rw [heq]
    · rfl
  · exact values_push agentId other messages

theorem values_retain (agentId other : JsString) (retained : List M) :
    (buffer.retain agentId retained).values other =
      if other = agentId then retained else buffer.values other := by
  unfold retain
  split
  · rename_i hempty
    rw [values_delete, List.isEmpty_iff.mp hempty]
  · exact values_set agentId other retained

theorem values_suppressConsumed (agentId other : JsString) (predicate : M → Bool) :
    (buffer.suppressConsumed agentId predicate).buffer.values other =
      if other = agentId then (buffer.values agentId).filter fun message => !predicate message
      else buffer.values other := by
  unfold suppressConsumed
  dsimp only
  split
  · rename_i hempty
    split
    · rename_i heq
      rw [heq, List.isEmpty_iff.mp hempty]
      rfl
    · rfl
  · exact values_retain agentId other _

def Filled (buffer : AgentStartPendingDeliveryBuffer M) : Prop :=
  ∀ agentId, buffer.pending.get agentId ≠ some []

theorem Filled.set (h : Filled buffer) (agentId : JsString) {messages : List M}
    (hmessages : messages ≠ []) : Filled ⟨buffer.pending.set agentId messages⟩ := by
  intro other
  rw [InsertionMap.get_set]
  split
  · exact fun heq => hmessages (Option.some.inj heq)
  · exact h other

theorem Filled.delete (h : Filled buffer) (agentId : JsString) :
    Filled ⟨buffer.pending.delete agentId⟩ := by
  intro other
  rw [InsertionMap.get_delete]
  split
  · exact fun heq => by cases heq
  · exact h other

theorem Filled.push (h : Filled buffer) (agentId : JsString) {messages : List M}
    (hmessages : messages ≠ []) : Filled (buffer.push agentId messages) := by
  unfold AgentStartPendingDeliveryBuffer.push
  split
  · exact h.set agentId (List.append_ne_nil_of_right_ne_nil _ hmessages)
  · exact h.set agentId hmessages

theorem Filled.retain (h : Filled buffer) (agentId : JsString) (retained : List M) :
    Filled (buffer.retain agentId retained) := by
  unfold AgentStartPendingDeliveryBuffer.retain
  split
  · exact h.delete agentId
  · rename_i hsome
    exact h.set agentId fun heq => hsome (List.isEmpty_iff.mpr heq)

theorem filled_create : Filled (create : AgentStartPendingDeliveryBuffer M) :=
  fun _ heq => by cases heq

theorem Filled.values_eq_nil_iff (h : Filled buffer) (agentId : JsString) :
    buffer.values agentId = [] ↔ agentId ∉ buffer.pending.keys := by
  rw [← InsertionMap.get_eq_none_iff, values]
  cases hget : buffer.pending.get agentId with
  | none => simp
  | some messages =>
      have hmessages : messages ≠ [] := fun heq => h agentId (heq ▸ hget)
      simpa using hmessages

/-- Only the empty agent id is ever found by the assertion. -/
theorem Filled.assertInternalInvariants (h : Filled buffer) (context : JsString) :
    buffer.assertInternalInvariants context =
      if buffer.values (js "") = [] then .ok () else .error (emptyAgentIdText context) := by
  have hentry : ∀ entry ∈ buffer.pending.entries, entry.2.isEmpty = false := by
    intro entry hmem
    refine List.isEmpty_eq_false_iff.mpr fun hempty => h entry.1 ?_
    rw [← hempty]
    exact (buffer.pending.mem_entries_iff entry.1 entry.2).mp hmem
  have hfound : ∀ entries : List (JsString × List M),
      (∀ entry ∈ entries, entry.2.isEmpty = false) →
      (entries.findSome? fun entry =>
        if entry.1 = js "" then some (emptyAgentIdText context)
        else if entry.2.isEmpty then
          some (violationText context (js "empty pending buffer for " ++ entry.1))
        else none) =
      if js "" ∈ entries.map Prod.fst then some (emptyAgentIdText context) else none := by
    intro entries hentries
    induction entries with
    | nil => rfl
    | cons entry entries ih =>
        have hrest := ih fun other hmem => hentries other (List.mem_cons_of_mem _ hmem)
        rw [List.findSome?_cons, List.map_cons]
        by_cases hid : entry.1 = js ""
        · rw [if_pos hid, if_pos (hid ▸ List.mem_cons_self)]
        · rw [if_neg hid, hentries entry List.mem_cons_self, if_neg Bool.false_ne_true]
          dsimp only
          rw [hrest]
          have hiff : js "" ∈ entry.1 :: entries.map Prod.fst ↔ js "" ∈ entries.map Prod.fst := by
            rw [List.mem_cons]
            exact or_iff_right fun heq => hid heq.symm
          simp only [hiff]
  unfold AgentStartPendingDeliveryBuffer.assertInternalInvariants
  dsimp only
  rw [hfound _ hentry]
  have hkeys := h.values_eq_nil_iff (js "")
  rw [InsertionMap.keys] at hkeys
  by_cases hnone : buffer.values (js "") = []
  · rw [if_pos hnone, if_neg (hkeys.mp hnone)]
  · rw [if_neg hnone, if_pos (not_not.mp (mt hkeys.mpr hnone))]

theorem Filled.asserted (h : Filled buffer) {α : Type} (context : JsString) (value : α) :
    (buffer.asserted context value).result =
      if buffer.values (js "") = [] then .ok value else .error (emptyAgentIdText context) := by
  rw [AgentStartPendingDeliveryBuffer.asserted, h.assertInternalInvariants]
  split
  · rfl
  · rfl

theorem Filled.assertInvariants (h : Filled buffer) (context : JsString)
    (snapshot : AgentStartPendingDeliveryAllowedSnapshot) :
    buffer.assertInvariants context snapshot = .ok () ↔
      buffer.values (js "") = [] ∧ ∀ agentId, buffer.values agentId ≠ [] →
        agentId ∈ snapshot.allowed := by
  unfold AgentStartPendingDeliveryBuffer.assertInvariants
  rw [h.assertInternalInvariants]
  by_cases hnone : buffer.values (js "") = []
  · rw [if_pos hnone]
    dsimp only
    split
    · rename_i agentId hfound
      have hmem := List.mem_of_find?_eq_some hfound
      have hnot := List.find?_some hfound
      refine ⟨fun heq => (by cases heq), fun hboth => ?_⟩
      have hallowed := hboth.2 agentId fun hnil => (h.values_eq_nil_iff agentId).mp hnil hmem
      exact absurd hallowed (of_decide_eq_true hnot)
    · rename_i hnotFound
      refine ⟨fun _ => ⟨hnone, fun agentId hpending => ?_⟩, fun _ => rfl⟩
      have hmem := not_not.mp (mt (h.values_eq_nil_iff agentId).mpr hpending)
      exact not_not.mp fun hnot =>
        List.find?_eq_none.mp hnotFound agentId hmem (decide_eq_true hnot)
  · rw [if_neg hnone]
    exact ⟨fun heq => (by cases heq), fun hboth => absurd hboth.1 hnone⟩

end AgentStartPendingDeliveryBuffer

/-! ## What becomes of a message -/

/-- Each message that was taken has been handed out, is pending, was withdrawn or lost, and what is
handed out or pending keeps the order in which it was taken. -/
structure Delivered (taken drained pending withdrawn lost : List M) : Prop where
  once : taken.Perm (drained ++ pending ++ withdrawn ++ lost)
  inOrder : (drained ++ pending).Sublist taken

structure Moved (pending takes hands after withdraws loses : List M) : Prop where
  balance : (pending ++ takes).Perm (hands ++ after ++ withdraws ++ loses)
  inOrder : (hands ++ after).Sublist (pending ++ takes)

theorem Delivered.move
    {taken drained pending withdrawn lost takes hands after withdraws loses : List M}
    (h : Delivered taken drained pending withdrawn lost)
    (hmoved : Moved pending takes hands after withdraws loses) :
    Delivered (taken ++ takes) (drained ++ hands) after (withdrawn ++ withdraws)
      (lost ++ loses) where
  once := by
    have honce := Multiset.coe_eq_coe.mpr h.once
    have hbalance := Multiset.coe_eq_coe.mpr hmoved.balance
    simp only [← Multiset.coe_add] at honce hbalance
    refine Multiset.coe_eq_coe.mp ?_
    simp only [← Multiset.coe_add]
    calc (taken : Multiset M) + takes
        = drained + (pending + takes) + withdrawn + lost := by rw [honce]; abel
      _ = drained + hands + after + (withdrawn + withdraws) + (lost + loses) := by
          rw [hbalance]
          abel
  inOrder := by
    rw [List.append_assoc]
    refine ((List.Sublist.refl drained).append hmoved.inOrder).trans ?_
    rw [← List.append_assoc]
    exact h.inOrder.append (List.Sublist.refl takes)

theorem moved_kept (pending : List M) : Moved pending [] [] pending [] [] :=
  ⟨by simp, by simp⟩

theorem moved_take (pending takes : List M) : Moved pending takes [] (pending ++ takes) [] [] :=
  ⟨by simp, by simp⟩

/-! ## Every run -/

inductive PendingDeliveryOp (M : Type) where
  | bufferDuringStart (agentId : JsString) (message : M)
  | bufferMessagesDuringStart (agentId : JsString) (messages : List M)
  | rebindWake (agentId : JsString) (previousWakeMessage nextWakeMessage : Option M)
  | drainOnSpawn (agentId : JsString)
  | cancelStart (agentId : JsString)
  | cancelAllStarts
  | suppressConsumed (agentId : JsString) (predicate : M → Bool)

namespace PendingDeliveryOp

variable (op : PendingDeliveryOp M) (sameWakeMessage : M → M → Bool)

def context : JsString :=
  match op with
  | .bufferDuringStart _ _ => js "bufferDuringStart"
  | .bufferMessagesDuringStart _ _ => js "bufferMessagesDuringStart"
  | .rebindWake _ _ _ => js "rebindWake"
  | .drainOnSpawn _ => js "drainOnSpawn"
  | .cancelStart _ => js "cancelStart"
  | .cancelAllStarts => js "cancelAllStarts"
  | .suppressConsumed _ _ => js "suppressConsumed"

/-- Whether the call gets to its assertion. -/
def asserts (buffer : AgentStartPendingDeliveryBuffer M) : Bool :=
  match op with
  | .bufferDuringStart _ _ | .drainOnSpawn _ | .cancelStart _ | .cancelAllStarts => true
  | .bufferMessagesDuringStart _ messages => !messages.isEmpty
  | .rebindWake _ previous next =>
      !(AgentStartPendingDeliveryBuffer.reboundWake sameWakeMessage previous next).isEmpty
  | .suppressConsumed agentId _ => !(buffer.values agentId).isEmpty

def takes (agentId : JsString) : List M :=
  match op with
  | .bufferDuringStart named message => if agentId = named then [message] else []
  | .bufferMessagesDuringStart named messages => if agentId = named then messages else []
  | .rebindWake named previous next =>
      if agentId = named then
        AgentStartPendingDeliveryBuffer.reboundWake sameWakeMessage previous next
      else []
  | .drainOnSpawn _ | .cancelStart _ | .cancelAllStarts | .suppressConsumed _ _ => []

def withdraws (buffer : AgentStartPendingDeliveryBuffer M) (agentId : JsString) : List M :=
  match op with
  | .cancelStart named => if agentId = named then buffer.values agentId else []
  | .cancelAllStarts => buffer.values agentId
  | .suppressConsumed named predicate =>
      if agentId = named then (buffer.values agentId).filter predicate else []
  | .bufferDuringStart _ _ | .bufferMessagesDuringStart _ _ | .rebindWake _ _ _
  | .drainOnSpawn _ => []

def drains : Option JsString :=
  match op with
  | .drainOnSpawn agentId => some agentId
  | .bufferDuringStart _ _ | .bufferMessagesDuringStart _ _ | .rebindWake _ _ _ | .cancelStart _
  | .cancelAllStarts | .suppressConsumed _ _ => none

def hands (result : Except JsString (List M)) (agentId : JsString) : List M :=
  match result with
  | .ok messages => if op.drains = some agentId then messages else []
  | .error _ => []

/-- The messages of an agent that are deleted and, as the call throws, not returned. -/
def loses (buffer : AgentStartPendingDeliveryBuffer M) (result : Except JsString (List M))
    (agentId : JsString) : List M :=
  match result with
  | .ok _ => []
  | .error _ => if op.drains = some agentId then buffer.values agentId else []

end PendingDeliveryOp

def PendingDeliveryCall.forget {α : Type} (call : PendingDeliveryCall M α) :
    PendingDeliveryCall M (List M) :=
  ⟨call.buffer, call.result.map fun _ => []⟩

def perform (sameWakeMessage : M → M → Bool) (buffer : AgentStartPendingDeliveryBuffer M) :
    PendingDeliveryOp M → PendingDeliveryCall M (List M)
  | .bufferDuringStart agentId message => (buffer.bufferDuringStart agentId message).forget
  | .bufferMessagesDuringStart agentId messages =>
      (buffer.bufferMessagesDuringStart agentId messages).forget
  | .rebindWake agentId previous next =>
      (buffer.rebindWake sameWakeMessage agentId previous next).forget
  | .drainOnSpawn agentId => buffer.drainOnSpawn agentId
  | .cancelStart agentId => (buffer.cancelStart agentId).forget
  | .cancelAllStarts => buffer.cancelAllStarts.forget
  | .suppressConsumed agentId predicate => (buffer.suppressConsumed agentId predicate).forget

/-- The buffer with what became of the messages of each agent. -/
structure PendingDeliveryRun (M : Type) where
  buffer : AgentStartPendingDeliveryBuffer M
  taken : JsString → List M
  /-- Returned by `drainOnSpawn`. -/
  drained : JsString → List M
  withdrawn : JsString → List M
  /-- Deleted by a `drainOnSpawn` that threw. -/
  lost : JsString → List M
  thrown : List JsString

namespace PendingDeliveryRun

open AgentStartPendingDeliveryBuffer

def create : PendingDeliveryRun M :=
  ⟨.create, fun _ => [], fun _ => [], fun _ => [], fun _ => [], []⟩

def step (sameWakeMessage : M → M → Bool) (state : PendingDeliveryRun M)
    (op : PendingDeliveryOp M) : PendingDeliveryRun M :=
  let call := perform sameWakeMessage state.buffer op
  { buffer := call.buffer
    taken := fun agentId => state.taken agentId ++ op.takes sameWakeMessage agentId
    drained := fun agentId => state.drained agentId ++ op.hands call.result agentId
    withdrawn := fun agentId => state.withdrawn agentId ++ op.withdraws state.buffer agentId
    lost := fun agentId => state.lost agentId ++ op.loses state.buffer call.result agentId
    thrown := state.thrown ++
      match call.result with
      | .ok _ => []
      | .error text => [text] }

/-! ## One call -/

variable {buffer : AgentStartPendingDeliveryBuffer M}

theorem filled_append (h : buffer.Filled) (agentId : JsString) (messages : List M)
    (context : JsString) : (buffer.append agentId messages context).buffer.Filled := by
  unfold append
  split
  · exact h
  · rename_i hsome
    exact h.push agentId fun heq => hsome (List.isEmpty_iff.mpr heq)

theorem filled_perform (sameWakeMessage : M → M → Bool) (h : buffer.Filled)
    (op : PendingDeliveryOp M) : (perform sameWakeMessage buffer op).buffer.Filled := by
  cases op with
  | bufferDuringStart agentId message =>
      exact filled_append h agentId [message] (js "bufferDuringStart")
  | bufferMessagesDuringStart agentId messages =>
      exact filled_append h agentId messages (js "bufferMessagesDuringStart")
  | rebindWake agentId previous next => exact filled_append h agentId _ (js "rebindWake")
  | drainOnSpawn agentId => exact h.delete agentId
  | cancelStart agentId => exact h.delete agentId
  | cancelAllStarts => exact filled_create
  | suppressConsumed agentId predicate =>
      unfold perform PendingDeliveryCall.forget suppressConsumed
      dsimp only
      split
      · exact h
      · exact h.retain agentId _

def answerOf (asserts : Bool) (after : AgentStartPendingDeliveryBuffer M) (context : JsString)
    (messages : List M) : Except JsString (List M) :=
  if asserts ∧ after.values (js "") ≠ [] then .error (emptyAgentIdText context) else .ok messages

theorem map_asserted {after : AgentStartPendingDeliveryBuffer M} (h : after.Filled) {α : Type}
    (context : JsString) (value : α) (messages : List M) :
    ((after.asserted context value).result.map fun _ => messages) =
      answerOf true after context messages := by
  rw [h.asserted, answerOf]
  by_cases hnone : after.values (js "") = []
  · rw [if_pos hnone, if_neg fun hboth => hboth.2 hnone]
    rfl
  · rw [if_neg hnone, if_pos ⟨rfl, hnone⟩]
    rfl

theorem result_append (h : buffer.Filled) (agentId : JsString) (messages : List M)
    (context : JsString) :
    (buffer.append agentId messages context).forget.result =
      answerOf (!messages.isEmpty) (buffer.append agentId messages context).buffer context [] := by
  have hfilled := filled_append h agentId messages context
  unfold append at hfilled ⊢
  by_cases hempty : messages.isEmpty
  · rw [if_pos hempty, answerOf, hempty, if_neg fun hboth => Bool.false_ne_true hboth.1]
    rfl
  · rw [if_neg hempty] at hfilled ⊢
    rw [Bool.eq_false_of_not_eq_true hempty]
    exact map_asserted hfilled context _ []

/-- A call throws exactly where it gets to its assertion and leaves messages for the empty id. -/
theorem result_perform (sameWakeMessage : M → M → Bool) (h : buffer.Filled)
    (op : PendingDeliveryOp M) :
    (perform sameWakeMessage buffer op).result =
      answerOf (op.asserts sameWakeMessage buffer) (perform sameWakeMessage buffer op).buffer
        op.context (op.drains.elim [] buffer.values) := by
  have hfilled := filled_perform sameWakeMessage h op
  cases op with
  | bufferDuringStart agentId message => exact result_append h agentId [message] _
  | bufferMessagesDuringStart agentId messages => exact result_append h agentId messages _
  | rebindWake agentId previous next => exact result_append h agentId _ _
  | drainOnSpawn agentId =>
      have hasserted := map_asserted hfilled (js "drainOnSpawn") () (buffer.values agentId)
      rw [hfilled.asserted] at hasserted
      refine (hfilled.asserted _ _).trans (Eq.trans ?_ hasserted)
      split
      · rfl
      · rfl
  | cancelStart agentId => exact map_asserted hfilled _ () []
  | cancelAllStarts => exact map_asserted hfilled _ () []
  | suppressConsumed agentId predicate =>
      unfold perform PendingDeliveryCall.forget suppressConsumed at hfilled ⊢
      dsimp only at hfilled ⊢
      rw [PendingDeliveryOp.asserts]
      by_cases hempty : (buffer.values agentId).isEmpty
      · rw [if_pos hempty, answerOf, hempty, if_neg fun hboth => Bool.false_ne_true hboth.1]
        rfl
      · rw [if_neg hempty] at hfilled ⊢
        rw [Bool.eq_false_of_not_eq_true hempty]
        exact map_asserted hfilled _ _ []

theorem hands_of_not_drains {op : PendingDeliveryOp M} {agentId : JsString}
    (h : op.drains ≠ some agentId) (result : Except JsString (List M)) :
    op.hands result agentId = [] ∧ op.loses buffer result agentId = [] := by
  cases result with
  | ok messages => exact ⟨if_neg h, rfl⟩
  | error text => exact ⟨rfl, if_neg h⟩

theorem moved_append (agentId named : JsString) (messages : List M) (context : JsString) :
    Moved (buffer.values agentId) (if agentId = named then messages else []) []
      ((buffer.append named messages context).buffer.values agentId) [] [] := by
  rw [values_append]
  by_cases hsame : agentId = named
  · rw [if_pos hsame, if_pos hsame, ← hsame]
    exact moved_take _ messages
  · rw [if_neg hsame, if_neg hsame]
    exact moved_kept _

theorem moved_withdraw {pending after withdraws : List M} (hkept : after.Sublist pending)
    (hsplit : pending.Perm (withdraws ++ after)) : Moved pending [] [] after withdraws [] := by
  refine ⟨?_, ?_⟩
  · rw [List.append_nil, List.append_nil, List.nil_append]
    exact hsplit.trans List.perm_append_comm
  · rw [List.append_nil, List.nil_append]
    exact hkept

theorem moved_of_not_drains (sameWakeMessage : M → M → Bool) (op : PendingDeliveryOp M)
    {agentId : JsString} (h : op.drains ≠ some agentId) :
    Moved (buffer.values agentId) (op.takes sameWakeMessage agentId) []
      ((perform sameWakeMessage buffer op).buffer.values agentId)
      (op.withdraws buffer agentId) [] := by
  cases op with
  | bufferDuringStart named message =>
      exact moved_append agentId named [message] (js "bufferDuringStart")
  | bufferMessagesDuringStart named messages =>
      exact moved_append agentId named messages (js "bufferMessagesDuringStart")
  | rebindWake named previous next => exact moved_append agentId named _ (js "rebindWake")
  | drainOnSpawn named =>
      have hother : agentId ≠ named := fun heq => h (congrArg some heq.symm)
      have hkept : (buffer.drainOnSpawn named).buffer.values agentId = buffer.values agentId :=
        (values_delete named agentId).trans (if_neg hother)
      rw [perform, hkept]
      exact moved_kept _
  | cancelStart named =>
      have hafter : (buffer.cancelStart named).buffer.values agentId =
          if agentId = named then [] else buffer.values agentId := values_delete named agentId
      rw [perform, PendingDeliveryCall.forget, hafter, PendingDeliveryOp.withdraws]
      by_cases hsame : agentId = named
      · rw [if_pos hsame, if_pos hsame]
        exact moved_withdraw (List.nil_sublist _) (.of_eq (List.append_nil _).symm)
      · rw [if_neg hsame, if_neg hsame]
        exact moved_kept _
  | cancelAllStarts =>
      exact moved_withdraw (List.nil_sublist _) (.of_eq (List.append_nil _).symm)
  | suppressConsumed named predicate =>
      have hafter := @values_suppressConsumed M buffer named agentId predicate
      rw [perform, PendingDeliveryCall.forget, hafter, PendingDeliveryOp.withdraws]
      by_cases hsame : agentId = named
      · rw [if_pos hsame, if_pos hsame, ← hsame]
        exact moved_withdraw List.filter_sublist (List.filter_append_perm predicate _).symm
      · rw [if_neg hsame, if_neg hsame]
        exact moved_kept _

theorem moved_perform (sameWakeMessage : M → M → Bool) (h : buffer.Filled)
    (op : PendingDeliveryOp M) (agentId : JsString) :
    Moved (buffer.values agentId) (op.takes sameWakeMessage agentId)
      (op.hands (perform sameWakeMessage buffer op).result agentId)
      ((perform sameWakeMessage buffer op).buffer.values agentId) (op.withdraws buffer agentId)
      (op.loses buffer (perform sameWakeMessage buffer op).result agentId) := by
  by_cases hdrains : op.drains = some agentId
  · cases op with
    | drainOnSpawn named =>
        obtain rfl : named = agentId := Option.some.inj hdrains
        have hnone : (buffer.drainOnSpawn named).buffer.values named = [] :=
          (values_delete named named).trans (if_pos rfl)
        rw [result_perform sameWakeMessage h, answerOf]
        split
        · rw [PendingDeliveryOp.hands, PendingDeliveryOp.loses, if_pos hdrains]
          exact ⟨by simp [perform, hnone, PendingDeliveryOp.takes, PendingDeliveryOp.withdraws],
            by simp [perform, hnone]⟩
        · rw [PendingDeliveryOp.hands, PendingDeliveryOp.loses, if_pos hdrains]
          exact ⟨by simp [perform, hnone, PendingDeliveryOp.takes, PendingDeliveryOp.withdraws,
            PendingDeliveryOp.drains], by simp [perform, hnone, PendingDeliveryOp.takes,
            PendingDeliveryOp.drains]⟩
    | bufferDuringStart named message => cases hdrains
    | bufferMessagesDuringStart named messages => cases hdrains
    | rebindWake named previous next => cases hdrains
    | cancelStart named => cases hdrains
    | cancelAllStarts => cases hdrains
    | suppressConsumed named predicate => cases hdrains
  · obtain ⟨hhands, hloses⟩ := @hands_of_not_drains M buffer op agentId hdrains
      (perform sameWakeMessage buffer op).result
    rw [hhands, hloses]
    exact moved_of_not_drains sameWakeMessage op hdrains

/-! ## Every sequence of calls -/

structure Accounted (state : PendingDeliveryRun M) : Prop where
  filled : state.buffer.Filled
  delivered : ∀ agentId, Delivered (state.taken agentId) (state.drained agentId)
    (state.buffer.values agentId) (state.withdrawn agentId) (state.lost agentId)
  /-- Nothing throws and nothing is lost before a message was taken for the empty id. -/
  quiet : state.taken (js "") = [] → state.thrown = [] ∧ ∀ agentId, state.lost agentId = []

theorem accounted_create : Accounted (create : PendingDeliveryRun M) :=
  ⟨filled_create, fun _ => ⟨.refl [], List.Sublist.refl []⟩, fun _ => ⟨rfl, fun _ => rfl⟩⟩

theorem accounted_step (sameWakeMessage : M → M → Bool) (state : PendingDeliveryRun M)
    (op : PendingDeliveryOp M) (h : Accounted state) :
    Accounted (state.step sameWakeMessage op) := by
  have hdelivered := fun agentId =>
    (h.delivered agentId).move (moved_perform sameWakeMessage h.filled op agentId)
  refine ⟨filled_perform sameWakeMessage h.filled op, hdelivered, fun hnone => ?_⟩
  have hempty : (perform sameWakeMessage state.buffer op).buffer.values (js "") = [] := by
    have hsublist := (hdelivered (js "")).inOrder
    have htaken : state.taken (js "") ++ op.takes sameWakeMessage (js "") = [] := hnone
    rw [htaken] at hsublist
    exact (List.append_eq_nil_iff.mp (List.sublist_nil.mp hsublist)).2
  obtain ⟨hthrown, hlost⟩ := h.quiet (List.append_eq_nil_iff.mp hnone).1
  have hresult : (perform sameWakeMessage state.buffer op).result =
      .ok (op.drains.elim [] state.buffer.values) := by
    rw [result_perform sameWakeMessage h.filled, answerOf, if_neg fun hboth => hboth.2 hempty]
  unfold step
  dsimp only
  rw [hresult, hthrown]
  exact ⟨rfl, fun agentId => by rw [hlost]; rfl⟩

/-- Over every sequence of calls each message that was taken for an agent has been returned by one
`drainOnSpawn`, still waits, was cancelled or suppressed, or was deleted by a `drainOnSpawn` that
threw, exactly once, and what is returned keeps its order.  A call throws exactly where it gets to
its assertion and leaves messages for the empty id; before a message is taken for the empty id none
throws and nothing is lost. -/
theorem agentStartPendingDeliveryBuffer_run (sameWakeMessage : M → M → Bool)
    (ops : List (PendingDeliveryOp M)) :
    let state := run (step sameWakeMessage) create ops
    (∀ agentId, Delivered (state.taken agentId) (state.drained agentId)
        (state.buffer.values agentId) (state.withdrawn agentId) (state.lost agentId)) ∧
      (state.taken (js "") = [] → state.thrown = [] ∧ ∀ agentId, state.lost agentId = []) ∧
      ∀ op text, (perform sameWakeMessage state.buffer op).result = .error text ↔
        op.asserts sameWakeMessage state.buffer = true ∧
          (perform sameWakeMessage state.buffer op).buffer.values (js "") ≠ [] ∧
            text = emptyAgentIdText op.context := by
  intro state
  have hstate : Accounted state :=
    run_invariant Accounted ops (accounted_step sameWakeMessage) accounted_create
  refine ⟨hstate.delivered, hstate.quiet, fun op text => ?_⟩
  rw [result_perform sameWakeMessage hstate.filled, answerOf]
  split
  · rename_i hthrows
    constructor
    · exact fun heq => ⟨hthrows.1, hthrows.2, (Except.error.inj heq).symm⟩
    · exact fun hall => congrArg Except.error hall.2.2.symm
  · rename_i hreturns
    constructor
    · exact fun heq => by cases heq
    · exact fun hall => absurd ⟨hall.1, hall.2.1⟩ hreturns

/-- A message for the empty id makes the next spawn lose what it drains. -/
example :
    let ops : List (PendingDeliveryOp Nat) :=
      [.bufferDuringStart (js "a") 1, .bufferDuringStart (js "") 0, .drainOnSpawn (js "a")]
    let state := run (step fun _ _ => false) create ops
    state.lost (js "a") = [1] ∧ state.drained (js "a") = [] ∧
      state.thrown = [emptyAgentIdText (js "bufferDuringStart"),
        emptyAgentIdText (js "drainOnSpawn")] := by
  decide

end PendingDeliveryRun

end Raft.AgentStarts
