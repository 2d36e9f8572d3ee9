import Mathlib.Algebra.Order.Floor.Ring
import Mathlib.Data.Finset.Sort
import Mathlib.Data.Rat.Floor
import Raft.Foundation.Grouping
import Raft.VisibleDelivery.Targets

/-!
# The visible-delivery ledger

What each agent's model has seen, target by target: a high-water boundary, a set
of message ids and a set of exact seqs.  `recordConsumed` sorts the messages it
is given into buckets, writes each bucket and checks its own invariants after
each; it answers with a matcher for the messages that are still pending.
-/

namespace Raft.VisibleDelivery

open Raft.Foundation

structure VisibleBucket where
  maxSeq : Nat
  boundarySeq : Nat
  seqs : Finset Nat
  ids : Finset JsString

structure HistoryScope where
  agent_id : JsString
  channel_id : JsString
  channel_type : JsString
  target : JsString
  deriving DecidableEq

structure ConsumeInput where
  historyScope : Option HistoryScope
  target : Option JsString
  messages : List VisibleMessage
  boundarySeq : Option JsNumber
  source : JsString

def canAdvanceBoundaryForTarget (source target : JsString) : Bool :=
  if source = js "verified_contiguous_content_consumption" then true
  else if source = js "thread_join_context_rendered" then decide (js ":" <:+: target)
  else false

@[irreducible] def MAX_EXACT_SEEN_SEQS_PER_TARGET : Nat := 2500

def flooredSeq (seq : Option JsNumber) : Option Nat :=
  (seq.bind JsNumber.positiveFinite).map fun value => ⌊value.val⌋.toNat

/-! ## Buckets -/

namespace ConsumeInput

variable (rules : TextRules) (input : ConsumeInput)

def givenTarget : Option JsString := input.target.filter fun target => !target.isEmpty

def explicitTarget : Option JsString := input.givenTarget.map canonicalVisibleTarget

def explicitEventId : Option JsString := input.givenTarget.bind eventIdFromTarget

/-- The scope, where it parses and answers for this agent's own request. -/
def scopeFor (agentId : JsString) : Option HistoryScope :=
  input.historyScope.filter fun scope =>
    input.source = js "agent_api_history" && rules.isUuid scope.agent_id &&
      rules.isUuid scope.channel_id &&
      (scope.channel_type = js "dm" || scope.channel_type = js "thread") &&
      !scope.target.isEmpty && scope.agent_id = agentId && some scope.target = input.target

def legacyDmIds (agentId : JsString) : List JsString :=
  match input.scopeFor rules agentId with
  | none => []
  | some scope =>
      (input.messages.filter fun message =>
        message.channel_id = some scope.channel_id && !(visibleMessageId message).isEmpty).map
        visibleMessageId

def mismatches (message : VisibleMessage) : Bool :=
  let fullEventMismatch := input.explicitEventId.any fun eventId =>
    eventId.length = 36 && message.third_party_event.map rules.toLowerCase ≠ some eventId
  input.givenTarget.isSome && hasTargetMetadata message &&
    (some (formatVisibleTarget rules message) ≠ input.explicitTarget || fullEventMismatch)

def keyOf (message : VisibleMessage) : JsString :=
  input.explicitTarget.getD (formatVisibleTarget rules message)

end ConsumeInput

namespace VisibleBucket

def empty : VisibleBucket := ⟨0, 0, ∅, ∅⟩

def add (bucket : VisibleBucket) (message : VisibleMessage) : VisibleBucket :=
  let bucket := match flooredSeq message.seq with
    | none => bucket
    | some seq => { bucket with maxSeq := max bucket.maxSeq seq, seqs := insert seq bucket.seqs }
  let id := visibleMessageId message
  if id.length > 0 then { bucket with ids := insert id bucket.ids } else bucket

def raise (bucket : VisibleBucket) (boundarySeq : Nat) : VisibleBucket :=
  { bucket with boundarySeq := max bucket.boundarySeq boundarySeq }

def highWaterSeq (bucket : VisibleBucket) : Nat := max bucket.maxSeq bucket.boundarySeq

end VisibleBucket

/-- The buckets of a call none of whose messages mismatches. -/
def ConsumeInput.buckets (rules : TextRules) (input : ConsumeInput) :
    InsertionMap JsString VisibleBucket :=
  let byTarget := groupFold (input.keyOf rules)
    (fun bucket message => (bucket.getD .empty).add message) .empty input.messages
  match input.explicitTarget, flooredSeq input.boundarySeq with
  | some target, some seq => byTarget.set target (((byTarget.get target).getD .empty).raise seq)
  | _, _ => byTarget

structure Consumption where
  buckets : InsertionMap JsString VisibleBucket
  messagesCount : Nat
  source : JsString
  historyScope : Option HistoryScope
  legacyDmIds : List JsString

def ConsumeInput.consumption (rules : TextRules) (input : ConsumeInput) (agentId : JsString) :
    Consumption where
  buckets := input.buckets rules
  messagesCount := input.messages.length
  source := input.source
  historyScope := input.scopeFor rules agentId
  legacyDmIds := input.legacyDmIds rules agentId

/-! ## The ledger -/

structure VisibleLedger where
  boundaries : NestedMap JsString JsString Nat
  messageIds : NestedMap JsString JsString (Finset JsString)
  exactSeqs : NestedMap JsString JsString (Finset Nat)

inductive ConsumeOutcome where
  | targetMismatch
  | invariantViolation
  | nothing
  | consumed (consumption : Consumption)

namespace VisibleLedger

def empty : VisibleLedger := ⟨.empty, .empty, .empty⟩

variable (rules : TextRules) (ledger : VisibleLedger) (agentId : JsString)

def clearAgent : VisibleLedger where
  boundaries := InsertionMap.delete ledger.boundaries agentId
  messageIds := InsertionMap.delete ledger.messageIds agentId
  exactSeqs := InsertionMap.delete ledger.exactSeqs agentId

def hasAgentState : Bool :=
  (ledger.boundaries.get agentId).isSome || (ledger.messageIds.get agentId).isSome

def getBoundary (target : JsString) : Option Nat :=
  ledger.boundaries.find agentId (canonicalVisibleTarget target)

def getMessageIdSet (target : JsString) : Option (Finset JsString) :=
  ledger.messageIds.find agentId (canonicalVisibleTarget target)

def getExactSeenSeqs (target : JsString) : List Nat :=
  ((ledger.exactSeqs.find agentId (canonicalVisibleTarget target)).getD ∅).sort (· ≤ ·)

def isModelSeen (target : JsString) (message : VisibleMessage) : Bool :=
  let id := visibleMessageId message
  (flooredSeq message.seq).any (fun seq => (ledger.getBoundary agentId target).any (seq ≤ ·)) ||
    (id.length > 0 && (ledger.getMessageIdSet agentId target).any (id ∈ ·))

/-! ### Writing a bucket -/

def raiseBoundary (source target : JsString) (bucket : VisibleBucket) : VisibleLedger :=
  if canAdvanceBoundaryForTarget source target then
    { ledger with
      boundaries := ledger.boundaries.put agentId target
        (max ((ledger.getBoundary agentId target).getD 0) bucket.highWaterSeq) }
  else ledger

def addMessageIds (target : JsString) (ids : Finset JsString) : VisibleLedger :=
  if ids.card > 0 then
    { ledger with
      messageIds := ledger.messageIds.put agentId target
        ((ledger.messageIds.find agentId target).getD ∅ ∪ ids) }
  else ledger

def recordExactSeqs (target : JsString) (seqs : Finset Nat) : VisibleLedger :=
  if seqs.card > 0 then
    let targetSeqs := (ledger.exactSeqs.find agentId target).getD ∅ ∪ seqs
    let kept :=
      if targetSeqs.card > MAX_EXACT_SEEN_SEQS_PER_TARGET then
        ((targetSeqs.sort (· ≤ ·)).drop
          (targetSeqs.card - MAX_EXACT_SEEN_SEQS_PER_TARGET)).toFinset
      else targetSeqs
    { ledger with exactSeqs := ledger.exactSeqs.put agentId target kept }
  else ledger

def consumeBucket (source target : JsString) (bucket : VisibleBucket) : VisibleLedger :=
  ((ledger.raiseBoundary agentId source target bucket).addMessageIds agentId target
    bucket.ids).recordExactSeqs agentId target bucket.seqs

/-- Whether the checks pass, given the boundary before the bucket was written. -/
def assertConsumedInvariants (target : JsString) (bucket : VisibleBucket) (advancesBoundary : Bool)
    (previousBoundary : Option Nat) : Bool :=
  let boundary := ledger.getBoundary agentId target
  (advancesBoundary || boundary = previousBoundary) &&
    (!advancesBoundary || (previousBoundary.getD 0 ≤ boundary.getD 0 &&
      (bucket.highWaterSeq = 0 || bucket.highWaterSeq ≤ boundary.getD 0))) &&
    decide (bucket.ids ⊆ (ledger.getMessageIdSet agentId target).getD ∅)

/-- The ledger after the last bucket written, and whether every check passed. -/
def consumeBuckets (ledger : VisibleLedger) (agentId source : JsString) :
    List (JsString × VisibleBucket) → VisibleLedger × Bool
  | [] => (ledger, true)
  | (target, bucket) :: rest =>
      let next := ledger.consumeBucket agentId source target bucket
      if next.assertConsumedInvariants agentId target bucket
          (canAdvanceBoundaryForTarget source target) (ledger.getBoundary agentId target) then
        next.consumeBuckets agentId source rest
      else (next, false)

def recordConsumed (input : ConsumeInput) : VisibleLedger × ConsumeOutcome :=
  if input.messages.length = 0 ∧ (input.givenTarget = none ∨ input.boundarySeq = none) then
    (ledger, .nothing)
  else if input.messages.any (input.mismatches rules) then (ledger, .targetMismatch)
  else
    let buckets := input.buckets rules
    if buckets.entries.length = 0 then (ledger, .nothing)
    else
      match ledger.consumeBuckets agentId input.source buckets.entries with
      | (ledger, false) => (ledger, .invariantViolation)
      | (ledger, true) =>
          (ledger, .consumed (input.consumption rules agentId))

end VisibleLedger

/-! ## Suppression -/

def suppressedSeq (message : VisibleMessage) : Option Nat :=
  (flooredSeq message.seq).filter (0 < ·)

def Consumption.shouldSuppress (rules : TextRules) (consumption : Consumption)
    (message : VisibleMessage) : Bool :=
  let target := formatVisibleTarget rules message
  let id := visibleMessageId message
  match consumption.historyScope with
  | some scope =>
      message.third_party_event = none && message.channel_id = some scope.channel_id &&
        message.channel_type = some scope.channel_type &&
        (message.channel_type = some (js "dm") ||
          message.parent_channel_type = some (js "dm")) &&
        decide (id ∈ consumption.legacyDmIds)
  | none =>
      match consumption.buckets.get target with
      | none => false
      | some bucket =>
          (suppressedSeq message).any (fun seq =>
            (canAdvanceBoundaryForTarget consumption.source target &&
                bucket.boundarySeq > 0 && seq ≤ bucket.boundarySeq) ||
              decide (seq ∈ bucket.seqs)) ||
            (id.length > 0 && decide (id ∈ bucket.ids))

def ConsumeOutcome.shouldSuppress (rules : TextRules) (outcome : ConsumeOutcome)
    (message : VisibleMessage) : Bool :=
  match outcome with
  | .consumed consumption => consumption.shouldSuppress rules message
  | .targetMismatch | .invariantViolation | .nothing => false

/-! ## Runs -/

inductive LedgerCall where
  | recordConsumed (agentId : JsString) (input : ConsumeInput)
  | clearAgent (agentId : JsString)

def ledgerStep (rules : TextRules) (ledger : VisibleLedger) : LedgerCall → VisibleLedger
  | .recordConsumed agentId input => (ledger.recordConsumed rules agentId input).1
  | .clearAgent agentId => ledger.clearAgent agentId

end Raft.VisibleDelivery
