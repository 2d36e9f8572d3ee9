import Mathlib.Data.List.Sort
import Raft.Foundation.JsComparison
import Raft.VisibleDelivery.Ledger

/-!
# Planning an agent's side effect

Before a send or a task update leaves the daemon, the planner looks at the
messages of the target that the model may not have seen yet.  It forwards the
side effect or holds it and shows the latest unseen messages; the messages the
ledger is to take as seen are an effect of the plan.
-/

namespace Raft.VisibleDelivery

open Raft.Foundation

structure InboxMessage extends VisibleMessage where
  channelId : Option JsString
  sender_id : Option JsString
  senderId : Option JsString
  sender_type : Option JsString
  senderType : Option JsString
  sender_name : Option JsString
  senderName : Option JsString
  sender_description : Option JsString
  senderDescription : Option JsString
  sender_timezone : Option JsString
  senderTimezone : Option JsString
  content : Option JsString
  timestamp : Option JsString
  createdAt : Option JsString

inductive SideEffectAction where
  | send
  | task_claim
  | task_update
  deriving DecidableEq

inductive FreshnessContextMode where
  | inline
  | withheld
  deriving DecidableEq

structure SideEffectInput where
  agentId : JsString
  action : SideEffectAction
  target : JsString
  continueAnyway : Bool
  freshnessContextMode : Option FreshnessContextMode
  existingSeenUpToSeq : Option JsNumber
  modelSeenSeq : Option JsNumber
  pendingMessages : List InboxMessage
  recentMessages : List InboxMessage
  isMessageModelSeen : JsString → InboxMessage → Bool
  heldContextLimit : Option JsNumber

/-! ## Normalized messages -/

structure TargetFields where
  channel_type : Option JsString
  channel_name : Option JsString
  parent_channel_type : Option JsString
  parent_channel_name : Option JsString

def splitTwo (text : JsString) : JsString × Option JsString :=
  let isColon (unit : CodeUnit) : Bool := [unit] = js ":"
  let head := text.takeWhile fun unit => !isColon unit
  match text.drop head.length with
  | [] => (head, none)
  | _ :: rest => (head, some (rest.takeWhile fun unit => !isColon unit))

def fieldsOf (channelType : String) (rest : JsString) : TargetFields :=
  match splitTwo rest with
  | (channel, some (unit :: threadId)) =>
      ⟨some (js "thread"), some (unit :: threadId), some (js channelType), some channel⟩
  | (channel, _) => ⟨some (js channelType), some channel, none, none⟩

def parseTargetFields (target : JsString) : TargetFields :=
  if js "dm:@" <+: target then fieldsOf "dm" (target.drop 4)
  else if js "#" <+: target then fieldsOf "channel" (target.drop 1)
  else ⟨none, none, none, none⟩

def messageSenderId (message : InboxMessage) : Option JsString :=
  (message.sender_id.filter fun id => id.length > 0).or
    (message.senderId.filter fun id => id.length > 0)

def normalizeInboxVisibleMessage (target : JsString) (message : InboxMessage) : InboxMessage :=
  let fields := parseTargetFields target
  let channelId := message.channel_id.or message.channelId
  { message with
    channel_type := message.channel_type.or fields.channel_type
    channel_name := message.channel_name.or fields.channel_name
    parent_channel_type := message.parent_channel_type.or fields.parent_channel_type
    parent_channel_name := message.parent_channel_name.or fields.parent_channel_name
    message_id := message.message_id.or message.id
    channel_id := if isNonEmpty channelId then channelId else message.channel_id
    timestamp := message.timestamp.or message.createdAt
    sender_type := message.sender_type.or message.senderType
    sender_name := message.sender_name.or message.senderName
    sender_description := message.sender_description.or message.senderDescription
    sender_timezone := message.sender_timezone.or message.senderTimezone
    sender_id := (messageSenderId message).or message.sender_id }

/-! ## Seqs -/

def messageSeq (message : InboxMessage) : JsNumber := message.seq.getD (.ofNat 0)

def sortInboxMessagesBySeq (messages : List InboxMessage) : List InboxMessage :=
  messages.insertionSort fun first second => (messageSeq first).gt (messageSeq second) = false

def positiveSeq (message : InboxMessage) : Option Nat := suppressedSeq message.toVisibleMessage

def maxInboxMessageSeq (messages : List InboxMessage) : Option Nat :=
  let maxSeq := messages.foldl (fun maxSeq message =>
    match positiveSeq message with
    | none => maxSeq
    | some seq => max maxSeq seq) 0
  if maxSeq > 0 then some maxSeq else none

/-- Where `slice` starts for the messages within the limit. -/
def heldStart (length : Nat) : JsNumber → Nat
  | .finite limit => ⌊max 0 ((length : ℚ) - limit)⌋.toNat
  | .negativeZero | .infinity true => length
  | .nan | .infinity false => 0

def latestVisibleMessages (messages : List InboxMessage) (limit : JsNumber) : List InboxMessage :=
  let sorted := sortInboxMessagesBySeq messages
  sorted.drop (heldStart sorted.length limit)

namespace SideEffectInput

variable (input : SideEffectInput)

def knownBoundary : JsNumber :=
  (input.existingSeenUpToSeq.getD (.ofNat 0)).max (input.modelSeenSeq.getD (.ofNat 0))

def maxKnownContiguousBoundary : Option JsNumber :=
  if input.knownBoundary.gt (.ofNat 0) then some input.knownBoundary else none

def modelSeen (message : InboxMessage) : Bool :=
  messageSenderId message = some input.agentId ||
    (positiveSeq message).any (fun seq => input.modelSeenSeq.any (JsNumber.ofNat seq).le) ||
    input.isMessageModelSeen input.target message

def exactSeenConsumeMessage (message : InboxMessage) : InboxMessage :=
  if (positiveSeq message).any fun seq =>
      input.maxKnownContiguousBoundary.any (JsNumber.ofNat seq).le then
    message
  else if isNonEmpty message.message_id || isNonEmpty message.id then
    { message with seq := none }
  else message

def limit : JsNumber := input.heldContextLimit.getD (.ofNat 3)

end SideEffectInput

/-! ## Plans -/

inductive FreshnessVerdict where
  | local_hold
  | syncing_hold
  | forward
  | bypass
  deriving DecidableEq

structure FreshnessDecision where
  action : SideEffectAction
  decision : FreshnessVerdict
  freshnessContextMode : Option FreshnessContextMode := none
  producerFactId : Option JsString := none
  target : JsString
  trusted : Bool
  reason : JsString
  pendingCount : Option Nat := none
  pendingMaxSeq : Option Nat := none
  modelSeenSeq : Option JsNumber := none
  heldMessageCount : Option Nat := none
  omittedMessageCount : Option Nat := none

structure ConsumeEffect where
  target : JsString
  messages : List InboxMessage
  boundarySeq : Option Nat
  source : JsString

inductive InboxEffect where
  | record_freshness_decision (decision : FreshnessDecision)
  | consume_visible_messages (consume : ConsumeEffect)

structure HeldEnvelope where
  decision : FreshnessVerdict
  producerFactId : JsString
  heldMessages : List InboxMessage
  newMessageCount : Nat
  omittedMessageCount : Nat
  seenUpToSeq : Nat

inductive HeldResponse where
  | withheld (withheldMessageCount : Nat)
  | held (envelope : HeldEnvelope)

structure SideEffectPlan where
  held : Bool
  target : JsString
  effects : List InboxEffect
  forwardSeenUpToSeq : Option JsNumber := none
  localResponse : Option HeldResponse := none

def preflightEffect (input : SideEffectInput) (messages : List InboxMessage)
    (boundarySeq : Option Nat) : ConsumeEffect :=
  ⟨input.target, messages, boundarySeq, js "side_effect_preflight_context"⟩

def forwardPlan (input : SideEffectInput) (decision : FreshnessDecision)
    (forwardSeenUpToSeq : Option JsNumber) (consumeEffect : Option ConsumeEffect) :
    SideEffectPlan where
  held := false
  target := input.target
  effects := (consumeEffect.map InboxEffect.consume_visible_messages).toList ++
    [.record_freshness_decision decision]
  forwardSeenUpToSeq

def forwardWithoutDecision (input : SideEffectInput) : SideEffectPlan where
  held := false
  target := input.target
  effects := []

structure HeldContext where
  heldMessages : List InboxMessage
  newMessageCount : Nat
  omittedMessageCount : Nat
  seenUpToSeq : Nat

/-- The fact id is a digest of the agent and the decision. -/
def heldPlan (producerFactId : JsString → FreshnessDecision → JsString) (input : SideEffectInput)
    (decision : FreshnessDecision) (context : HeldContext) (consumeMessages : List InboxMessage)
    (consumeBoundarySeq : Nat) : SideEffectPlan :=
  let withholdContext := input.freshnessContextMode = some .withheld
  let decisionInput :=
    if withholdContext then { decision with freshnessContextMode := some .withheld } else decision
  let factId := producerFactId input.agentId decisionInput
  let recorded := InboxEffect.record_freshness_decision
    { decisionInput with producerFactId := some factId }
  { held := true
    target := input.target
    effects :=
      if withholdContext then [recorded]
      else [.consume_visible_messages
        (preflightEffect input consumeMessages (some consumeBoundarySeq)), recorded]
    localResponse := some (
      if withholdContext then .withheld context.newMessageCount
      else .held
        { decision := decision.decision
          producerFactId := factId
          heldMessages := context.heldMessages
          newMessageCount := context.newMessageCount
          omittedMessageCount := context.omittedMessageCount
          seenUpToSeq := context.seenUpToSeq }) }

variable (producerFactId : JsString → FreshnessDecision → JsString) (input : SideEffectInput)

def planPending : SideEffectPlan :=
  let pending := sortInboxMessagesBySeq
    (input.pendingMessages.map (normalizeInboxVisibleMessage input.target))
  match maxInboxMessageSeq pending with
  | none => forwardWithoutDecision input
  | some boundary =>
      let alreadySeenPending := pending.filter input.modelSeen
      let unconsumedMessages := pending.filter fun message => !input.modelSeen message
      if unconsumedMessages.length = 0 then
        let contiguousBoundary := input.maxKnownContiguousBoundary
        let canAdvanceBoundary := contiguousBoundary.any (JsNumber.ofNat boundary).le
        forwardPlan input
          { action := input.action
            decision := .forward
            target := input.target
            trusted := true
            reason := js "exact_target_pending_already_seen"
            pendingCount := some pending.length
            pendingMaxSeq := some boundary
            modelSeenSeq := contiguousBoundary
            heldMessageCount := some 0
            omittedMessageCount := some 0 }
          (if input.action = .send ∧ canAdvanceBoundary then some (.ofNat boundary) else none)
          (some (preflightEffect input (pending.map input.exactSeenConsumeMessage)
            (if canAdvanceBoundary then some boundary else none)))
      else
        match maxInboxMessageSeq unconsumedMessages with
        | none => forwardWithoutDecision input
        | some heldBoundary =>
            let heldMessages := latestVisibleMessages unconsumedMessages input.limit
            let omittedMessageCount := unconsumedMessages.length - heldMessages.length
            heldPlan producerFactId input
              { action := input.action
                decision := .local_hold
                target := input.target
                trusted := true
                reason := js "exact_target_pending"
                pendingCount := some input.pendingMessages.length
                pendingMaxSeq := some heldBoundary
                modelSeenSeq := input.modelSeenSeq
                heldMessageCount := some heldMessages.length
                omittedMessageCount := some omittedMessageCount }
              ⟨heldMessages, unconsumedMessages.length, omittedMessageCount, heldBoundary⟩
              (sortInboxMessagesBySeq
                (alreadySeenPending.map input.exactSeenConsumeMessage ++ heldMessages))
              heldBoundary

def firstTouchDecision (reason : String) : FreshnessDecision where
  action := input.action
  decision := .forward
  target := input.target
  trusted := false
  reason := js reason
  pendingCount := some 0
  modelSeenSeq := some (.ofNat 0)

def planFirstTouchRecentContext : SideEffectPlan :=
  let recent := sortInboxMessagesBySeq
    (input.recentMessages.map (normalizeInboxVisibleMessage input.target))
  let unconsumedMessages := recent.filter fun message => !input.modelSeen message
  match maxInboxMessageSeq recent with
  | none =>
      forwardPlan input
        (firstTouchDecision input "target_first_touch_recent_context_without_seq_boundary")
          none none
  | some boundary =>
      if unconsumedMessages.length = 0 then
        forwardPlan input
          { firstTouchDecision input "target_first_touch_recent_context_already_seen" with
            pendingMaxSeq := some boundary
            modelSeenSeq := some (.ofNat boundary)
            heldMessageCount := some 0
            omittedMessageCount := some 0 }
          (if input.action = .send then some (.ofNat boundary) else none)
          (some (preflightEffect input recent (some boundary)))
      else
        match maxInboxMessageSeq unconsumedMessages with
        | none =>
            forwardPlan input
              (firstTouchDecision input "target_first_touch_unseen_context_without_seq_boundary")
              none none
        | some heldBoundary =>
            let heldMessages := latestVisibleMessages unconsumedMessages input.limit
            let omittedMessageCount := unconsumedMessages.length - heldMessages.length
            heldPlan producerFactId input
              { firstTouchDecision input "target_first_touch_recent_context" with
                decision := .syncing_hold
                pendingMaxSeq := some heldBoundary
                heldMessageCount := some heldMessages.length
                omittedMessageCount := some omittedMessageCount }
              ⟨heldMessages, unconsumedMessages.length, omittedMessageCount, boundary⟩
              recent boundary

def planAgentInboxSideEffect : SideEffectPlan :=
  if input.continueAnyway then
    forwardPlan input
      { action := input.action
        decision := .bypass
        target := input.target
        trusted := true
        reason := js "continue_anyway" } none none
  else if input.pendingMessages.length > 0 then planPending producerFactId input
  else if input.knownBoundary.gt (.ofNat 0) then
    forwardPlan input
      { action := input.action
        decision := .forward
        target := input.target
        trusted := true
        reason := js "model_seen_boundary"
        pendingCount := some 0
        modelSeenSeq := some input.knownBoundary }
      (if input.action = .send then some input.knownBoundary else none) none
  else if input.recentMessages.length > 0 then planFirstTouchRecentContext producerFactId input
  else
    forwardPlan input
      { action := input.action
        decision := .forward
        target := input.target
        trusted := true
        reason := js "no_exact_target_pending_or_recent_context"
        pendingCount := some 0
        modelSeenSeq := some (.ofNat 0) } none none

/-! ## Applying a plan -/

namespace SideEffectPlan

def consumed (plan : SideEffectPlan) : List ConsumeEffect :=
  plan.effects.filterMap fun effect => match effect with
    | .consume_visible_messages consume => some consume
    | .record_freshness_decision _ => none

def shown (plan : SideEffectPlan) : List InboxMessage :=
  match plan.localResponse with
  | some (.held envelope) => envelope.heldMessages
  | some (.withheld _) | none => []

end SideEffectPlan

def ConsumeEffect.consumeInput (consume : ConsumeEffect) : ConsumeInput where
  historyScope := none
  target := some consume.target
  messages := consume.messages.map InboxMessage.toVisibleMessage
  boundarySeq := consume.boundarySeq.map JsNumber.ofNat
  source := consume.source

end Raft.VisibleDelivery
