import Raft.VisibleDelivery.Invariants
import Raft.VisibleDelivery.SideEffect

/-!
# What a freshness hold lets the ledger take as seen

The planner sorts the messages of its context into seen and unseen ones, and a
hold shows the latest of the unseen.  The pending path hands over what was seen
and what is shown; the first-touch path hands over its whole context.
-/

namespace Raft.VisibleDelivery

open Raft.Foundation

variable {rules : TextRules} {producerFactId : JsString → FreshnessDecision → JsString}

namespace SideEffectInput

variable (input : SideEffectInput)

def firstTouch : Bool :=
  input.pendingMessages.length = 0 && !input.knownBoundary.gt (.ofNat 0)

def context : List InboxMessage :=
  sortInboxMessagesBySeq
    ((if input.pendingMessages.length > 0 then input.pendingMessages
      else input.recentMessages).map (normalizeInboxVisibleMessage input.target))

def unseen : List InboxMessage := input.context.filter fun message => !input.modelSeen message

def shownStart : Nat :=
  heldStart (sortInboxMessagesBySeq input.unseen).length input.limit

def shown : List InboxMessage := (sortInboxMessagesBySeq input.unseen).drop input.shownStart

def omitted : List InboxMessage := (sortInboxMessagesBySeq input.unseen).take input.shownStart

/-- What a hold of the pending path hands over. -/
def seenAndShown : List InboxMessage :=
  sortInboxMessagesBySeq
    ((input.context.filter input.modelSeen).map input.exactSeenConsumeMessage ++ input.shown)

def handed : List InboxMessage :=
  if input.pendingMessages.length > 0 then input.seenAndShown else input.context

/-- There is a context to look at, unless a known boundary settles the matter. -/
def looksAtContext : Bool := input.pendingMessages.length > 0 || input.firstTouch

def holds : Bool := input.looksAtContext && (maxInboxMessageSeq input.unseen).isSome

/-- The context has a seq and nothing in it is unseen: it is confirmed as seen. -/
def confirms : Bool :=
  input.looksAtContext && (maxInboxMessageSeq input.context).isSome && input.unseen.length = 0

def confirmed : List InboxMessage :=
  if input.pendingMessages.length > 0 then input.context.map input.exactSeenConsumeMessage
  else input.context

end SideEffectInput

/-! ## The plans -/

variable {input : SideEffectInput}

theorem maxInboxMessageSeq_isSome {messages : List InboxMessage} :
    (maxInboxMessageSeq messages).isSome = true ↔
      ∃ message ∈ messages, (positiveSeq message).isSome = true := by
  have hfold : ∀ step : Nat → InboxMessage → Nat,
      (∀ maxSeq message, step maxSeq message = (positiveSeq message).elim maxSeq (max maxSeq)) →
      ∀ (messages : List InboxMessage) (start : Nat), 0 < messages.foldl step start ↔
        0 < start ∨ ∃ message ∈ messages, (positiveSeq message).isSome = true := by
    intro step hstep messages
    induction messages with
    | nil => simp
    | cons message messages ih =>
        intro start
        rw [List.foldl_cons, ih, hstep]
        cases hseq : positiveSeq message with
        | none => simp [hseq]
        | some seq =>
            have hpos : 0 < seq := by
              rw [positiveSeq, suppressedSeq, Option.filter_eq_some_iff] at hseq
              simpa using hseq.2
            simp [hseq, hpos]
  rw [maxInboxMessageSeq]
  split
  · next hpos =>
      have hsome :=
        (hfold _ (fun _ message => by cases positiveSeq message <;> rfl) messages 0).mp hpos
      exact iff_of_true rfl (hsome.resolve_left (lt_irrefl 0))
  · next hzero =>
      refine iff_of_false (by simp) fun hsome => hzero ?_
      exact (hfold _ (fun _ message => by cases positiveSeq message <;> rfl) messages 0).mpr
        (.inr hsome)

theorem maxInboxMessageSeq_context (h : (maxInboxMessageSeq input.unseen).isSome = true) :
    (maxInboxMessageSeq input.context).isSome = true := by
  obtain ⟨message, hmem, hseq⟩ := maxInboxMessageSeq_isSome.mp h
  exact maxInboxMessageSeq_isSome.mpr ⟨message, (List.mem_filter.mp hmem).1, hseq⟩

@[simp] theorem consumed_forwardPlan (decision : FreshnessDecision)
    (forwardSeenUpToSeq : Option JsNumber) (consumeEffect : Option ConsumeEffect) :
    (forwardPlan input decision forwardSeenUpToSeq consumeEffect).consumed =
      consumeEffect.toList := by
  cases consumeEffect <;> rfl

theorem consumed_heldPlan (decision : FreshnessDecision) (context : HeldContext)
    (consumeMessages : List InboxMessage) (consumeBoundarySeq : Nat) :
    (heldPlan producerFactId input decision context consumeMessages consumeBoundarySeq).consumed =
      if input.freshnessContextMode = some .withheld then []
      else [preflightEffect input consumeMessages (some consumeBoundarySeq)] := by
  by_cases hmode : input.freshnessContextMode = some .withheld <;>
    simp [heldPlan, SideEffectPlan.consumed, hmode]

theorem shown_heldPlan (decision : FreshnessDecision) (context : HeldContext)
    (consumeMessages : List InboxMessage) (consumeBoundarySeq : Nat)
    (hmode : input.freshnessContextMode ≠ some .withheld) :
    (heldPlan producerFactId input decision context consumeMessages consumeBoundarySeq).shown =
      context.heldMessages := by
  simp [heldPlan, SideEffectPlan.shown, hmode]

/-- Without a bypass, a plan consumes nothing, confirms its context or holds it inline. -/
inductive Planned (input : SideEffectInput) (plan : SideEffectPlan) : Prop
  | idle (hconsumed : plan.consumed = []) (hconfirms : input.confirms = false)
      (hholds : input.holds = false ∨ input.freshnessContextMode = some .withheld)
  | confirms (hconfirms : input.confirms = true) (boundarySeq : Option Nat)
      (hconsumed : plan.consumed = [preflightEffect input input.confirmed boundarySeq])
  | holds (hholds : input.holds = true) (hmode : input.freshnessContextMode ≠ some .withheld)
      (boundarySeq : Option Nat)
      (hconsumed : plan.consumed = [preflightEffect input input.handed boundarySeq])
      (hshown : plan.shown = input.shown)

theorem holds_eq_false (h : maxInboxMessageSeq input.unseen = none) : input.holds = false := by
  simp [SideEffectInput.holds, h]

theorem unseen_eq_none (h : maxInboxMessageSeq input.context = none) :
    maxInboxMessageSeq input.unseen = none := by
  by_contra hsome
  have hcontext := maxInboxMessageSeq_context (Option.isSome_iff_ne_none.mpr hsome)
  rw [h] at hcontext
  cases hcontext

theorem planned_heldPlan (decision : FreshnessDecision) (context : HeldContext)
    (consumeMessages : List InboxMessage) (consumeBoundarySeq : Nat)
    (hlooks : input.looksAtContext = true) (hsome : ¬ input.unseen.length = 0) {heldBoundary : Nat}
    (hheld : maxInboxMessageSeq input.unseen = some heldBoundary)
    (hconsumes : consumeMessages = input.handed) (hshown : context.heldMessages = input.shown) :
    Planned input
      (heldPlan producerFactId input decision context consumeMessages consumeBoundarySeq) := by
  by_cases hmode : input.freshnessContextMode = some .withheld
  · exact .idle (by rw [consumed_heldPlan, if_pos hmode])
      (by simp [SideEffectInput.confirms, hsome]) (.inr hmode)
  · refine .holds (by simp [SideEffectInput.holds, hlooks, hheld]) hmode (some consumeBoundarySeq)
      ?_ ?_
    · rw [consumed_heldPlan, if_neg hmode, hconsumes]
    · rw [shown_heldPlan _ _ _ _ hmode, hshown]

theorem planned_pending (hpending : input.pendingMessages.length > 0) :
    Planned input (planPending producerFactId input) := by
  have hcontext : sortInboxMessagesBySeq (input.pendingMessages.map
      (normalizeInboxVisibleMessage input.target)) = input.context := by
    rw [SideEffectInput.context, if_pos hpending]
  have hlooks : input.looksAtContext = true := by simp [SideEffectInput.looksAtContext, hpending]
  rw [planPending, hcontext]
  cases hboundary : maxInboxMessageSeq input.context with
  | none =>
      exact .idle rfl (by simp [SideEffectInput.confirms, hboundary])
        (.inl (holds_eq_false (unseen_eq_none hboundary)))
  | some boundary =>
      change Planned input (if input.unseen.length = 0 then _ else _)
      split
      · next hnone =>
          exact .confirms (by simp [SideEffectInput.confirms, hlooks, hboundary, hnone])
            (if input.maxKnownContiguousBoundary.any (JsNumber.ofNat boundary).le then some boundary
              else none)
            (by rw [consumed_forwardPlan, SideEffectInput.confirmed, if_pos hpending]; rfl)
      · next hsome =>
          split
          · next hheld =>
              exact .idle rfl (by simp [SideEffectInput.confirms, hsome])
                (.inl (holds_eq_false hheld))
          · next heldBoundary hheld =>
              exact planned_heldPlan _ _ _ _ hlooks hsome hheld
                (by rw [SideEffectInput.handed, if_pos hpending]; rfl) rfl

theorem planned_firstTouch (hpending : ¬ input.pendingMessages.length > 0)
    (hboundary : input.knownBoundary.gt (.ofNat 0) = false) :
    Planned input (planFirstTouchRecentContext producerFactId input) := by
  have hcontext : sortInboxMessagesBySeq (input.recentMessages.map
      (normalizeInboxVisibleMessage input.target)) = input.context := by
    rw [SideEffectInput.context, if_neg hpending]
  have hlooks : input.looksAtContext = true := by
    have hnone : input.pendingMessages.length = 0 := by omega
    simp [SideEffectInput.looksAtContext, SideEffectInput.firstTouch, hnone, hboundary]
  rw [planFirstTouchRecentContext, hcontext]
  cases hrecent : maxInboxMessageSeq input.context with
  | none =>
      exact .idle rfl (by simp [SideEffectInput.confirms, hrecent])
        (.inl (holds_eq_false (unseen_eq_none hrecent)))
  | some boundary =>
      change Planned input (if input.unseen.length = 0 then _ else _)
      split
      · next hnone =>
          exact .confirms (by simp [SideEffectInput.confirms, hlooks, hrecent, hnone])
            (some boundary)
            (by rw [consumed_forwardPlan, SideEffectInput.confirmed, if_neg hpending]; rfl)
      · next hsome =>
          split
          · next hheld =>
              exact .idle rfl (by simp [SideEffectInput.confirms, hsome])
                (.inl (holds_eq_false hheld))
          · next heldBoundary hheld =>
              exact planned_heldPlan _ _ _ _ hlooks hsome hheld
                (by rw [SideEffectInput.handed, if_neg hpending]) rfl

theorem planned (producerFactId : JsString → FreshnessDecision → JsString)
    (hcontinue : input.continueAnyway = false) :
    Planned input (planAgentInboxSideEffect producerFactId input) := by
  rw [planAgentInboxSideEffect, if_neg (by simp [hcontinue])]
  split
  · next hpending => exact planned_pending hpending
  · next hpending =>
      split
      · next hknown =>
          have hlooks : input.looksAtContext = false := by
            simp [SideEffectInput.looksAtContext, SideEffectInput.firstTouch, hknown] at hpending ⊢
            exact hpending
          exact .idle rfl (by simp [SideEffectInput.confirms, hlooks])
            (.inl (by simp [SideEffectInput.holds, hlooks]))
      · next hknown =>
          split
          · exact planned_firstTouch hpending (by simpa using hknown)
          · next hrecent =>
              have hnone : maxInboxMessageSeq input.context = none := by
                rw [SideEffectInput.context, if_neg hpending,
                  List.length_eq_zero_iff.mp (Nat.eq_zero_of_not_pos hrecent)]
                simp [sortInboxMessagesBySeq, maxInboxMessageSeq]
              exact .idle rfl (by simp [SideEffectInput.confirms, hnone])
                (.inl (holds_eq_false (unseen_eq_none hnone)))

/-! ## What a consumption of the preflight records -/

section Preflight

variable {ledger : VisibleLedger} {agentId target : JsString} {messages : List InboxMessage}
  {boundarySeq : Option Nat}

def preflightInput (target : JsString) (messages : List InboxMessage) (boundarySeq : Option Nat) :
    ConsumeInput :=
  (ConsumeEffect.mk target messages boundarySeq (js "side_effect_preflight_context")).consumeInput

def SharesId (message consumed : VisibleMessage) : Prop :=
  visibleMessageId message ≠ [] ∧ visibleMessageId consumed = visibleMessageId message

def SharesSeq (message consumed : VisibleMessage) : Prop :=
  (suppressedSeq message).isSome = true ∧ flooredSeq consumed.seq = suppressedSeq message

instance (message consumed : VisibleMessage) : Decidable (SharesId message consumed) :=
  inferInstanceAs (Decidable (_ ∧ _))

instance (message consumed : VisibleMessage) : Decidable (SharesSeq message consumed) :=
  inferInstanceAs (Decidable (_ ∧ _))

theorem explicitTarget_preflightInput (htarget : target ≠ []) :
    (preflightInput target messages boundarySeq).explicitTarget =
      some (canonicalVisibleTarget target) := by
  simp [preflightInput, ConsumeEffect.consumeInput, ConsumeInput.explicitTarget,
    ConsumeInput.givenTarget, Option.filter, htarget]

theorem canonical_preflightInput (htarget : target ≠ []) :
    (preflightInput target messages boundarySeq).Canonical rules := by
  intro hnone
  simp [preflightInput, ConsumeEffect.consumeInput, ConsumeInput.givenTarget, Option.filter,
    htarget] at hnone

theorem messagesFor_preflightInput (htarget : target ≠ []) (key : JsString) :
    (preflightInput target messages boundarySeq).messagesFor rules key =
      if canonicalVisibleTarget target = key then messages.map InboxMessage.toVisibleMessage
      else [] := by
  have hkey : ∀ message, (preflightInput target messages boundarySeq).keyOf rules message =
      canonicalVisibleTarget target := by
    intro message
    rw [ConsumeInput.keyOf, explicitTarget_preflightInput htarget, Option.getD_some]
  simp only [ConsumeInput.messagesFor, hkey]
  split
  · next h => simp [h, preflightInput, ConsumeEffect.consumeInput]
  · next h => simp [h]

theorem getBoundary_preflight (htarget : target ≠ []) :
    (ledger.recordConsumed rules agentId
      (preflightInput target messages boundarySeq)).1.getBoundary agentId target =
      ledger.getBoundary agentId target := by
  rw [VisibleLedger.getBoundary_recordConsumed _ _ (canonical_preflightInput htarget)]
  split
  · rfl
  · refine if_neg fun hadvances => ?_
    have hsource : canAdvanceBoundaryForTarget (js "side_effect_preflight_context")
        (canonicalVisibleTarget target) = true := hadvances.1.2
    simp [canAdvanceBoundaryForTarget, js, utf16] at hsource

theorem isModelSeen_iff {message : VisibleMessage} :
    ledger.isModelSeen agentId target message = true ↔
      (flooredSeq message.seq).any (fun seq => (ledger.getBoundary agentId target).any (seq ≤ ·)) =
          true ∨
        visibleMessageId message ≠ [] ∧
          visibleMessageId message ∈ (ledger.getMessageIdSet agentId target).getD ∅ := by
  rw [VisibleLedger.isModelSeen, Bool.or_eq_true, Bool.and_eq_true, decide_eq_true_eq,
    gt_iff_lt, List.length_pos_iff]
  cases ledger.getMessageIdSet agentId target <;> simp

theorem messagesFor_of_none {consume : ConsumeInput} {key : JsString}
    (h : (consume.buckets rules).get key = none) : consume.messagesFor rules key = [] := by
  rw [ConsumeInput.get_buckets] at h
  by_contra hsome
  cases hboundary : consume.boundaryFor key <;> simp [hboundary, hsome] at h

theorem mem_ids_get {consume : ConsumeInput} {key id : JsString} :
    id ∈ ((consume.buckets rules).get key).elim ∅ VisibleBucket.ids ↔
      id ≠ [] ∧ ∃ message ∈ consume.messagesFor rules key, visibleMessageId message = id := by
  cases hbucket : (consume.buckets rules).get key with
  | none => simp [messagesFor_of_none hbucket]
  | some bucket => exact (consume.holds_of_some hbucket).ids id

/-- Without a scope, a source that advances no boundary suppresses by exact seq and by id. -/
theorem shouldSuppress_iff {consume : ConsumeInput} {message : VisibleMessage}
    (hscope : consume.scopeFor rules agentId = none)
    (hsource : canAdvanceBoundaryForTarget consume.source (formatVisibleTarget rules message) =
      false) :
    (consume.consumption rules agentId).shouldSuppress rules message = true ↔
      ∃ consumed ∈ consume.messagesFor rules (formatVisibleTarget rules message),
        SharesId message consumed ∨ SharesSeq message consumed := by
  have hscope' : (consume.consumption rules agentId).historyScope = none := hscope
  have hsource' : canAdvanceBoundaryForTarget (consume.consumption rules agentId).source
      (formatVisibleTarget rules message) = false := hsource
  have hbuckets : (consume.consumption rules agentId).buckets = consume.buckets rules := rfl
  rw [Consumption.shouldSuppress, hscope', hbuckets]
  simp only [hsource', Bool.false_and, Bool.false_or]
  cases hbucket : (consume.buckets rules).get (formatVisibleTarget rules message) with
  | none => simp [messagesFor_of_none hbucket]
  | some bucket =>
      have hholds := consume.holds_of_some hbucket
      simp only [Bool.or_eq_true, Bool.and_eq_true, decide_eq_true_eq, hholds.ids,
        Option.any_eq_true, hholds.seqs, gt_iff_lt, List.length_pos_iff, messageSeqs,
        List.mem_filterMap, SharesId, SharesSeq]
      constructor
      · rintro (⟨seq, hseq, consumed, hmem, hsame⟩ | ⟨hne, -, consumed, hmem, hsame⟩)
        · exact ⟨consumed, hmem, .inr ⟨by simp [hseq], hsame.trans hseq.symm⟩⟩
        · exact ⟨consumed, hmem, .inl ⟨hne, hsame⟩⟩
      · rintro ⟨consumed, hmem, ⟨hne, hsame⟩ | ⟨hsome, hsame⟩⟩
        · exact .inr ⟨hne, hne, consumed, hmem, hsame⟩
        · obtain ⟨seq, hseq⟩ := Option.isSome_iff_exists.mp hsome
          exact .inl ⟨seq, hseq, consumed, hmem, hsame.trans hseq⟩

theorem isModelSeen_preflight (htarget : target ≠ [])
    (haccepted : (preflightInput target messages boundarySeq).messages.any
      ((preflightInput target messages boundarySeq).mismatches rules) = false)
    {message : VisibleMessage} (hunseen : ledger.isModelSeen agentId target message = false) :
    (ledger.recordConsumed rules agentId
        (preflightInput target messages boundarySeq)).1.isModelSeen agentId target message = true ↔
      ∃ consumed ∈ messages, SharesId message consumed.toVisibleMessage := by
  have hcanonical : (preflightInput target messages boundarySeq).Canonical rules :=
    canonical_preflightInput htarget
  have hids : ((ledger.recordConsumed rules agentId
      (preflightInput target messages boundarySeq)).1.getMessageIdSet agentId target).getD ∅ =
      (ledger.getMessageIdSet agentId target).getD ∅ ∪
        (((preflightInput target messages boundarySeq).buckets rules).get
          (canonicalVisibleTarget target)).elim ∅ VisibleBucket.ids := by
    obtain ⟨hrefused, -⟩ | ⟨-, hnone, heq⟩ | ⟨-, heq⟩ := VisibleLedger.recordConsumed_cases ledger
      agentId hcanonical
    · rw [haccepted] at hrefused
      cases hrefused
    · rw [heq, hnone]
      simp
    · rw [heq, VisibleLedger.getMessageIdSet,
        VisibleLedger.messageIds_foldl (InsertionMap.nodup _), ← InsertionMap.get,
        VisibleLedger.getMessageIdSet]
  have hbefore := mt isModelSeen_iff.mpr (Bool.eq_false_iff.mp hunseen)
  rw [not_or] at hbefore
  rw [isModelSeen_iff, getBoundary_preflight htarget, or_iff_right hbefore.1, hids,
    Finset.mem_union, mem_ids_get, messagesFor_preflightInput htarget, if_pos rfl]
  simp only [List.mem_map, SharesId]
  constructor
  · rintro ⟨hne, hold | ⟨-, consumed, ⟨original, hmem, rfl⟩, hsame⟩⟩
    · exact absurd ⟨hne, hold⟩ hbefore.2
    · exact ⟨original, hmem, hne, hsame⟩
  · rintro ⟨original, hmem, hne, hsame⟩
    exact ⟨hne, .inr ⟨hne, _, ⟨original, hmem, rfl⟩, hsame⟩⟩

theorem shouldSuppress_preflight (htarget : target ≠ [])
    (haccepted : (preflightInput target messages boundarySeq).messages.any
      ((preflightInput target messages boundarySeq).mismatches rules) = false)
    {message : VisibleMessage} :
    (ledger.recordConsumed rules agentId
        (preflightInput target messages boundarySeq)).2.shouldSuppress rules message = true ↔
      formatVisibleTarget rules message = canonicalVisibleTarget target ∧
        ∃ consumed ∈ messages, SharesId message consumed.toVisibleMessage ∨
          SharesSeq message consumed.toVisibleMessage := by
  have hsource : canAdvanceBoundaryForTarget (preflightInput target messages boundarySeq).source
      (formatVisibleTarget rules message) = false := by
    simp [canAdvanceBoundaryForTarget, preflightInput, ConsumeEffect.consumeInput, js, utf16]
  have hcanonical : (preflightInput target messages boundarySeq).Canonical rules :=
    canonical_preflightInput htarget
  obtain ⟨hrefused, -⟩ | ⟨-, hnone, heq⟩ | ⟨-, heq⟩ := VisibleLedger.recordConsumed_cases ledger
    agentId hcanonical
  · rw [haccepted] at hrefused
    cases hrefused
  · have hmessagesFor := messagesFor_of_none (hnone (formatVisibleTarget rules message))
    rw [heq, ConsumeOutcome.shouldSuppress]
    refine iff_of_false Bool.false_ne_true ?_
    rintro ⟨hkey, consumed, hmem, -⟩
    rw [messagesFor_preflightInput htarget, if_pos hkey.symm, List.map_eq_nil_iff] at hmessagesFor
    simp [hmessagesFor] at hmem
  · rw [heq, ConsumeOutcome.shouldSuppress, shouldSuppress_iff rfl hsource,
      messagesFor_preflightInput htarget]
    split
    · next hkey => simp [hkey]
    · next hkey => simp [Ne.symm hkey]

def Accepted (rules : TextRules) (target : JsString) (messages : List InboxMessage) : Prop :=
  (messages.any fun message =>
    (preflightInput target [] none).mismatches rules message.toVisibleMessage) = false

/-- No consumed message brings this one along, by its id or by its seq. -/
def LeftAlone (rules : TextRules) (target : JsString) (messages : List InboxMessage)
    (message : InboxMessage) : Prop :=
  ∀ consumed ∈ messages,
    ¬ SharesId message.toVisibleMessage consumed.toVisibleMessage ∧
      ¬ (formatVisibleTarget rules message.toVisibleMessage = canonicalVisibleTarget target ∧
        SharesSeq message.toVisibleMessage consumed.toVisibleMessage)

instance (target : JsString) (messages : List InboxMessage) (message : InboxMessage) :
    Decidable (LeftAlone rules target messages message) :=
  inferInstanceAs (Decidable (∀ consumed ∈ messages, _ ∧ _))

/-- A message stays unseen through a preflight unless the call brings it along. -/
theorem stays_unseen_iff (htarget : target ≠ []) {message : InboxMessage}
    (hunseen : ledger.isModelSeen agentId target message.toVisibleMessage = false) :
    let result := ledger.recordConsumed rules agentId (preflightInput target messages boundarySeq)
    (result.1.isModelSeen agentId target message.toVisibleMessage = false ∧
        result.2.shouldSuppress rules message.toVisibleMessage = false) ↔
      (Accepted rules target messages → LeftAlone rules target messages message) := by
  intro result
  have hany : (preflightInput target messages boundarySeq).messages.any
      ((preflightInput target messages boundarySeq).mismatches rules) =
      messages.any fun message =>
        (preflightInput target [] none).mismatches rules message.toVisibleMessage := List.any_map
  by_cases haccepted : Accepted rules target messages
  · have hseen := @isModelSeen_preflight rules ledger agentId target messages boundarySeq
      htarget (hany.trans haccepted) message.toVisibleMessage hunseen
    have hsuppress := @shouldSuppress_preflight rules ledger agentId target messages boundarySeq
      htarget (hany.trans haccepted) message.toVisibleMessage
    simp only [haccepted, true_imp_iff, ← Bool.not_eq_true, result, hseen, hsuppress]
    constructor
    · rintro ⟨hid, hmatch⟩ consumed hmem
      exact ⟨fun h => hid ⟨consumed, hmem, h⟩, fun h => hmatch ⟨h.1, consumed, hmem, .inr h.2⟩⟩
    · intro halone
      refine ⟨fun ⟨consumed, hmem, h⟩ => (halone consumed hmem).1 h, ?_⟩
      rintro ⟨hkey, consumed, hmem, hid | hseq⟩
      · exact (halone consumed hmem).1 hid
      · exact (halone consumed hmem).2 ⟨hkey, hseq⟩
  · have hcanonical : (preflightInput target messages boundarySeq).Canonical rules :=
      canonical_preflightInput htarget
    obtain ⟨-, heq⟩ | ⟨hmatches, -⟩ | ⟨hmatches, -⟩ :=
      VisibleLedger.recordConsumed_cases ledger agentId hcanonical
    · rw [show result = (ledger, .targetMismatch) from heq]
      simp only [haccepted, false_imp_iff, iff_true]
      exact ⟨hunseen, rfl⟩
    all_goals exact absurd (hany.symm.trans hmatches) haccepted

end Preflight

/-! ## What a hold hands over -/

namespace SideEffectInput

variable (input : SideEffectInput)

def backedBy (ledger : VisibleLedger) : SideEffectInput :=
  { input with
    isMessageModelSeen := fun target message =>
      ledger.isModelSeen input.agentId target message.toVisibleMessage }

/-- It is a message of the context that the model has seen, or one without its seq. -/
def MadeOfSeen (message : InboxMessage) : Prop :=
  ∃ seen ∈ input.context, input.modelSeen seen = true ∧
    (message = seen ∨ message = { seen with seq := none })

def HoldsInline : Prop := input.holds = true ∧ input.freshnessContextMode ≠ some .withheld

end SideEffectInput

structure KeepsUnseen (rules : TextRules)
    (producerFactId : JsString → FreshnessDecision → JsString) (ledger : VisibleLedger)
    (input : SideEffectInput) : Prop where
  handed : ∀ consume ∈ (planAgentInboxSideEffect producerFactId input).consumed,
    ∀ message ∈ consume.messages, message.message_id ≠ none →
      input.MadeOfSeen message ∨
        message ∈ (planAgentInboxSideEffect producerFactId input).shown
  omitted : ∀ consume ∈ (planAgentInboxSideEffect producerFactId input).consumed,
    ∀ message ∈ input.omitted,
      let result := ledger.recordConsumed rules input.agentId consume.consumeInput
      result.1.isModelSeen input.agentId input.target message.toVisibleMessage = false ∧
        result.2.shouldSuppress rules message.toVisibleMessage = false
  withheld : input.freshnessContextMode = some .withheld →
    (planAgentInboxSideEffect producerFactId input).consumed = []

/-- An inline hold leaves nothing out that it hands over or that shares an id or a seq with it. -/
structure OmitsOnlyUntouched (rules : TextRules) (input : SideEffectInput) : Prop where
  handed : input.HoldsInline → ¬ input.pendingMessages.length > 0 →
    ∀ message ∈ input.omitted, message.message_id ≠ none →
      input.MadeOfSeen message ∨ message ∈ input.shown
  omitted : input.HoldsInline → Accepted rules input.target input.handed →
    ∀ message ∈ input.omitted, LeftAlone rules input.target input.handed message
  withheld : input.freshnessContextMode = some .withheld → input.confirms = false

theorem mem_sortInboxMessagesBySeq {messages : List InboxMessage} {message : InboxMessage} :
    message ∈ sortInboxMessagesBySeq messages ↔ message ∈ messages :=
  List.mem_insertionSort _

theorem exactSeenConsumeMessage_cases (seen : InboxMessage) :
    input.exactSeenConsumeMessage seen = seen ∨
      input.exactSeenConsumeMessage seen = { seen with seq := none } := by
  rw [SideEffectInput.exactSeenConsumeMessage]
  split
  · exact .inl rfl
  · split
    · exact .inr rfl
    · exact .inl rfl

theorem madeOfSeen_exact {seen : InboxMessage} (hmem : seen ∈ input.context)
    (hseen : input.modelSeen seen = true) :
    input.MadeOfSeen (input.exactSeenConsumeMessage seen) :=
  ⟨seen, hmem, hseen, exactSeenConsumeMessage_cases seen⟩

theorem unseen_of_omitted {message : InboxMessage} (h : message ∈ input.omitted) :
    message ∈ input.context ∧ input.modelSeen message = false := by
  have hunseen := mem_sortInboxMessagesBySeq.mp (List.mem_of_mem_take h)
  simpa [SideEffectInput.unseen] using hunseen

theorem mem_handed {message : InboxMessage} (h : message ∈ input.handed) :
    input.MadeOfSeen message ∨ message ∈ input.shown ∨
      ¬ input.pendingMessages.length > 0 ∧ message ∈ input.omitted := by
  rw [SideEffectInput.handed] at h
  split at h
  · rw [SideEffectInput.seenAndShown, mem_sortInboxMessagesBySeq, List.mem_append,
      List.mem_map] at h
    rcases h with ⟨seen, hseen, rfl⟩ | hshown
    · obtain ⟨hmem, hmodel⟩ := List.mem_filter.mp hseen
      exact .inl (madeOfSeen_exact hmem hmodel)
    · exact .inr (.inl hshown)
  · next hpending =>
      cases hseen : input.modelSeen message with
      | true => exact .inl ⟨message, h, hseen, .inl rfl⟩
      | false =>
          have hunseen : message ∈ sortInboxMessagesBySeq input.unseen :=
            mem_sortInboxMessagesBySeq.mpr (List.mem_filter.mpr ⟨h, by simp [hseen]⟩)
          rw [← List.take_append_drop input.shownStart (sortInboxMessagesBySeq input.unseen),
            List.mem_append] at hunseen
          rcases hunseen with homitted | hshown
          · exact .inr (.inr ⟨hpending, homitted⟩)
          · exact .inr (.inl hshown)

theorem unseen_of_confirms (h : input.confirms = true) : input.unseen = [] := by
  simp only [SideEffectInput.confirms, Bool.and_eq_true, decide_eq_true_eq] at h
  exact List.length_eq_zero_iff.mp h.2

theorem madeOfSeen_of_confirmed (h : input.confirms = true) {message : InboxMessage}
    (hmem : message ∈ input.confirmed) : input.MadeOfSeen message := by
  have hseen : ∀ seen ∈ input.context, input.modelSeen seen = true := by
    simpa [SideEffectInput.unseen] using unseen_of_confirms h
  rw [SideEffectInput.confirmed] at hmem
  split at hmem
  · obtain ⟨seen, hcontext, rfl⟩ := List.mem_map.mp hmem
    exact madeOfSeen_exact hcontext (hseen seen hcontext)
  · exact ⟨message, hmem, hseen message hmem, .inl rfl⟩

theorem not_confirms_of_holds (h : input.holds = true) : input.confirms = false := by
  by_contra hconfirms
  have hnone := unseen_of_confirms (Bool.not_eq_false _ |>.mp hconfirms)
  simp [SideEffectInput.holds, hnone, maxInboxMessageSeq] at h

theorem hold_keeps_unseen_iff (rules : TextRules)
    (producerFactId : JsString → FreshnessDecision → JsString) (ledger : VisibleLedger)
    (input : SideEffectInput) (hcontinue : input.continueAnyway = false)
    (htarget : input.target ≠ []) :
    KeepsUnseen rules producerFactId ledger (input.backedBy ledger) ↔
      OmitsOnlyUntouched rules (input.backedBy ledger) := by
  generalize hbacked : input.backedBy ledger = backed
  have hcontinue' : backed.continueAnyway = false := hbacked ▸ hcontinue
  have htarget' : backed.target ≠ [] := hbacked ▸ htarget
  have hunseen : ∀ message ∈ backed.omitted,
      ledger.isModelSeen backed.agentId backed.target message.toVisibleMessage = false := by
    intro message hmem
    have hmodel := (unseen_of_omitted hmem).2
    subst hbacked
    simp only [SideEffectInput.modelSeen, Bool.or_eq_false_iff] at hmodel
    exact hmodel.2
  cases planned producerFactId hcontinue' with
  | idle hconsumed hconfirms hholds =>
      have hinline : ¬ backed.HoldsInline := fun h => by
        rcases hholds with hnone | hmode
        · exact absurd h.1 (by simp [hnone])
        · exact h.2 hmode
      exact iff_of_true
        { handed := by simp [hconsumed]
          omitted := by simp [hconsumed]
          withheld := fun _ => hconsumed }
        { handed := fun h => absurd h hinline
          omitted := fun h => absurd h hinline
          withheld := fun _ => hconfirms }
  | confirms hconfirms boundarySeq hconsumed =>
      have hinline : ¬ backed.HoldsInline := fun h => by
        rw [not_confirms_of_holds h.1] at hconfirms
        cases hconfirms
      have homitted : backed.omitted = [] := by
        simp [SideEffectInput.omitted, unseen_of_confirms hconfirms, sortInboxMessagesBySeq]
      constructor
      · intro hkeeps
        refine ⟨fun h => absurd h hinline, fun h => absurd h hinline, fun hmode => ?_⟩
        have hnone := hkeeps.withheld hmode
        rw [hconsumed] at hnone
        cases hnone
      · intro huntouched
        refine ⟨fun consume hconsume message hmem _ => ?_, by simp [homitted], fun hmode => ?_⟩
        · rw [hconsumed, List.mem_singleton] at hconsume
          subst hconsume
          exact .inl (madeOfSeen_of_confirmed hconfirms hmem)
        · rw [huntouched.withheld hmode] at hconfirms
          cases hconfirms
  | holds hholds hmode boundarySeq hconsumed hshown =>
      have hstays := fun message hmem => @stays_unseen_iff rules ledger backed.agentId
        backed.target backed.handed boundarySeq htarget' message (hunseen message hmem)
      constructor
      · intro hkeeps
        have hmem : preflightEffect backed backed.handed boundarySeq ∈
            (planAgentInboxSideEffect producerFactId backed).consumed := by simp [hconsumed]
        refine ⟨fun _ hpending message homitted hid => ?_, fun _ haccepted message homitted => ?_,
          fun h => absurd h hmode⟩
        · have hcontext : message ∈ backed.handed := by
            rw [SideEffectInput.handed, if_neg hpending]
            exact (unseen_of_omitted homitted).1
          rw [← hshown]
          exact hkeeps.handed _ hmem message hcontext hid
        · exact (hstays message homitted).mp (hkeeps.omitted _ hmem message homitted) haccepted
      · intro huntouched
        refine ⟨fun consume hconsume message hmem hid => ?_,
          fun consume hconsume message homitted => ?_, fun h => absurd h hmode⟩
        · rw [hconsumed, List.mem_singleton] at hconsume
          subst hconsume
          rw [hshown]
          rcases mem_handed hmem with hseen | hinline | ⟨hpending, homitted⟩
          · exact .inl hseen
          · exact .inr hinline
          · exact huntouched.handed ⟨hholds, hmode⟩ hpending message homitted hid
        · rw [hconsumed, List.mem_singleton] at hconsume
          subst hconsume
          exact (hstays message homitted).mpr fun haccepted =>
            huntouched.omitted ⟨hholds, hmode⟩ haccepted message homitted

/-! ## A first touch takes its whole window as seen -/

def inboxMessage (id : String) (seq : Nat) : InboxMessage where
  toVisibleMessage := channelMessage "general" id seq
  channelId := none
  sender_id := none
  senderId := none
  sender_type := none
  senderType := none
  sender_name := none
  senderName := none
  sender_description := none
  senderDescription := none
  sender_timezone := none
  senderTimezone := none
  content := none
  timestamp := none
  createdAt := none

def generalSend (pendingMessages recentMessages : List InboxMessage) : SideEffectInput where
  agentId := js "agent-1"
  action := .send
  target := js "#general"
  continueAnyway := false
  freshnessContextMode := none
  existingSeenUpToSeq := none
  modelSeenSeq := none
  pendingMessages
  recentMessages
  isMessageModelSeen := fun _ _ => false
  heldContextLimit := some (.ofNat 1)

theorem hold_keeps_unseen_pending :
    KeepsUnseen asciiRules (fun _ _ => []) .empty
      ((generalSend [inboxMessage "a" 1, inboxMessage "b" 2] []).backedBy .empty) :=
  (hold_keeps_unseen_iff asciiRules (fun _ _ => []) .empty
      (generalSend [inboxMessage "a" 1, inboxMessage "b" 2] []) rfl (by decide)).mpr
    { handed := fun _ hnone => absurd (by decide) hnone
      omitted := fun _ _ => by decide +kernel
      withheld := by decide }

theorem hold_sees_omitted :
    ¬ KeepsUnseen asciiRules (fun _ _ => []) .empty
      ((generalSend [] [inboxMessage "a" 1, inboxMessage "b" 2]).backedBy .empty) := by
  generalize hinput : (generalSend [] [inboxMessage "a" 1, inboxMessage "b" 2]).backedBy .empty =
    input
  intro hkeeps
  have hunseen : ((planAgentInboxSideEffect (fun _ _ => []) input).consumed.all fun consume =>
      input.omitted.all fun message =>
        !(VisibleLedger.empty.recordConsumed asciiRules input.agentId
          consume.consumeInput).1.isModelSeen input.agentId input.target
            message.toVisibleMessage) = true := by
    simp only [List.all_eq_true, Bool.not_eq_true']
    exact fun consume hconsume message hmem => (hkeeps.omitted consume hconsume message hmem).1
  subst hinput
  revert hunseen
  decide +kernel

end Raft.VisibleDelivery
