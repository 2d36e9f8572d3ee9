import Raft.VisibleDelivery.FreshnessHold

/-!
# Forwarding over seen context

With pending messages that all carry a seq, the plan forwards exactly when the
model has seen every one of them.  What a forward claims as seen stays within
the known boundary, and what an inline hold shows are the latest unseen
messages, as many as the limit lets through.
-/

namespace Raft.VisibleDelivery

open Raft.Foundation

variable {producerFactId : JsString → FreshnessDecision → JsString} {input : SideEffectInput}

/-! ## Seqs -/

def HasSeq (message : InboxMessage) : Prop := ∃ seq : ℕ+, message.seq = some (.ofNat seq)

theorem positiveSeq_eq {message : InboxMessage} {seq : ℕ+}
    (h : message.seq = some (.ofNat seq)) : positiveSeq message = some (seq : ℕ) := by
  have hpos : (0 : ℚ) < (seq : ℕ) := by exact_mod_cast seq.pos
  have hfloor : flooredSeq message.seq = some (seq : ℕ) := by
    simp [flooredSeq, h, JsNumber.ofNat, JsNumber.positiveFinite, hpos]
  rw [positiveSeq, suppressedSeq, hfloor]
  simp

theorem gt_ofNat (first second : Nat) :
    (JsNumber.ofNat first).gt (.ofNat second) = decide (first > second) := by
  simp [JsNumber.gt, JsNumber.compares, JsNumber.extended, JsNumber.ofNat]

theorem le_ofNat (first second : Nat) :
    (JsNumber.ofNat first).le (.ofNat second) = decide (first ≤ second) := by
  simp [JsNumber.le, JsNumber.compares, JsNumber.extended, JsNumber.ofNat]

theorem messageSeq_eq {message : InboxMessage} {seq : ℕ+}
    (h : message.seq = some (.ofNat seq)) : messageSeq message = .ofNat seq := by
  rw [messageSeq, h, Option.getD_some]

theorem heldStart_ofNat (length limit : Nat) :
    heldStart length (.ofNat limit) = length - limit := by
  have hcast : max 0 ((length : ℚ) - (limit : ℚ)) = ((length - limit : Nat) : ℚ) := by
    rcases le_total limit length with hle | hle
    · rw [Nat.cast_sub hle, max_eq_right (sub_nonneg.mpr (by exact_mod_cast hle))]
    · rw [Nat.sub_eq_zero_of_le hle, Nat.cast_zero,
        max_eq_left (sub_nonpos.mpr (by exact_mod_cast hle))]
  rw [JsNumber.ofNat, heldStart, hcast, Int.floor_natCast, Int.toNat_natCast]

theorem pairwise_sortInboxMessagesBySeq {messages : List InboxMessage}
    (h : ∀ message ∈ messages, HasSeq message) :
    (sortInboxMessagesBySeq messages).Pairwise fun first second =>
      (messageSeq first).le (messageSeq second) = true := by
  have hkey (first : InboxMessage) (hfirst : first ∈ messages) (second : InboxMessage)
      (hsecond : second ∈ messages) :
      (messageSeq first).gt (messageSeq second) = false ↔
        (positiveSeq first).getD 0 ≤ (positiveSeq second).getD 0 := by
    obtain ⟨low, hlow⟩ := h first hfirst
    obtain ⟨high, hhigh⟩ := h second hsecond
    rw [messageSeq_eq hlow, messageSeq_eq hhigh, positiveSeq_eq hlow, positiveSeq_eq hhigh,
      gt_ofNat]
    simp
  have hmap := List.map_insertionSort (r := fun first second =>
    (messageSeq first).gt (messageSeq second) = false) (s := (· ≤ ·))
    (fun message => (positiveSeq message).getD 0) messages hkey
  have hsorted : ((sortInboxMessagesBySeq messages).map fun message =>
      (positiveSeq message).getD 0).Pairwise (· ≤ ·) := by
    rw [sortInboxMessagesBySeq, hmap]
    exact List.pairwise_insertionSort _ _
  rw [List.pairwise_map] at hsorted
  refine hsorted.imp_of_mem fun {first second} hfirst hsecond hle => ?_
  obtain ⟨low, hlow⟩ := h first (mem_sortInboxMessagesBySeq.mp hfirst)
  obtain ⟨high, hhigh⟩ := h second (mem_sortInboxMessagesBySeq.mp hsecond)
  rw [positiveSeq_eq hlow, positiveSeq_eq hhigh] at hle
  rw [messageSeq_eq hlow, messageSeq_eq hhigh, le_ofNat]
  simpa using hle

theorem exists_maxInboxMessageSeq {messages : List InboxMessage} (hne : messages ≠ [])
    (h : ∀ message ∈ messages, HasSeq message) :
    ∃ boundary, maxInboxMessageSeq messages = some boundary := by
  obtain ⟨message, rest, rfl⟩ := List.exists_cons_of_ne_nil hne
  obtain ⟨seq, hseq⟩ := h message List.mem_cons_self
  refine Option.isSome_iff_exists.mp (maxInboxMessageSeq_isSome.mpr
    ⟨message, List.mem_cons_self, ?_⟩)
  rw [positiveSeq_eq hseq, Option.isSome_some]

/-! ## Seen messages -/

namespace SideEffectInput

variable (input : SideEffectInput)

/-- The message is the agent's own, at or below the mark, or reported as seen. -/
def Seen (message : InboxMessage) : Prop :=
  messageSenderId message = some input.agentId ∨
    (∃ mark, input.modelSeenSeq = some mark ∧ (messageSeq message).le mark = true) ∨
    input.isMessageModelSeen input.target
      (normalizeInboxVisibleMessage input.target message) = true

instance (message : InboxMessage) : Decidable (input.Seen message) :=
  decidable_of_iff
    (messageSenderId message = some input.agentId ∨
      input.modelSeenSeq.any (messageSeq message).le = true ∨
      input.isMessageModelSeen input.target
        (normalizeInboxVisibleMessage input.target message) = true)
    (by rw [Seen, Option.any_eq_true])

def unseenPending : List InboxMessage :=
  (input.pendingMessages.filter fun message => ¬ input.Seen message).map
    (normalizeInboxVisibleMessage input.target)

end SideEffectInput

theorem messageSenderId_normalize (target : JsString) (message : InboxMessage) :
    messageSenderId (normalizeInboxVisibleMessage target message) = messageSenderId message := by
  cases hsender : messageSenderId message with
  | none =>
      rw [messageSenderId, normalizeInboxVisibleMessage]
      simp only [hsender, Option.none_or]
      exact hsender
  | some sender =>
      have hlength : sender.length > 0 := by
        rw [messageSenderId, Option.or_eq_some_iff] at hsender
        rcases hsender with hid | ⟨-, hid⟩
        · simpa using (Option.filter_eq_some_iff.mp hid).2
        · simpa using (Option.filter_eq_some_iff.mp hid).2
      rw [messageSenderId, normalizeInboxVisibleMessage]
      simp [hsender, Option.filter, hlength]

theorem modelSeen_normalize {message : InboxMessage} (h : HasSeq message) :
    input.modelSeen (normalizeInboxVisibleMessage input.target message) = true ↔
      input.Seen message := by
  obtain ⟨seq, hseq⟩ := h
  have hnormalized : (normalizeInboxVisibleMessage input.target message).seq =
      some (.ofNat seq) := hseq
  rw [SideEffectInput.modelSeen, messageSenderId_normalize, positiveSeq_eq hnormalized,
    SideEffectInput.Seen, messageSeq_eq hseq, Bool.or_eq_true, Bool.or_eq_true, decide_eq_true_eq,
    Option.any_some, Option.any_eq_true, or_assoc]

/-! ## The plan over pending messages -/

section Pending

variable (hpending : input.pendingMessages ≠ [])
  (hseqs : ∀ message ∈ input.pendingMessages, HasSeq message)

include hpending

theorem context_eq : input.context = sortInboxMessagesBySeq
    (input.pendingMessages.map (normalizeInboxVisibleMessage input.target)) := by
  rw [SideEffectInput.context, if_pos (List.length_pos_iff.mpr hpending)]

include hseqs

theorem hasSeq_context {message : InboxMessage} (h : message ∈ input.context) :
    HasSeq message := by
  rw [context_eq hpending, mem_sortInboxMessagesBySeq] at h
  obtain ⟨original, horiginal, rfl⟩ := List.mem_map.mp h
  exact hseqs original horiginal

theorem unseen_perm : input.unseen.Perm input.unseenPending := by
  have hfilter : ((input.pendingMessages.map (normalizeInboxVisibleMessage input.target)).filter
      fun message => !input.modelSeen message) = input.unseenPending := by
    rw [List.filter_map, SideEffectInput.unseenPending]
    refine congrArg _ (List.filter_congr fun message hmessage => ?_)
    have hseen := @modelSeen_normalize input message (hseqs message hmessage)
    by_cases h : input.Seen message
    · simp [h, hseen.mpr h]
    · simp [h, Bool.eq_false_iff.mpr (hseen.not.mpr h)]
  rw [← hfilter, SideEffectInput.unseen, context_eq hpending]
  exact (List.perm_insertionSort _ _).filter _

theorem exists_boundary : ∃ boundary, maxInboxMessageSeq input.context = some boundary := by
  refine exists_maxInboxMessageSeq (fun hempty => hpending ?_) fun message hmessage =>
    hasSeq_context hpending hseqs hmessage
  rw [context_eq hpending] at hempty
  have hlength := congrArg List.length hempty
  rw [sortInboxMessagesBySeq, List.length_insertionSort, List.length_map] at hlength
  exact List.length_eq_zero_iff.mp hlength

end Pending

structure ForwardsWithin (input : SideEffectInput) (plan : SideEffectPlan) : Prop where
  forwardSeen : ∀ seq, plan.forwardSeenUpToSeq = some seq → seq.le input.knownBoundary = true
  consumed : ∀ consume ∈ plan.consumed, ∀ seq, consume.boundarySeq = some seq →
    (JsNumber.ofNat seq).le input.knownBoundary = true

/-- The envelope shows the latest unseen messages and counts them and the rest. -/
structure ShowsLatest (input : SideEffectInput) (envelope : HeldEnvelope) : Prop where
  newMessageCount : envelope.newMessageCount = input.unseenPending.length
  omittedMessageCount : envelope.omittedMessageCount =
    input.unseenPending.length - envelope.heldMessages.length
  latest : ∃ omitted, (omitted ++ envelope.heldMessages).Perm input.unseenPending ∧
    ∀ left ∈ omitted, ∀ held ∈ envelope.heldMessages,
      (messageSeq left).le (messageSeq held) = true
  count : ∀ limit : Nat, input.limit = .ofNat limit →
    envelope.heldMessages.length = min limit input.unseenPending.length

section Plans

variable (hpending : input.pendingMessages ≠ [])
  (hseqs : ∀ message ∈ input.pendingMessages, HasSeq message)

include hpending hseqs

variable (producerFactId) in
theorem forwards_pending (hnone : input.unseen.length = 0) :
    ∃ decision boundary,
      planPending producerFactId input = forwardPlan input decision
        (if input.action = .send ∧
            input.maxKnownContiguousBoundary.any (JsNumber.ofNat boundary).le = true then
          some (.ofNat boundary) else none)
        (some (preflightEffect input (input.context.map input.exactSeenConsumeMessage)
          (if input.maxKnownContiguousBoundary.any (JsNumber.ofNat boundary).le = true then
            some boundary else none))) := by
  obtain ⟨boundary, hboundary⟩ := exists_boundary hpending hseqs
  have hunfold := planPending.eq_1 producerFactId input
  rw [← context_eq hpending, hboundary] at hunfold
  exact ⟨_, boundary, hunfold.trans (if_pos hnone)⟩

variable (producerFactId) in
theorem holds_pending (hsome : ¬ input.unseen.length = 0) :
    ∃ decision consumeMessages heldBoundary,
      planPending producerFactId input = heldPlan producerFactId input decision
        ⟨input.shown, input.unseen.length, input.unseen.length - input.shown.length, heldBoundary⟩
        consumeMessages heldBoundary := by
  obtain ⟨boundary, hboundary⟩ := exists_boundary hpending hseqs
  obtain ⟨heldBoundary, hheld⟩ : ∃ heldBoundary,
      maxInboxMessageSeq input.unseen = some heldBoundary :=
    exists_maxInboxMessageSeq (fun hempty => hsome (by rw [hempty]; rfl)) fun message hmessage =>
      hasSeq_context hpending hseqs (List.mem_filter.mp hmessage).1
  have hunfold := planPending.eq_1 producerFactId input
  rw [← context_eq hpending, hboundary] at hunfold
  replace hunfold := hunfold.trans (if_neg hsome)
  rw [SideEffectInput.unseen] at hheld
  simp only [hheld] at hunfold
  exact ⟨_, _, heldBoundary, hunfold⟩

variable (producerFactId) in
theorem forwardsWithin_pending (hnone : input.unseen.length = 0) :
    (planPending producerFactId input).held = false ∧
      ForwardsWithin input (planPending producerFactId input) := by
  obtain ⟨decision, boundary, hplan⟩ :=
    forwards_pending producerFactId hpending hseqs hnone
  have hwithin (h : input.maxKnownContiguousBoundary.any (JsNumber.ofNat boundary).le = true) :
      (JsNumber.ofNat boundary).le input.knownBoundary = true := by
    rw [SideEffectInput.maxKnownContiguousBoundary] at h
    split at h
    · exact h
    · cases h
  rw [hplan]
  refine ⟨rfl, ⟨fun seq hseq => ?_, fun consume hconsume seq hseq => ?_⟩⟩
  · rw [forwardPlan] at hseq
    simp only at hseq
    split at hseq
    · next hadvances =>
        cases hseq
        exact hwithin hadvances.2
    · cases hseq
  · rw [consumed_forwardPlan, Option.toList_some, List.mem_singleton] at hconsume
    rw [hconsume, preflightEffect] at hseq
    simp only at hseq
    split at hseq
    · next hadvances =>
        cases hseq
        exact hwithin hadvances
    · cases hseq

theorem showsLatest_shown {heldBoundary : Nat} {decision : FreshnessVerdict} {factId : JsString} :
    ShowsLatest input
      { decision
        producerFactId := factId
        heldMessages := input.shown
        newMessageCount := input.unseen.length
        omittedMessageCount := input.unseen.length - input.shown.length
        seenUpToSeq := heldBoundary } := by
  have hperm := unseen_perm hpending hseqs
  have hsplit : input.omitted ++ input.shown = sortInboxMessagesBySeq input.unseen :=
    List.take_append_drop _ _
  have hsorted := @pairwise_sortInboxMessagesBySeq input.unseen
    fun message hmessage => hasSeq_context hpending hseqs (List.mem_filter.mp hmessage).1
  rw [← hsplit, List.pairwise_append] at hsorted
  refine ⟨hperm.length_eq, ?_, ⟨input.omitted, ?_, hsorted.2.2⟩, fun limit hlimit => ?_⟩
  · simp only [hperm.length_eq]
  · rw [hsplit]
    exact (List.perm_insertionSort _ _).trans hperm
  · have hstart : input.shownStart = input.unseen.length - limit := by
      rw [SideEffectInput.shownStart, hlimit, sortInboxMessagesBySeq, List.length_insertionSort,
        heldStart_ofNat]
    rw [SideEffectInput.shown, List.length_drop, hstart, sortInboxMessagesBySeq,
      List.length_insertionSort, ← hperm.length_eq]
    omega

variable (producerFactId) in
theorem held_pending (hsome : ¬ input.unseen.length = 0) :
    (planPending producerFactId input).held = true ∧
      if input.freshnessContextMode = some .withheld then
        (planPending producerFactId input).localResponse =
          some (.withheld input.unseenPending.length)
      else
        ∃ envelope, (planPending producerFactId input).localResponse = some (.held envelope) ∧
          ShowsLatest input envelope := by
  obtain ⟨decision, consumeMessages, heldBoundary, hplan⟩ :=
    holds_pending producerFactId hpending hseqs hsome
  rw [hplan]
  refine ⟨rfl, ?_⟩
  by_cases hmode : input.freshnessContextMode = some .withheld
  · rw [if_pos hmode, heldPlan, ← (unseen_perm hpending hseqs).length_eq]
    simp only [hmode, if_true]
  · rw [if_neg hmode, heldPlan]
    simp only [hmode, if_false]
    exact ⟨_, rfl, showsLatest_shown hpending hseqs⟩

end Plans

/-- Over pending messages that all carry a seq, the plan forwards exactly when each is seen; a
forward claims nothing above the known boundary, and a hold shows the latest unseen messages or,
withheld, counts them. -/
theorem forwards_only_over_seen_context
    (producerFactId : JsString → FreshnessDecision → JsString) (input : SideEffectInput)
    (hcontinue : input.continueAnyway = false) (hpending : input.pendingMessages ≠ [])
    (hseqs : ∀ message ∈ input.pendingMessages, HasSeq message) :
    let plan := planAgentInboxSideEffect producerFactId input
    (plan.held = false ↔ ∀ message ∈ input.pendingMessages, input.Seen message) ∧
    (plan.held = false → ForwardsWithin input plan) ∧
    (plan.held = true →
      if input.freshnessContextMode = some .withheld then
        plan.localResponse = some (.withheld input.unseenPending.length)
      else
        ∃ envelope, plan.localResponse = some (.held envelope) ∧ ShowsLatest input envelope) := by
  intro plan
  have hplan : plan = planPending producerFactId input := by
    simp only [plan, planAgentInboxSideEffect, hcontinue, Bool.false_eq_true, if_false,
      List.length_pos_iff.mpr hpending, if_true]
  have hunseen : input.unseen.length = 0 ↔
    ∀ message ∈ input.pendingMessages, input.Seen message := by
    rw [(unseen_perm hpending hseqs).length_eq, SideEffectInput.unseenPending, List.length_map,
      List.length_eq_zero_iff, List.filter_eq_nil_iff]
    simp
  rw [hplan, ← hunseen]
  by_cases hnone : input.unseen.length = 0
  · obtain ⟨hforward, hwithin⟩ :=
      forwardsWithin_pending producerFactId hpending hseqs hnone
    refine ⟨iff_of_true hforward hnone, fun _ => hwithin, fun hheld => ?_⟩
    rw [hforward] at hheld
    cases hheld
  · obtain ⟨hheld, hresponse⟩ :=
      held_pending producerFactId hpending hseqs hnone
    have hheld' : (planPending producerFactId input).held ≠ false := ne_false_of_eq_true hheld
    exact ⟨iff_of_false hheld' hnone, fun hforward => absurd hforward hheld', fun _ => hresponse⟩

def seenSend (pendingMessages : List InboxMessage) : SideEffectInput :=
  { generalSend pendingMessages [] with modelSeenSeq := some (.ofNat 1) }

theorem send_over_seen_forwarded :
    (planAgentInboxSideEffect (fun _ _ => []) (seenSend [inboxMessage "a" 1])).held = false :=
  (forwards_only_over_seen_context (fun _ _ => []) (seenSend [inboxMessage "a" 1]) rfl (by decide)
    (by
      intro message hmessage
      cases List.mem_singleton.mp hmessage
      exact ⟨1, rfl⟩)).1.mpr (by decide +kernel)

def halfSeqMessage : InboxMessage := { inboxMessage "a" 1 with seq := some (.finite (1 / 2)) }

def withheldSend : SideEffectInput :=
  { generalSend [inboxMessage "a" 1] [] with freshnessContextMode := some .withheld }

def fractionSend : SideEffectInput :=
  { generalSend [inboxMessage "a" 1, inboxMessage "b" 2] [] with
    heldContextLimit := some (.finite (3 / 2)) }

/-- A withheld hold shows no message though one is unseen and within the limit, a seq below one is
not looked at, and a limit that is no whole number is rounded up. -/
theorem holds_beyond_the_latest :
    ((planAgentInboxSideEffect (fun _ _ => []) withheldSend).held = true ∧
      withheldSend.unseenPending.length = 1 ∧
      (planAgentInboxSideEffect (fun _ _ => []) withheldSend).shown.length = 0) ∧
    ((planAgentInboxSideEffect (fun _ _ => []) (generalSend [halfSeqMessage] [])).held = false ∧
      ¬ (generalSend [halfSeqMessage] []).Seen halfSeqMessage) ∧
    (planAgentInboxSideEffect (fun _ _ => []) fractionSend).shown.length = 2 := by
  decide +kernel

end Raft.VisibleDelivery
