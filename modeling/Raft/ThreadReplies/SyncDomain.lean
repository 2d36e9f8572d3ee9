import Raft.Sync.ReadState
import Raft.ThreadReplies.ReadModel

/-!
# Thread replies through the sync core

The core folds a frame of a sparse scope only when it arrives above all frames
before it, so it shows what the read model shows exactly when the latest
replies, and the greatest counts, arrive that way.
-/

namespace Raft.ThreadReplies

open Raft.Foundation Raft.Sync

def THREAD_REPLIES_SYNC_DOMAIN : SyncDomainName := js "threadReplies"

/-- Whether a window of the same length advances a slot, from the newest to the oldest. -/
def advancesSlot : List Int → List Int → Bool
  | incoming :: incomings, current :: currents =>
      if incoming = current then advancesSlot incomings currents else current < incoming
  | _, _ => false

def acceptSameWatermarkSnapshot (currentState : ThreadRepliesScope)
    (snapshot : SyncSnapshot ThreadRepliesScope) : Bool :=
  let incoming := snapshot.state
  if incoming.replyCount < currentState.replyCount then false
  else if incoming.replies.length > currentState.replies.length then true
  else if incoming.replies.length < currentState.replies.length then false
  else
    advancesSlot (incoming.replies.map ThreadReplyPreview.seq).reverse
      (currentState.replies.map ThreadReplyPreview.seq).reverse

def createThreadRepliesDomain :
    SyncDomainConfig ThreadRepliesScope ThreadRepliesDomainEvent ThreadRepliesScope where
  name := THREAD_REPLIES_SYNC_DOMAIN
  density := .sparse
  initialState := emptyThreadRepliesScope
  eventFingerprint := none
  fold := fun state event _ => applyThreadReplyFrame state event.reply event.replyCount
  fromSnapshot := fun snapshot => snapshot.state
  acceptSameWatermarkSnapshot := some acceptSameWatermarkSnapshot

def threadRepliesFrame (scopeId : SyncScopeId) (epoch : Option SyncEpoch)
    (event : ThreadRepliesDomainEvent) : SyncFrame ThreadRepliesDomainEvent :=
  ⟨scopeId, event.reply.seq, epoch, event⟩

def threadRepliesInput (scopeId : SyncScopeId) (epoch : Option SyncEpoch)
    (event : ThreadRepliesDomainEvent) :
    SyncHarnessInput ThreadRepliesDomainEvent ThreadRepliesScope :=
  .frame THREAD_REPLIES_SYNC_DOMAIN (threadRepliesFrame scopeId epoch event)

/-- The scope after the frames of one epoch, and the initial one before the first. -/
def syncedReplies (core : SyncCore ThreadRepliesScope ThreadRepliesDomainEvent ThreadRepliesScope)
    (scopeId : SyncScopeId) (epoch : Option SyncEpoch) (events : List ThreadRepliesDomainEvent) :
    ThreadRepliesScope :=
  ((run step core (events.map (threadRepliesInput scopeId epoch))).state
    THREAD_REPLIES_SYNC_DOMAIN scopeId).getD emptyThreadRepliesScope

/-- The frames that arrive above the mark and above all frames before them. -/
def leadingFrom : Option Int → List ThreadRepliesDomainEvent → List ThreadRepliesDomainEvent
  | _, [] => []
  | applied, event :: events =>
      if applied.all (· < event.reply.seq) then
        event :: leadingFrom (some event.reply.seq) events
      else leadingFrom applied events

def leading (events : List ThreadRepliesDomainEvent) : List ThreadRepliesDomainEvent :=
  leadingFrom none events

theorem leadingFrom_sublist (applied : Option Int) (events : List ThreadRepliesDomainEvent) :
    (leadingFrom applied events).Sublist events := by
  induction events generalizing applied with
  | nil => exact List.Sublist.refl _
  | cons event events ih =>
      rw [leadingFrom]
      split
      · exact (ih _).cons_cons _
      · exact (ih _).cons _

section

variable {core : SyncCore ThreadRepliesScope ThreadRepliesDomainEvent ThreadRepliesScope}
  {scopeId : SyncScopeId} {epoch : Option SyncEpoch}

theorem frameWrite_threadReplies {entry : ScopeEntry ThreadRepliesScope}
    (hepoch : entry.epoch = none ∨ entry.epoch = epoch) (event : ThreadRepliesDomainEvent) :
    let next := (frameWrite createThreadRepliesDomain entry
      (threadRepliesFrame scopeId epoch event)).entry
    (next.epoch = none ∨ next.epoch = epoch) ∧
      if entry.appliedSeq.all (· < event.reply.seq) then
        next.appliedSeq = some event.reply.seq ∧ next.state = applyEvent entry.state event
      else next = entry := by
  have hsame : epochMismatch entry epoch = false := by
    rcases hepoch with hnone | hsome
    · simp [epochMismatch, hnone]
    · simp [epochMismatch, hsome]
  cases happlied : entry.appliedSeq with
  | none =>
      simp only [frameWrite, threadRepliesFrame, hsame, happlied, createThreadRepliesDomain,
        acceptEvent, Option.all_none, if_true, Bool.false_eq_true, if_false]
      refine ⟨?_, trivial, rfl⟩
      split
      · exact .inr rfl
      · exact hepoch
  | some applied =>
      simp only [Option.all_some, decide_eq_true_eq]
      split
      · next hlt =>
          have hnot : ¬ event.reply.seq < applied := not_lt.mpr hlt.le
          simp only [frameWrite, threadRepliesFrame, hsame, happlied, createThreadRepliesDomain,
            acceptEvent, hnot, hlt.ne', Bool.false_eq_true, if_false]
          exact ⟨hepoch, trivial, rfl⟩
      · next hnot =>
          rcases (not_lt.mp hnot).lt_or_eq with hlt | heq
          · simp only [frameWrite, threadRepliesFrame, hsame, happlied, createThreadRepliesDomain,
              hlt, Bool.false_eq_true, if_false, if_true]
            exact ⟨hepoch, trivial⟩
          · simp only [frameWrite, threadRepliesFrame, hsame, happlied, createThreadRepliesDomain,
              heq, lt_irrefl, Bool.false_eq_true, if_false, if_true]
            exact ⟨hepoch, trivial⟩

theorem scopeEntry_step
    (hdomain : core.domainOf THREAD_REPLIES_SYNC_DOMAIN = .ok createThreadRepliesDomain)
    (event : ThreadRepliesDomainEvent) :
    (step core (threadRepliesInput scopeId epoch event)).scopeEntry createThreadRepliesDomain
        scopeId =
      (frameWrite createThreadRepliesDomain (core.scopeEntry createThreadRepliesDomain scopeId)
        (threadRepliesFrame scopeId epoch event)).entry := by
  have haddress : (threadRepliesInput scopeId epoch event).Addresses
      createThreadRepliesDomain.name scopeId := ⟨rfl, rfl⟩
  rw [SyncCore.scopeEntry, step_scopes_of_addresses hdomain haddress]
  rfl

theorem state_run
    (hdomain : core.domainOf THREAD_REPLIES_SYNC_DOMAIN = .ok createThreadRepliesDomain)
    (hepoch : (core.scopeEntry createThreadRepliesDomain scopeId).epoch = none ∨
      (core.scopeEntry createThreadRepliesDomain scopeId).epoch = epoch)
    (events : List ThreadRepliesDomainEvent) :
    ((run step core (events.map (threadRepliesInput scopeId epoch))).scopeEntry
        createThreadRepliesDomain scopeId).state =
      (leadingFrom (core.scopeEntry createThreadRepliesDomain scopeId).appliedSeq events).foldl
        applyEvent (core.scopeEntry createThreadRepliesDomain scopeId).state := by
  induction events generalizing core with
  | nil => rfl
  | cons event events ih =>
      obtain ⟨hnext, hwrite⟩ := @frameWrite_threadReplies scopeId epoch _ hepoch event
      rw [← scopeEntry_step hdomain] at hnext hwrite
      rw [List.map_cons, run_cons, ih (by rw [step_domainOf, hdomain]) hnext, leadingFrom]
      split at hwrite
      · next hleads =>
          rw [if_pos hleads, hwrite.1, hwrite.2, List.foldl_cons]
      · next hnot => rw [if_neg hnot, hwrite]

theorem syncedReplies_eq (hfresh : Fresh core)
    (hdomain : core.domainOf THREAD_REPLIES_SYNC_DOMAIN = .ok createThreadRepliesDomain)
    (events : List ThreadRepliesDomainEvent) :
    syncedReplies core scopeId epoch events = foldReplies (leading events) := by
  have hentry : core.scopeEntry createThreadRepliesDomain scopeId =
      SyncCore.initialEntry createThreadRepliesDomain := by
    rw [SyncCore.scopeEntry, hfresh.scopes]
    rfl
  have hrun := @state_run core scopeId epoch hdomain (.inl (by rw [hentry]; rfl)) events
  rw [hentry] at hrun
  have hstate : syncedReplies core scopeId epoch events =
      ((run step core (events.map (threadRepliesInput scopeId epoch))).scopeEntry
        createThreadRepliesDomain scopeId).state := by
    rw [syncedReplies, SyncCore.state, SyncCore.scopeEntry]
    change Option.getD (Option.map _ ((run step core (events.map (threadRepliesInput scopeId
      epoch))).scopes THREAD_REPLIES_SYNC_DOMAIN scopeId)) _ = (Option.getD ((run step core
      (events.map (threadRepliesInput scopeId epoch))).scopes THREAD_REPLIES_SYNC_DOMAIN
      scopeId) _).state
    cases (run step core (events.map (threadRepliesInput scopeId epoch))).scopes
      THREAD_REPLIES_SYNC_DOMAIN scopeId <;> rfl
  rw [hstate, hrun]
  rfl

end

/-! ## Agreement -/

/-- The same messages in the same order, and the same count. -/
def ShowsSame (first second : ThreadRepliesScope) : Prop :=
  first.replies.map (fun reply => (reply.messageId, reply.seq)) =
      second.replies.map (fun reply => (reply.messageId, reply.seq)) ∧
    first.replyCount = second.replyCount

/-- The latest replies, and counts as great as any, arrive above all frames before them. -/
structure LatestLead (events : List ThreadRepliesDomainEvent) : Prop where
  replies : ∀ event ∈ events, 0 < event.reply.seq →
    greaterCount (seqsAboveSeam events) event.reply.seq < INLINE_REPLY_CAP →
    ∃ lead ∈ leading events, lead.reply.seq = event.reply.seq
  counts : ∀ event ∈ events, 0 < event.reply.seq → 0 < event.replyCount →
    ∃ lead ∈ leading events, 0 < lead.reply.seq ∧ event.replyCount ≤ lead.replyCount

theorem replies_eq_of_seq_eq {events : List ThreadRepliesDomainEvent} {α : Type}
    {read : ThreadReplyPreview → α} {first second : List ThreadReplyPreview}
    (hfirst : ∀ reply ∈ first, ∃ event ∈ events, event.reply = reply)
    (hsecond : ∀ reply ∈ second, ∃ event ∈ events, event.reply = reply)
    (hread : ∀ one ∈ events, ∀ other ∈ events, one.reply.seq = other.reply.seq →
      read one.reply = read other.reply)
    (hseqs : first.map ThreadReplyPreview.seq = second.map ThreadReplyPreview.seq) :
    first.map read = second.map read := by
  induction first generalizing second with
  | nil => simp_all
  | cons reply first ih =>
      cases second with
      | nil => simp at hseqs
      | cons other second =>
          simp only [List.map_cons, List.cons.injEq, List.forall_mem_cons] at *
          obtain ⟨⟨event, hevent, rfl⟩, hrest⟩ := hfirst
          obtain ⟨⟨another, hanother, rfl⟩, hothers⟩ := hsecond
          exact ⟨hread event hevent another hanother hseqs.1, ih hrest hothers hseqs.2⟩

theorem seqs_eq_iff {events : List ThreadRepliesDomainEvent} (hdistinct : Distinguished events) :
    (foldReplies (leading events)).replies.map ThreadReplyPreview.seq =
        (foldReplies events).replies.map ThreadReplyPreview.seq ∧
      (foldReplies (leading events)).replyCount = (foldReplies events).replyCount ↔
    LatestLead events := by
  have hsubset : leading events ⊆ events := (leadingFrom_sublist none events).subset
  have hall := showsLatest_foldReplies hdistinct
  have hleads := showsLatest_foldReplies (hdistinct.of_subset hsubset)
  have hseqs : seqsAboveSeam (leading events) ⊆ seqsAboveSeam events := by
    intro seq hseq
    obtain ⟨hpos, event, hevent, hsame⟩ := mem_seqsAboveSeam.mp hseq
    exact mem_seqsAboveSeam.mpr ⟨hpos, event, hsubset hevent, hsame⟩
  rw [hall.window.eq_iff hleads.window hseqs]
  constructor
  · rintro ⟨hlatest, hcount⟩
    refine ⟨fun event hevent hpos hgreater => ?_, fun event hevent hpos hpositive => ?_⟩
    · exact (mem_seqsAboveSeam.mp (hlatest _
        (mem_seqsAboveSeam.mpr ⟨hpos, event, hevent, rfl⟩) hgreater)).2
    · have hle := hall.counted event hevent hpos
      rw [← hcount] at hle
      rcases hleads.count with hzero | ⟨lead, hlead, habove, hattained⟩
      · exact absurd (hpositive.trans_le hle) (by simp [hzero])
      · exact ⟨lead, hlead, habove, hattained ▸ hle⟩
  · intro h
    refine ⟨fun seq hseq hgreater => ?_, le_antisymm ?_ ?_⟩
    · obtain ⟨hpos, event, hevent, rfl⟩ := mem_seqsAboveSeam.mp hseq
      exact mem_seqsAboveSeam.mpr ⟨hpos, h.replies event hevent hpos hgreater⟩
    · rcases hleads.count with hzero | ⟨lead, hlead, hpos, hattained⟩
      · exact hzero ▸ hall.nonneg
      · exact hattained ▸ hall.counted lead (hsubset hlead) hpos
    · rcases hall.count with hzero | ⟨event, hevent, hpos, hattained⟩
      · exact hzero ▸ hleads.nonneg
      · rcases le_or_gt event.replyCount 0 with hnonpos | hpositive
        · exact hattained ▸ hnonpos.trans hleads.nonneg
        · obtain ⟨lead, hlead, habove, hle⟩ := h.counts event hevent hpos hpositive
          exact hattained ▸ hle.trans (hleads.counted lead hlead habove)

/-- The core shows what the read model shows exactly when the latest replies lead; and then the
replies are the same ones if no message is sent again with another content. -/
theorem thread_replies_agree_iff
    {core : SyncCore ThreadRepliesScope ThreadRepliesDomainEvent ThreadRepliesScope}
    (scopeId : SyncScopeId) (epoch : Option SyncEpoch) (events : List ThreadRepliesDomainEvent)
    (hfresh : Fresh core)
    (hdomain : core.domainOf THREAD_REPLIES_SYNC_DOMAIN = .ok createThreadRepliesDomain)
    (hdistinct : Distinguished events) :
    (ShowsSame (syncedReplies core scopeId epoch events) (foldReplies events) ↔
      LatestLead events) ∧
    ((∀ first ∈ events, ∀ second ∈ events,
        first.reply.messageId = second.reply.messageId → first.reply = second.reply) →
      ((syncedReplies core scopeId epoch events).replies = (foldReplies events).replies ∧
        (syncedReplies core scopeId epoch events).replyCount = (foldReplies events).replyCount ↔
      LatestLead events)) := by
  have hsubset : leading events ⊆ events := (leadingFrom_sublist none events).subset
  have hall := (showsLatest_foldReplies hdistinct).replies
  have hleads : ∀ reply ∈ (foldReplies (leading events)).replies,
      ∃ event ∈ events, event.reply = reply := by
    intro reply hreply
    obtain ⟨event, hevent, hsame⟩ :=
      (showsLatest_foldReplies (hdistinct.of_subset hsubset)).replies reply hreply
    exact ⟨event, hsubset hevent, hsame⟩
  rw [syncedReplies_eq hfresh hdomain]
  constructor
  · rw [← seqs_eq_iff hdistinct, ShowsSame]
    refine and_congr_left fun _ => ⟨fun hshown => ?_, fun hseqs => ?_⟩
    · simpa [List.map_map, Function.comp_def] using congrArg (List.map Prod.snd) hshown
    · refine replies_eq_of_seq_eq hleads hall (fun one hone other hother hseq => ?_) hseqs
      rw [(hdistinct.distinct one hone other hother).mpr hseq, hseq]
  · intro hcontent
    rw [← seqs_eq_iff hdistinct]
    refine and_congr_left fun _ => ⟨congrArg _, fun hseqs => ?_⟩
    have hread := @replies_eq_of_seq_eq events _ id _ _ hleads hall
      (fun one hone other hother hseq =>
        hcontent one hone other hother ((hdistinct.distinct one hone other hother).mpr hseq)) hseqs
    rwa [List.map_id, List.map_id] at hread

def exampleReply (seq : Int) (messageId : JsString) : ThreadRepliesDomainEvent where
  parentMessageId := js "parent"
  threadChannelId := js "thread"
  replyCount := 1
  reply := ⟨messageId, seq, js "hi", js "u", .user, js "U", none, none, js "t"⟩

theorem thread_replies_agree_in_order :
    ShowsSame (syncedReplies (soleDomainCore createThreadRepliesDomain) (js "s") none
      [exampleReply 8 (js "a"), exampleReply 9 (js "b"), exampleReply 8 (js "a")])
      (foldReplies [exampleReply 8 (js "a"), exampleReply 9 (js "b"), exampleReply 8 (js "a")]) :=
  (thread_replies_agree_iff (js "s") none _ (fresh_soleDomainCore createThreadRepliesDomain)
    (domainOf_soleDomainCore createThreadRepliesDomain) ⟨by decide, by decide⟩).1.mpr
      ⟨by decide, by decide⟩

/-- Of two new replies the older one arrives second, and the core loses it. -/
theorem thread_reply_lost :
    Distinguished [exampleReply 9 (js "b"), exampleReply 8 (js "a")] ∧
    ¬ ShowsSame (syncedReplies (soleDomainCore createThreadRepliesDomain) (js "s") none
      [exampleReply 9 (js "b"), exampleReply 8 (js "a")])
      (foldReplies [exampleReply 9 (js "b"), exampleReply 8 (js "a")]) := by
  refine ⟨⟨by decide, by decide⟩, ?_⟩
  rw [syncedReplies_eq (fresh_soleDomainCore createThreadRepliesDomain)
    (domainOf_soleDomainCore createThreadRepliesDomain)]
  rintro ⟨hreplies, -⟩
  revert hreplies
  decide

end Raft.ThreadReplies
