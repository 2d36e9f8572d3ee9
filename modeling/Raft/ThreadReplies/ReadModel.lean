import Mathlib.Data.Rat.Init
import Mathlib.Algebra.Order.Ring.Unbundled.Rat
import Raft.Foundation.JsString
import Raft.Foundation.LatestWindow

/-!
# The latest replies of one thread

The inline preview keeps the newest replies by sequence number, whatever the
order of their arrival, and the greatest authoritative reply count.
-/

namespace Raft.ThreadReplies

open Raft.Foundation

inductive SenderType where
  | user
  | agent
  | system
  | external_projection
  deriving DecidableEq

structure ThreadReplyPreview where
  messageId : JsString
  seq : Int
  preview : JsString
  senderId : JsString
  senderType : SenderType
  senderName : JsString
  senderDisplayName : Option JsString
  senderAvatarUrl : Option JsString
  createdAt : JsString
  deriving DecidableEq

/-- The optional fields tell an absent field from `null`. -/
structure ThreadRepliesScope where
  replies : List ThreadReplyPreview
  replyCount : ℚ
  snapshotSeq : Int
  historyLimited : Option Bool
  principalId : Option (Option JsString)
  parentMessageId : Option (Option JsString)
  threadChannelId : Option (Option JsString)
  epoch : Option (Option JsString)
  deriving DecidableEq

def INLINE_REPLY_CAP : Nat := 3

def emptyThreadRepliesScope : ThreadRepliesScope := ⟨[], 0, 0, none, none, none, none, none⟩

def isConversationReply (reply : ThreadReplyPreview) : Bool := reply.senderType ≠ .system

def sortBySeqAscending (replies : List ThreadReplyPreview) : List ThreadReplyPreview :=
  replies.insertionSort fun first second => first.seq ≤ second.seq

def applyThreadReplyFrame (scope : ThreadRepliesScope) (reply : ThreadReplyPreview)
    (authoritativeReplyCount : ℚ) : ThreadRepliesScope :=
  if reply.seq ≤ scope.snapshotSeq then scope
  else
    let nextReplyCount := max scope.replyCount authoritativeReplyCount
    if !isConversationReply reply then
      if nextReplyCount = scope.replyCount then scope
      else { scope with replyCount := nextReplyCount }
    else
      let withoutDuplicate := scope.replies.filter (·.messageId ≠ reply.messageId)
      let replies := keepLast INLINE_REPLY_CAP (sortBySeqAscending (withoutDuplicate ++ [reply]))
      let windowUnchanged :=
        replies.map ThreadReplyPreview.messageId = scope.replies.map ThreadReplyPreview.messageId
      if windowUnchanged ∧ nextReplyCount = scope.replyCount then scope
      else { scope with replies := replies, replyCount := nextReplyCount }

structure ThreadRepliesDomainEvent where
  parentMessageId : JsString
  threadChannelId : JsString
  replyCount : ℚ
  reply : ThreadReplyPreview
  deriving DecidableEq

def applyEvent (scope : ThreadRepliesScope) (event : ThreadRepliesDomainEvent) :
    ThreadRepliesScope :=
  applyThreadReplyFrame scope event.reply event.replyCount

def foldReplies (events : List ThreadRepliesDomainEvent) : ThreadRepliesScope :=
  events.foldl applyEvent emptyThreadRepliesScope

/-! ## What the scope shows -/

/-- Conversation replies whose sequence numbers tell their messages apart. -/
structure Distinguished (events : List ThreadRepliesDomainEvent) : Prop where
  conversation : ∀ event ∈ events, isConversationReply event.reply = true
  distinct : ∀ first ∈ events, ∀ second ∈ events,
    first.reply.messageId = second.reply.messageId ↔ first.reply.seq = second.reply.seq

theorem Distinguished.of_subset {events others : List ThreadRepliesDomainEvent}
    (h : Distinguished events) (hsubset : others ⊆ events) : Distinguished others where
  conversation event hevent := h.conversation event (hsubset hevent)
  distinct first hfirst second hsecond :=
    h.distinct first (hsubset hfirst) second (hsubset hsecond)

/-- The seam of a scope without a snapshot is zero. -/
def seqsAboveSeam (events : List ThreadRepliesDomainEvent) : List Int :=
  (events.map fun event => event.reply.seq).filter (0 < ·)

theorem mem_seqsAboveSeam {events : List ThreadRepliesDomainEvent} {seq : Int} :
    seq ∈ seqsAboveSeam events ↔ 0 < seq ∧ ∃ event ∈ events, event.reply.seq = seq := by
  simp [seqsAboveSeam, and_comm]

structure ShowsLatest (events : List ThreadRepliesDomainEvent) (scope : ThreadRepliesScope) :
    Prop where
  seam : scope.snapshotSeq = 0
  window : IsLatest INLINE_REPLY_CAP (seqsAboveSeam events)
    (scope.replies.map ThreadReplyPreview.seq)
  replies : ∀ reply ∈ scope.replies, ∃ event ∈ events, event.reply = reply
  counted : ∀ event ∈ events, 0 < event.reply.seq → event.replyCount ≤ scope.replyCount
  count : scope.replyCount = 0 ∨
    ∃ event ∈ events, 0 < event.reply.seq ∧ event.replyCount = scope.replyCount
  nonneg : 0 ≤ scope.replyCount

theorem showsLatest_empty : ShowsLatest [] emptyThreadRepliesScope where
  seam := rfl
  window := isLatest_nil
  replies _ h := absurd h List.not_mem_nil
  counted _ h := absurd h List.not_mem_nil
  count := .inl rfl
  nonneg := le_rfl

theorem map_seq_eq {events : List ThreadRepliesDomainEvent} (hdistinct : Distinguished events)
    {first second : List ThreadReplyPreview}
    (hfirst : ∀ reply ∈ first, ∃ event ∈ events, event.reply = reply)
    (hsecond : ∀ reply ∈ second, ∃ event ∈ events, event.reply = reply)
    (hids : first.map ThreadReplyPreview.messageId = second.map ThreadReplyPreview.messageId) :
    first.map ThreadReplyPreview.seq = second.map ThreadReplyPreview.seq := by
  induction first generalizing second with
  | nil => simp_all
  | cons reply first ih =>
      cases second with
      | nil => simp at hids
      | cons other second =>
          simp only [List.map_cons, List.cons.injEq, List.forall_mem_cons] at *
          obtain ⟨⟨event, hevent, rfl⟩, hrest⟩ := hfirst
          obtain ⟨⟨another, hanother, rfl⟩, hothers⟩ := hsecond
          exact ⟨(hdistinct.distinct event hevent another hanother).mp hids.1,
            ih hrest hothers hids.2⟩

theorem map_seq_insert {events : List ThreadRepliesDomainEvent} (hdistinct : Distinguished events)
    {replies : List ThreadReplyPreview}
    (hreplies : ∀ reply ∈ replies, ∃ event ∈ events, event.reply = reply)
    {event : ThreadRepliesDomainEvent} (hevent : event ∈ events) :
    (keepLast INLINE_REPLY_CAP (sortBySeqAscending
      (replies.filter (·.messageId ≠ event.reply.messageId) ++ [event.reply]))).map
        ThreadReplyPreview.seq =
      insertLatest INLINE_REPLY_CAP (replies.map ThreadReplyPreview.seq) event.reply.seq := by
  have hfilter : (replies.filter (·.messageId ≠ event.reply.messageId)).map
      ThreadReplyPreview.seq =
      (replies.map ThreadReplyPreview.seq).filter (· ≠ event.reply.seq) := by
    rw [List.filter_map]
    congr 1
    refine List.filter_congr fun reply hreply => ?_
    obtain ⟨other, hother, rfl⟩ := hreplies reply hreply
    simp [hdistinct.distinct other hother event hevent]
  have hsort : ∀ replies : List ThreadReplyPreview,
      (sortBySeqAscending replies).map ThreadReplyPreview.seq =
        (replies.map ThreadReplyPreview.seq).insertionSort (· ≤ ·) :=
    fun replies => List.map_insertionSort _ _ _ _ fun _ _ _ _ => Iff.rfl
  rw [map_keepLast, insertLatest, hsort, List.map_append, hfilter, List.map_singleton]

theorem ShowsLatest.applyEvent {events : List ThreadRepliesDomainEvent}
    {scope : ThreadRepliesScope} (h : ShowsLatest events scope)
    {event : ThreadRepliesDomainEvent} (hdistinct : Distinguished (events ++ [event])) :
    ShowsLatest (events ++ [event]) (applyEvent scope event) := by
  have hseqs : seqsAboveSeam (events ++ [event]) =
      seqsAboveSeam events ++ [event.reply.seq].filter (0 < ·) := by
    simp [seqsAboveSeam]
  have hreplies : ∀ reply ∈ scope.replies, ∃ other ∈ events ++ [event], other.reply = reply := by
    intro reply hreply
    obtain ⟨other, hother, rfl⟩ := h.replies reply hreply
    exact ⟨other, List.mem_append_left _ hother, rfl⟩
  have hconversation := hdistinct.conversation event (by simp)
  simp only [ThreadReplies.applyEvent, applyThreadReplyFrame, h.seam, hconversation, Bool.not_true,
    Bool.false_eq_true, if_false]
  split
  · next hbelow =>
      have hsame : seqsAboveSeam (events ++ [event]) = seqsAboveSeam events := by
        simp [hseqs, hbelow]
      refine ⟨h.seam, hsame ▸ h.window, hreplies, ?_, ?_, h.nonneg⟩
      · intro other hother hpos
        rcases List.mem_append.mp hother with hold | hnew
        · exact h.counted other hold hpos
        · obtain rfl := List.mem_singleton.mp hnew
          exact absurd hpos (not_lt.mpr hbelow)
      · refine h.count.imp_right ?_
        rintro ⟨other, hother, hcount⟩
        exact ⟨other, List.mem_append_left _ hother, hcount⟩
  · next habove =>
      rw [not_le] at habove
      have hgrown : seqsAboveSeam (events ++ [event]) =
          seqsAboveSeam events ++ [event.reply.seq] := by
        simp [hseqs, habove]
      have hinserted := map_seq_insert hdistinct hreplies (show event ∈ events ++ [event] by simp)
      have hwindow := h.window.insert event.reply.seq
      rw [← hgrown, ← hinserted] at hwindow
      have hmembers : ∀ reply ∈ keepLast INLINE_REPLY_CAP (sortBySeqAscending
          (scope.replies.filter (·.messageId ≠ event.reply.messageId) ++ [event.reply])),
          ∃ other ∈ events ++ [event], other.reply = reply := by
        intro reply hreply
        have hsorted := (List.drop_sublist _ _).subset hreply
        rw [sortBySeqAscending, List.mem_insertionSort, List.mem_append, List.mem_filter,
          List.mem_singleton] at hsorted
        rcases hsorted with ⟨hold, -⟩ | rfl
        · exact hreplies reply hold
        · exact ⟨event, by simp, rfl⟩
      have hcounted : ∀ other ∈ events ++ [event], 0 < other.reply.seq →
          other.replyCount ≤ max scope.replyCount event.replyCount := by
        intro other hother hpos
        rcases List.mem_append.mp hother with hold | hnew
        · exact (h.counted other hold hpos).trans (le_max_left _ _)
        · obtain rfl := List.mem_singleton.mp hnew
          exact le_max_right _ _
      have hcount : max scope.replyCount event.replyCount = 0 ∨ ∃ other ∈ events ++ [event],
          0 < other.reply.seq ∧ other.replyCount = max scope.replyCount event.replyCount := by
        rcases le_total scope.replyCount event.replyCount with hle | hle
        · rw [max_eq_right hle]
          exact .inr ⟨event, by simp, habove, rfl⟩
        · rw [max_eq_left hle]
          refine h.count.imp_right ?_
          rintro ⟨other, hother, hattained⟩
          exact ⟨other, List.mem_append_left _ hother, hattained⟩
      split
      · next hunchanged =>
          refine ⟨h.seam, ?_, hreplies, ?_, ?_, h.nonneg⟩
          · rw [← map_seq_eq hdistinct hmembers hreplies hunchanged.1]
            exact hwindow
          · exact hunchanged.2 ▸ hcounted
          · exact hunchanged.2 ▸ hcount
      · exact ⟨rfl, hwindow, hmembers, hcounted, hcount, h.nonneg.trans (le_max_left _ _)⟩

theorem showsLatest_foldReplies {events : List ThreadRepliesDomainEvent}
    (hdistinct : Distinguished events) : ShowsLatest events (foldReplies events) := by
  induction events using List.reverseRecOn with
  | nil => exact showsLatest_empty
  | append_singleton events event ih =>
      rw [foldReplies, List.foldl_append]
      exact (ih (hdistinct.of_subset (List.subset_append_left _ _))).applyEvent hdistinct

end Raft.ThreadReplies
