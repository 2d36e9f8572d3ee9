import Raft.Foundation.JsString
import Raft.Foundation.KeyedRows

/-!
# The inbox reducer

The inbox is a window of rows with two counters that the server also keeps.
Loads, reconciliations, filter switches and local patches all pass through
`applyInboxEvent`, which answers with the next state and a summary of the
transition.
-/

namespace Raft.InboxEvents

open Raft.Foundation

inductive InboxFilter where
  | all
  | unread
  | mentions
  | unread_mentions
  deriving DecidableEq

def isUnreadInboxFilter (filter : InboxFilter) : Bool :=
  filter = .unread || filter = .unread_mentions

/-- What identifies a row, and the fields its marker is made from. -/
inductive InboxSource where
  | channel (channelId lastMessageId : JsString)
  | dm (channelId lastMessageId : JsString)
  | thread (threadChannelId : JsString) (lastReplyAt : Option JsString) (replyCount : Nat)
  | mention_action (id : JsString)
  deriving DecidableEq

/-- `rest` is everything the reducer copies without reading it. -/
structure InboxItem (ρ : Type) where
  source : InboxSource
  unreadCount : Int
  hasMention : Bool
  firstUnreadMessageId : Option JsString
  rest : ρ
  deriving DecidableEq

variable {ρ : Type}

def getInboxItemKey (item : InboxItem ρ) : JsString :=
  match item.source with
  | .mention_action id => js "mention_action:" ++ id
  | .thread threadChannelId _ _ => js "thread:" ++ threadChannelId
  | .channel channelId _ => js "channel:" ++ channelId
  | .dm channelId _ => js "dm:" ++ channelId

def inboxItemMarker (item : InboxItem ρ) : JsString :=
  match item.source with
  | .thread threadChannelId lastReplyAt replyCount =>
      threadChannelId ++ js ":" ++ lastReplyAt.getD (decimalText replyCount)
  | .mention_action id => id
  | .channel _ lastMessageId => lastMessageId
  | .dm _ lastMessageId => lastMessageId

structure InboxDomainState (ρ : Type) where
  filter : InboxFilter
  items : List (InboxItem ρ)
  hasMore : Bool
  totalCount : Int
  totalUnreadCount : Int
  deriving DecidableEq

inductive InboxPatchEvent (ρ : Type) where
  | item_upsert (item : InboxItem ρ) (marker : JsString)
  | item_read (itemKey : JsString)
  | all_read
  | item_done (itemKey : JsString)

inductive InboxEvent (ρ : Type) where
  | hydrate (filter : InboxFilter) (reset : Bool) (items : List (InboxItem ρ)) (hasMore : Bool)
      (totalCount totalUnreadCount : Option Int)
  | patch (patch : InboxPatchEvent ρ)
  | reconcile (filter : InboxFilter) (items : List (InboxItem ρ)) (hasMore : Bool)
      (totalCount totalUnreadCount : Option Int)
  | filter (filter : InboxFilter)

inductive InboxTransitionEvent where
  | hydrate
  | reconcile
  | filter
  | patch_item_upsert
  | patch_item_read
  | patch_all_read
  | patch_item_done
  deriving DecidableEq

structure InboxTransition where
  event : InboxTransitionEvent
  touched : Nat
  totalUnreadDelta : Int
  reconcileSuggested : Bool
  deriving DecidableEq

structure InboxApplyResult (ρ : Type) where
  state : InboxDomainState ρ
  transition : InboxTransition

def dedupeByKey (items : List (InboxItem ρ)) : List (InboxItem ρ) :=
  firstRows getInboxItemKey [] items

def unreadSum (items : List (InboxItem ρ)) : Int := totalWeight (·.unreadCount) items

def serverTotalCount (merged : List (InboxItem ρ)) : Option Int → Int
  | none => merged.length
  | some totalCount => max 0 totalCount

def serverTotalUnreadCount (merged : List (InboxItem ρ)) : Option Int → Int
  | none => unreadSum merged
  | some totalUnreadCount => max 0 totalUnreadCount

/-- The state with the rows, and the totals that `withServerTotals` computes for them. -/
def withServerTotals (state : InboxDomainState ρ) (merged : List (InboxItem ρ)) (hasMore : Bool)
    (totalCount totalUnreadCount : Option Int) : InboxDomainState ρ :=
  { state with
    items := merged
    hasMore := hasMore
    totalCount := serverTotalCount merged totalCount
    totalUnreadCount := serverTotalUnreadCount merged totalUnreadCount }

def markItemRead (item : InboxItem ρ) : InboxItem ρ :=
  if item.unreadCount = 0 ∧ item.hasMention = false then item
  else { item with unreadCount := 0, firstUnreadMessageId := none, hasMention := false }

def noop (state : InboxDomainState ρ) (event : InboxTransitionEvent) : InboxApplyResult ρ :=
  ⟨state, ⟨event, 0, 0, false⟩⟩

def findItem (state : InboxDomainState ρ) (key : JsString) : Option (InboxItem ρ) :=
  findRow getInboxItemKey key state.items

def withoutKey (items : List (InboxItem ρ)) (key : JsString) : List (InboxItem ρ) :=
  items.filter fun item => getInboxItemKey item ≠ key

def applyUpsert (state : InboxDomainState ρ) (item : InboxItem ρ) (marker : JsString) :
    InboxApplyResult ρ :=
  match state.items.findIdx? fun other => getInboxItemKey other = getInboxItemKey item with
  | some existingIndex =>
      match state.items[existingIndex]? with
      | some previous =>
          if inboxItemMarker previous = marker then noop state .patch_item_upsert
          else
            ⟨{ state with
                items := state.items.set existingIndex item
                totalUnreadCount :=
                  max 0 (state.totalUnreadCount + (item.unreadCount - previous.unreadCount)) },
              ⟨.patch_item_upsert, 1, item.unreadCount - previous.unreadCount, false⟩⟩
      | none => noop state .patch_item_upsert
  | none =>
      if state.filter ≠ .all ∧ state.filter ≠ .unread then
        ⟨state, ⟨.patch_item_upsert, 0, 0, true⟩⟩
      else
        ⟨{ state with
            items := item :: state.items
            totalCount := state.totalCount + 1
            totalUnreadCount := max 0 (state.totalUnreadCount + item.unreadCount) },
          ⟨.patch_item_upsert, 1, item.unreadCount, false⟩⟩

def applyItemRead (state : InboxDomainState ρ) (itemKey : JsString) : InboxApplyResult ρ :=
  match findItem state itemKey with
  | none => noop state .patch_item_read
  | some target =>
      if target.unreadCount ≤ 0 then noop state .patch_item_read
      else
        ⟨{ state with
            items :=
              if isUnreadInboxFilter state.filter then withoutKey state.items itemKey
              else updateRow getInboxItemKey itemKey markItemRead state.items
            totalCount :=
              if isUnreadInboxFilter state.filter then max 0 (state.totalCount - 1)
              else state.totalCount
            totalUnreadCount := max 0 (state.totalUnreadCount + -target.unreadCount) },
          ⟨.patch_item_read, 1, -target.unreadCount, false⟩⟩

def applyAllRead (state : InboxDomainState ρ) : InboxApplyResult ρ :=
  if state.totalUnreadCount = 0 then noop state .patch_all_read
  else
    ⟨{ state with
        items := if isUnreadInboxFilter state.filter then [] else state.items.map markItemRead
        totalCount := if isUnreadInboxFilter state.filter then 0 else state.totalCount
        totalUnreadCount := 0 },
      ⟨.patch_all_read, (state.items.filter fun item => 0 < item.unreadCount).length,
        -state.totalUnreadCount, false⟩⟩

def applyItemDone (state : InboxDomainState ρ) (itemKey : JsString) : InboxApplyResult ρ :=
  match findItem state itemKey with
  | none => noop state .patch_item_done
  | some target =>
      ⟨{ state with
          items := withoutKey state.items itemKey
          totalCount := max 0 (state.totalCount - 1)
          totalUnreadCount := max 0 (state.totalUnreadCount - target.unreadCount) },
        ⟨.patch_item_done, 1, -target.unreadCount, false⟩⟩

def applyPatch (state : InboxDomainState ρ) : InboxPatchEvent ρ → InboxApplyResult ρ
  | .item_upsert item marker => applyUpsert state item marker
  | .item_read itemKey => applyItemRead state itemKey
  | .all_read => applyAllRead state
  | .item_done itemKey => applyItemDone state itemKey

def mergedWindow (state : InboxDomainState ρ) (reset : Bool) (items : List (InboxItem ρ)) :
    List (InboxItem ρ) :=
  dedupeByKey (if reset then items else state.items ++ items)

def applyInboxEvent (state : InboxDomainState ρ) : InboxEvent ρ → InboxApplyResult ρ
  | .hydrate filter reset items hasMore totalCount totalUnreadCount =>
      if filter ≠ state.filter then noop state .hydrate
      else
        let next := withServerTotals state (mergedWindow state reset items) hasMore totalCount
          totalUnreadCount
        ⟨next, ⟨.hydrate, items.length, next.totalUnreadCount - state.totalUnreadCount, false⟩⟩
  | .reconcile filter items hasMore totalCount totalUnreadCount =>
      if filter ≠ state.filter then noop state .reconcile
      else
        let next := withServerTotals state (dedupeByKey items) hasMore totalCount totalUnreadCount
        ⟨next, ⟨.reconcile, (dedupeByKey items).length,
          next.totalUnreadCount - state.totalUnreadCount, false⟩⟩
  | .filter filter =>
      if filter = state.filter then noop state .filter
      else
        ⟨{ filter := filter, items := [], hasMore := true, totalCount := 0, totalUnreadCount := 0 },
          ⟨.filter, 1, -state.totalUnreadCount, false⟩⟩
  | .patch patch => applyPatch state patch

def emptyInbox (filter : InboxFilter) (hasMore : Bool) : InboxDomainState ρ :=
  ⟨filter, [], hasMore, 0, 0⟩

end Raft.InboxEvents
