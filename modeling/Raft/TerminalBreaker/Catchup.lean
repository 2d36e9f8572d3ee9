import Raft.Foundation.InsertionMap
import Raft.Foundation.JsString

/-!
# The catch-up obligation

The messages an agent is owed after its wakes were refused.  A ceiling for each
conversation, up to a bound, past which every unread row is owed; an echoed batch
advances the conversation's cursor as far as it rendered every row in order.
-/

namespace Raft.TerminalBreaker

open Raft.Foundation

def TERMINAL_FAILURE_OWED_CONVERSATIONS_MAX : Nat := 64

structure CatchupCoverage where
  conversationId : JsString
  /-- The lower bound used: the greater of the read cursor and the obligation cursor. -/
  fromSeqExclusive : Int
  coveredUpToSeq : Int
  truncated : Bool
  deriving DecidableEq

structure CatchupBatchMessage where
  id : JsString
  conversationId : JsString
  seq : Int
  inPrefix : Bool
  deriving DecidableEq

structure CatchupCursorSettlement where
  conversationId : JsString
  readCursor : Int
  ceiling : Int
  deriving DecidableEq

structure CatchupBatch where
  batchId : JsString
  launchId : JsString
  builtAtMs : Int
  coverage : List CatchupCoverage
  messages : List CatchupBatchMessage
  candidateCapHit : Bool
  allUnreadCovered : Bool
  settledByCursor : List CatchupCursorSettlement
  deriving DecidableEq

structure CatchupObligation where
  owedCeilings : InsertionMap JsString Int
  /-- Too many conversations or state lost: every unread row is owed. -/
  owedOverflow : Bool
  obligationCursor : InsertionMap JsString Int
  pendingBatch : Option CatchupBatch
  engagedByFailure : Bool

inductive CatchupObligationOrigin where
  | failure
  | identityWait
  deriving DecidableEq

def emptyObligation : CatchupObligation where
  owedCeilings := .empty
  owedOverflow := false
  obligationCursor := .empty
  pendingBatch := none
  engagedByFailure := false

def raiseCeiling (obligation : CatchupObligation) (entry : JsString × Int) : CatchupObligation :=
  match obligation.owedCeilings.get entry.1 with
  | some existing =>
      { obligation with
        owedCeilings := obligation.owedCeilings.set entry.1 (max existing entry.2) }
  | none =>
      if TERMINAL_FAILURE_OWED_CONVERSATIONS_MAX ≤ obligation.owedCeilings.keys.length then
        { obligation with owedOverflow := true }
      else
        { obligation with owedCeilings := obligation.owedCeilings.set entry.1 entry.2 }

/-- Without ceilings the unread set is not known, and every unread row is owed. -/
def raiseCatchupObligation (current : Option CatchupObligation)
    (ceilings : Option (InsertionMap JsString Int)) (origin : CatchupObligationOrigin) :
    CatchupObligation :=
  let obligation := current.getD emptyObligation
  let obligation :=
    if origin = .failure then { obligation with engagedByFailure := true } else obligation
  match ceilings with
  | none => { obligation with owedOverflow := true }
  | some ceilings => ceilings.entries.foldl raiseCeiling obligation

def catchupLowerBound (obligation : Option CatchupObligation) (conversationId : JsString)
    (readCursor : Int) : Int :=
  match obligation.bind fun obligation => obligation.obligationCursor.get conversationId with
  | none => readCursor
  | some obligationCursor => max readCursor obligationCursor

def isConversationFulfilled (obligation : CatchupObligation) (conversationId : JsString) : Bool :=
  match obligation.owedCeilings.get conversationId with
  | none => true
  | some ceiling =>
      match obligation.obligationCursor.get conversationId with
      | none => false
      | some cursor => decide (ceiling ≤ cursor)

def isCatchupObligationFulfilled (obligation : CatchupObligation) : Bool :=
  !obligation.owedOverflow &&
    obligation.owedCeilings.keys.all (isConversationFulfilled obligation)

structure CatchupConversation where
  conversationId : JsString
  fromSeqExclusive : Int
  latestSeq : Int
  /-- More deliverable rows exist above the fetched ones. -/
  truncated : Bool
  /-- Every deliverable seq that the row query returned above the lower bound, ascending. -/
  fetchedSeqs : List Int
  deriving DecidableEq

structure RenderedRow where
  id : JsString
  conversationId : JsString
  seq : Int
  /-- The wake message that was folded in. -/
  appendedOutOfOrder : Bool
  deriving DecidableEq

structure CatchupBatchBuildInput where
  batchId : JsString
  launchId : JsString
  builtAtMs : Int
  conversations : List CatchupConversation
  rendered : List RenderedRow
  candidateCapHit : Bool
  unreadLatestSeqs : InsertionMap JsString Int

def scanFetched (fromSeqExclusive : Int) (renderedInOrder : List Int) :
    Int → List Int → Int × Bool
  | covered, [] => (covered, true)
  | covered, seq :: rest =>
      if seq ≤ fromSeqExclusive then
        scanFetched fromSeqExclusive renderedInOrder covered rest
      else if seq ∉ renderedInOrder then
        (covered, false)
      else
        scanFetched fromSeqExclusive renderedInOrder seq rest

def conversationCoverage (c : CatchupConversation) (renderedInOrder : List Int) : Int :=
  let (covered, all) :=
    scanFetched c.fromSeqExclusive renderedInOrder c.fromSeqExclusive c.fetchedSeqs
  if all && !c.truncated && decide (c.fromSeqExclusive < covered) then
    max covered c.latestSeq
  else
    covered

/-- A map filled entry by entry: a later entry of one key stands. -/
def mapOf {α : Type} (entries : List (JsString × α)) : InsertionMap JsString α :=
  entries.foldl (fun map entry => map.set entry.1 entry.2) .empty

structure RenderedRows where
  lastRendered : InsertionMap JsString Int
  renderedInOrder : InsertionMap JsString (List Int)

def renderRow (byConversation : InsertionMap JsString CatchupConversation) (rows : RenderedRows)
    (row : RenderedRow) : RenderedRows :=
  if row.appendedOutOfOrder || (byConversation.get row.conversationId).isNone then
    rows
  else if (rows.lastRendered.get row.conversationId).any fun previous =>
    decide (row.seq ≤ previous) then
    rows
  else
    { lastRendered := rows.lastRendered.set row.conversationId row.seq
      renderedInOrder := rows.renderedInOrder.set row.conversationId
        ((rows.renderedInOrder.get row.conversationId).getD [] ++ [row.seq]) }

def conversationsById (input : CatchupBatchBuildInput) :
    InsertionMap JsString CatchupConversation :=
  mapOf (input.conversations.map fun c => (c.conversationId, c))

def renderedRows (input : CatchupBatchBuildInput) : RenderedRows :=
  input.rendered.foldl (renderRow (conversationsById input)) ⟨.empty, .empty⟩

def renderedInOrder (input : CatchupBatchBuildInput) (conversationId : JsString) : List Int :=
  ((renderedRows input).renderedInOrder.get conversationId).getD []

def coverageOf (input : CatchupBatchBuildInput) : List CatchupCoverage :=
  input.conversations.map fun c =>
    { conversationId := c.conversationId
      fromSeqExclusive := c.fromSeqExclusive
      coveredUpToSeq := conversationCoverage c (renderedInOrder input c.conversationId)
      truncated := c.truncated }

def batchMessage (byConversation : InsertionMap JsString CatchupConversation)
    (coveredBy : InsertionMap JsString CatchupCoverage) (row : RenderedRow) :
    CatchupBatchMessage where
  id := row.id
  conversationId := row.conversationId
  seq := row.seq
  inPrefix :=
    match byConversation.get row.conversationId, coveredBy.get row.conversationId with
    | some conversation, some entry =>
        !row.appendedOutOfOrder && decide (row.seq ∈ conversation.fetchedSeqs) &&
          decide (entry.fromSeqExclusive < row.seq) && decide (row.seq ≤ entry.coveredUpToSeq)
    | _, _ => false

def buildCatchupBatch (input : CatchupBatchBuildInput) : CatchupBatch :=
  let coverage := coverageOf input
  let coveredBy := mapOf (coverage.map fun entry => (entry.conversationId, entry))
  let finalCoverage :=
    mapOf (coverage.map fun entry => (entry.conversationId, entry.coveredUpToSeq))
  { batchId := input.batchId
    launchId := input.launchId
    builtAtMs := input.builtAtMs
    coverage
    messages := input.rendered.map (batchMessage (conversationsById input) coveredBy)
    candidateCapHit := input.candidateCapHit
    allUnreadCovered := !input.candidateCapHit &&
      input.unreadLatestSeqs.entries.all fun entry =>
        (finalCoverage.get entry.1).any fun covered => decide (entry.2 ≤ covered)
    settledByCursor := [] }

structure CursorSettling where
  obligation : CatchupObligation
  settled : List CatchupCursorSettlement

def settleConversation (readCursors : InsertionMap JsString Int) (settling : CursorSettling)
    (owed : JsString × Int) : CursorSettling :=
  match readCursors.get owed.1 with
  | none => settling
  | some readCursor =>
      if readCursor < owed.2 || isConversationFulfilled settling.obligation owed.1 then
        settling
      else
        let cursor := max ((settling.obligation.obligationCursor.get owed.1).getD owed.2) owed.2
        { obligation := { settling.obligation with
            obligationCursor := settling.obligation.obligationCursor.set owed.1 cursor }
          settled := settling.settled ++ [⟨owed.1, readCursor, owed.2⟩] }

theorem foldl_settleConversation (readCursors : InsertionMap JsString Int)
    (owed : List (JsString × Int)) (settling : CursorSettling) :
    ∃ cursor, (owed.foldl (settleConversation readCursors) settling).obligation =
      { settling.obligation with obligationCursor := cursor } := by
  induction owed generalizing settling with
  | nil => exact ⟨settling.obligation.obligationCursor, rfl⟩
  | cons entry rest ih =>
      obtain ⟨cursor, hrest⟩ := ih (settleConversation readCursors settling entry)
      refine ⟨cursor, hrest.trans ?_⟩
      rw [settleConversation]
      split
      · rfl
      · split <;> rfl

def settleCatchupByReadCursor (obligation : CatchupObligation)
    (readCursors : InsertionMap JsString Int) :
    Option CatchupObligation × List CatchupCursorSettlement :=
  let next :=
    obligation.owedCeilings.entries.foldl (settleConversation readCursors) ⟨obligation, []⟩
  if next.settled.isEmpty then
    (some obligation, next.settled)
  else
    (if isCatchupObligationFulfilled next.obligation then none else some next.obligation,
      next.settled)

theorem settleCatchupByReadCursor_eq {obligation next : CatchupObligation}
    {readCursors : InsertionMap JsString Int}
    (h : (settleCatchupByReadCursor obligation readCursors).1 = some next) :
    ∃ cursor, next = { obligation with obligationCursor := cursor } := by
  obtain ⟨cursor, hfold⟩ := foldl_settleConversation readCursors obligation.owedCeilings.entries
    ⟨obligation, []⟩
  rw [settleCatchupByReadCursor] at h
  dsimp only at h hfold
  split_ifs at h with hsettled hfulfilled
  · cases h
    exact ⟨obligation.obligationCursor, rfl⟩
  · cases h
    exact ⟨cursor, hfold⟩

def echoCoverage (cursor : InsertionMap JsString Int) (entry : CatchupCoverage) :
    InsertionMap JsString Int :=
  match cursor.get entry.conversationId with
  | none => cursor.set entry.conversationId entry.coveredUpToSeq
  | some existing => cursor.set entry.conversationId (max existing entry.coveredUpToSeq)

/-- Only a complete batch settles an overflow. -/
def isCompleteBatch (batch : CatchupBatch) : Bool :=
  !batch.candidateCapHit && batch.allUnreadCovered &&
    batch.coverage.all fun entry => !entry.truncated

def applyCatchupEcho (obligation : CatchupObligation) (batch : CatchupBatch) :
    Option CatchupObligation :=
  let pendingBatch :=
    match obligation.pendingBatch with
    | some pending => if pending.batchId = batch.batchId then none else some pending
    | none => none
  let next : CatchupObligation :=
    { obligation with
      obligationCursor := batch.coverage.foldl echoCoverage obligation.obligationCursor
      owedOverflow := obligation.owedOverflow && !isCompleteBatch batch
      pendingBatch }
  if isCatchupObligationFulfilled next then none else some next

end Raft.TerminalBreaker
