import Raft.Foundation.Sql
import Raft.SeenPolicy.MemoryStore

/-!
# The agent ledger of the command line

The command state store over SQLite: one table each for stream rows, exact seqs
and target aliases, and the read-order counter as text in the `meta` table.
The column `seqs` holds the JSON text of an array of numbers and is kept here as
that array.  Every transaction commits.
-/

namespace Raft.AgentLedger

open Raft.Foundation Raft.SeenPolicy

structure Ledger where
  metaRows : Sql.Table JsString JsString
  streams : Sql.Table JsString StreamRow
  streamExactSeqs : Sql.Table JsString ExactRow
  targetAliases : Sql.Table JsString JsString

/-- A fresh database; the `meta` table starts with its two defaults. -/
def emptyLedger : Ledger where
  metaRows := ((Sql.Table.empty.insertOrReplace (js "version") (js "1")).insertOrReplace
    (js "nextReadOrder") (js "1"))
  streams := .empty
  streamExactSeqs := .empty
  targetAliases := .empty

/-- `Number(text)`, on the decimal texts that `String` writes. -/
def numberOfText (text : JsString) : JsNumber :=
  if isCanonicalDecimal text then .ofNat (decimalValue text) else .nan

namespace Ledger

variable (ledger : Ledger)

/-! ## Streams -/

def readStreamEntry (target : JsString) : Option CommandStateStreamEntry :=
  match ledger.streams.select target with
  | none => none
  | some row =>
      if row.seq = none ∧ row.readOrder = none then none
      else some ⟨row.seq, row.readOrder, row.contextId⟩

/-- `rows` is the answer of the `SELECT`; the result is given by its own properties. -/
def readAllStreamEntries (rows : List (JsString × StreamRow)) :
    PlainObject CommandStateStreamEntry :=
  rows.foldl (fun entries row =>
    if row.2.seq = none ∧ row.2.readOrder = none then entries
    else entries.set row.1 ⟨row.2.seq, row.2.readOrder, row.2.contextId⟩) .empty

/-- `positiveFiniteNumber(Number(orderRow?.value)) ?? 1` -/
def nextReadOrder : ℕ+ :=
  ((ledger.metaRows.select (js "nextReadOrder")).bind fun value =>
    (numberOfText value).positiveInteger).getD 1

def readExactSeqsRow (target : JsString) : List ℕ+ :=
  match ledger.streamExactSeqs.select target with
  | none => []
  | some row => normalizeSeqs row.seqs 0

def pruneExactSeqsBelow (target : JsString) (afterSeq : ℚ) : Ledger :=
  if afterSeq ≤ 0 then ledger
  else
    let kept := normalizeSeqs (ledger.readExactSeqsRow target) afterSeq
    if kept = [] then
      { ledger with
        streamExactSeqs := ledger.streamExactSeqs.deleteWhere target fun _ => some true }
    else
      { ledger with
        streamExactSeqs :=
          ledger.streamExactSeqs.updateWhere target fun row => { row with seqs := kept } }

def onConflict (streams excluded : StreamRow) : StreamRow where
  seq := Sql.caseWhen
    [(Sql.isNot streams.contextId excluded.contextId, excluded.seq),
      (Sql.isNull excluded.seq, streams.seq),
      (Sql.either (Sql.isNull streams.seq) (Sql.greater excluded.seq streams.seq), excluded.seq)]
    streams.seq
  readOrder := excluded.readOrder
  contextId := excluded.contextId

/-- One turn of the loop; the counter is a local variable until the transaction's end. -/
def bookStreamEntry (contextId : Option JsString) (state : Ledger × ℕ+) (target : JsString)
    (seq : Option JsNumber) : Ledger × ℕ+ :=
  let (ledger, nextReadOrder) := state
  let ledger := { ledger with
    streamExactSeqs := ledger.streamExactSeqs.deleteWhere target fun row =>
      Sql.isNot row.contextId contextId
    streams := ledger.streams.upsert target
      ⟨seq.bind JsNumber.positiveFinite, some nextReadOrder, contextId⟩ onConflict }
  let floor := ((ledger.streams.select target).bind StreamRow.seq).map Subtype.val
  (ledger.pruneExactSeqsBelow target (floor.getD 0), nextReadOrder + 1)

def bookStreamEntries (entries : List (JsString × Option JsNumber))
    (contextId : Option JsString) : Ledger :=
  let updates := entries.filter fun entry => entry.1.length > 0
  if updates = [] then ledger
  else
    let (ledger, nextReadOrder) := updates.foldl
      (fun state entry => bookStreamEntry contextId state entry.1 entry.2)
      (ledger, ledger.nextReadOrder)
    { ledger with
      metaRows :=
        ledger.metaRows.updateWhere (js "nextReadOrder") fun _ => decimalText nextReadOrder }

/-! ## Exact seqs -/

/-- The high-water mark only bounds exact seqs booked in the same context. -/
def exactFloor (target : JsString) (contextId : Option JsString) : ℚ :=
  match ledger.streams.select target with
  | some stream =>
      if stream.contextId = contextId then (stream.seq.map Subtype.val).getD 0 else 0
  | none => 0

def readExactSeqsWithContext (target : JsString) : List ℕ+ × Option JsString :=
  let contextId := (ledger.streamExactSeqs.select target).bind ExactRow.contextId
  (normalizeSeqs (ledger.readExactSeqsRow target) (ledger.exactFloor target contextId), contextId)

def bookExactSeq (contextId : Option JsString) (target : JsString) (seqs : List ℕ+) : Ledger :=
  let existing := ledger.streamExactSeqs.select target
  let sameContext := existing.any fun row => row.contextId = contextId
  let merged := normalizeSeqs
    ((if sameContext then ledger.readExactSeqsRow target else []) ++ seqs)
    (ledger.exactFloor target contextId)
  if merged.length > 0 then
    { ledger with
      streamExactSeqs := ledger.streamExactSeqs.insertOrReplace target ⟨merged, contextId⟩ }
  else ledger

def bookExactSeqs (entries : List (JsString × List JsNumber)) (contextId : Option JsString) :
    Ledger :=
  let updates := (entries.map fun entry => (entry.1, normalizeExactSeqs entry.2 0)).filter
    fun update => update.1.length > 0 && update.2.length > 0
  updates.foldl (fun ledger update => ledger.bookExactSeq contextId update.1 update.2) ledger

/-! ## Aliases -/

def resolveCanonicalTarget (target : JsString) : JsString :=
  followAliases ledger.targetAliases.rows [target] target

def bookTargetAlias (rawSpelling canonicalTarget : JsString) : Ledger :=
  if !isTrustedCanonicalTarget rawSpelling || !isTrustedCanonicalTarget canonicalTarget ||
      rawSpelling = canonicalTarget then ledger
  else
    { ledger with
      targetAliases := ledger.targetAliases.insertOrReplace rawSpelling canonicalTarget }

end Ledger

end Raft.AgentLedger
