import Mathlib.Logic.Function.Basic
import Raft.ActivityServer.Tables

/-!
# Reconciling one window

One transaction reads the canonical window of a filter and brings the tables of
its scope up to date: changed rows get a version of the principal's authority,
absent rows are buried, every effect is appended to the change log, and a full
log starts a new epoch.
-/

namespace Raft.ActivityServer

open Raft.Foundation Raft.Activity

def CHANGE_RETENTION : Nat := 2048

/-- What `readCanonicalWindow` returns: at most one row per `rowId`. -/
structure CanonicalWindow where
  rows : List ActivityRowPayload
  metadata : ScopeMetadata
  distinct : (rows.map ActivityRowPayload.rowId).Nodup

/-- One call: the filter, the canonical window, the reasons that `tombstoneReasons` finds, and
the order in which the unordered select returns the scope's rows. -/
structure ReconcileInput where
  filter : ActivityFilter
  canonical : CanonicalWindow
  reasons : RowId → TombstoneReason
  scan : List RowId

structure Reconciling where
  principalVersion : Nat
  authorities : RowId → Option RowAuthority
  rows : InsertionMap RowId RowRecord
  pending : List Change

namespace Reconciling

def issueVersion (work : Reconciling) (rowId : RowId) (payloadDigest : Option JsString) :
    Reconciling :=
  { work with
    principalVersion := work.principalVersion + 1
    authorities := Function.update work.authorities rowId
      (some ⟨work.principalVersion + 1, payloadDigest⟩) }

def writeActive (work : Reconciling) (payload : ActivityRowPayload) (payloadDigest : JsString)
    (rowVersion : Nat) : Reconciling :=
  { work with
    rows := work.rows.set payload.rowId (.active rowVersion payload payloadDigest)
    pending := work.pending ++ [.upsert rowVersion payload] }

def writeInactive (work : Reconciling) (rowId : RowId) (reason : TombstoneReason)
    (rowVersion : Nat) : Reconciling :=
  { work with
    rows := work.rows.set rowId (.inactive rowVersion reason)
    pending := work.pending ++ [.tombstone rowId rowVersion reason] }

end Reconciling

def unchanged (current : Option RowRecord) (payloadDigest : JsString) : Bool :=
  match current with
  | some (.active _ _ currentDigest) => currentDigest = payloadDigest
  | _ => false

/-- The version another filter has already issued for this payload, where it is newer than the
scope's own. -/
def reusableVersion (authority : Option RowAuthority) (current : Option RowRecord)
    (payloadDigest : JsString) : Option Nat :=
  match authority with
  | none => none
  | some authority =>
      if authority.active && authority.payloadDigest = some payloadDigest &&
          (match current with
            | none => true
            | some record => record.rowVersion < authority.lastVersion) then
        some authority.lastVersion
      else none

section

variable (digest : JsValue → JsString)

def reconcileRow (before work : Reconciling) (payload : ActivityRowPayload) : Reconciling :=
  let payloadDigest := digest (.object payload.fields)
  let current := before.rows.get payload.rowId
  if unchanged current payloadDigest then work
  else
    match reusableVersion (before.authorities payload.rowId) current payloadDigest with
    | some rowVersion => work.writeActive payload payloadDigest rowVersion
    | none =>
        let issued := work.issueVersion payload.rowId (some payloadDigest)
        issued.writeActive payload payloadDigest issued.principalVersion

end

def buryRow (reasons : RowId → TombstoneReason) (work : Reconciling) (rowId : RowId) :
    Reconciling :=
  let issued := work.issueVersion rowId none
  issued.writeInactive rowId (reasons rowId) issued.principalVersion

def isActiveRow (rows : InsertionMap RowId RowRecord) (rowId : RowId) : Bool :=
  match rows.get rowId with
  | some record => record.isActive
  | none => false

def missingActive (rows : InsertionMap RowId RowRecord) (input : ReconcileInput) : List RowId :=
  input.scan.filter fun rowId =>
    isActiveRow rows rowId && rowId ∉ input.canonical.rows.map ActivityRowPayload.rowId

/-! ## The scope digest -/

def ScopeMetadata.fields (metadata : ScopeMetadata) : JsObject :=
  [(js "nextCursor", match metadata.nextCursor with
      | some cursor => .string cursor
      | none => .null),
    (js "hasMore", .boolean metadata.hasMore),
    (js "complete", .boolean metadata.complete),
    (js "totalCount", .number (JsNumber.ofNat metadata.totalCount)),
    (js "totalUnreadCount", .number (JsNumber.ofNat metadata.totalUnreadCount))]

def orderedRows (rows : InsertionMap RowId RowRecord) : List (RowId × RowRecord) :=
  rows.entries.insertionSort fun left right => left.1.1 ≤ right.1.1

def tombstoneFields (rowId : RowId) (rowVersion : Nat) (reason : TombstoneReason) : JsObject :=
  [(js "rowId", .string rowId.1),
    (js "rowVersion", .string (UInt64String.ofNat rowVersion)),
    (js "reason", .string reason.text)]

def projectedTombstones (rows : InsertionMap RowId RowRecord) : List JsObject :=
  (orderedRows rows).filterMap fun
    | (rowId, .inactive rowVersion reason) => some (tombstoneFields rowId rowVersion reason)
    | _ => none

section

variable (digest : JsValue → JsString)

def scopeFact (canonical : CanonicalWindow) (tombstones : List JsObject) : JsValue :=
  .object [
    (js "rows", .array (canonical.rows.map fun row => .object [
      (js "rowId", .string row.rowId.1),
      (js "payloadDigest", .string (digest (.object row.fields)))])),
    (js "tombstones", .array (tombstones.map .object)),
    (js "metadata", .object canonical.metadata.fields)]

/-! ## The transaction -/

def startReconciling (tables : ActivityTables) (filter : ActivityFilter) : Reconciling where
  principalVersion := tables.principalVersion
  authorities := tables.authorities
  rows := (tables.scopes filter).rows
  pending := []

def reconcileRows (tables : ActivityTables) (input : ReconcileInput) : Reconciling :=
  let before := startReconciling tables input.filter
  (missingActive before.rows input).foldl (buryRow input.reasons)
    (input.canonical.rows.foldl (reconcileRow digest before) before)

/-- The effects to log: those of the row loops, and the scope itself when its digest moved. -/
def pendingChanges (scope : ScopeTables) (input : ReconcileInput) (work : Reconciling) :
    List Change :=
  let scopeDigest := digest (scopeFact digest input.canonical (projectedTombstones work.rows))
  if scope.scopeDigest ≠ some scopeDigest then
    work.pending ++ [.scope input.canonical.metadata]
  else work.pending

def rollsOver (scope : ScopeTables) (pending : List Change) : Bool :=
  0 < pending.length && CHANGE_RETENTION < scope.changes.length + pending.length

/-- A new epoch drops the log and every retained tombstone. -/
def rollover (scope : ScopeTables) : ScopeTables where
  epoch := scope.epoch + 1
  watermark := 0
  scopeDigest := none
  metadata := none
  rows := scope.rows.filter RowRecord.isActive
  changes := []

def numbered (watermark : Nat) (pending : List Change) : List LoggedChange :=
  (pending.zipIdx (watermark + 1)).map fun (change, seq) => ⟨seq, change⟩

def logChanges (scope : ScopeTables) (pending : List Change) (scopeDigest : JsString)
    (metadata : ScopeMetadata) : ScopeTables :=
  if pending = [] then scope
  else
    { scope with
      watermark := scope.watermark + pending.length
      changes := scope.changes ++ numbered scope.watermark pending
      scopeDigest := some scopeDigest
      metadata := some metadata }

def reconcileScope (scope : ScopeTables) (input : ReconcileInput) (work : Reconciling) :
    ScopeTables :=
  let pending := pendingChanges digest scope input work
  let written := { scope with rows := work.rows }
  let settled := if rollsOver scope pending then rollover written else written
  let tombstones :=
    if rollsOver scope pending then [] else projectedTombstones work.rows
  logChanges settled pending (digest (scopeFact digest input.canonical tombstones))
    input.canonical.metadata

def reconcileInTransaction (tables : ActivityTables) (input : ReconcileInput) : ActivityTables :=
  let work := reconcileRows digest tables input
  { principalVersion := work.principalVersion
    authorities := work.authorities
    scopes := Function.update tables.scopes input.filter
      (reconcileScope digest (tables.scopes input.filter) input work) }

end

end Raft.ActivityServer
