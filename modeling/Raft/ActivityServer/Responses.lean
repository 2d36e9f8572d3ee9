import Raft.ActivityServer.Reconcile

/-!
# Snapshot and difference answers

Both routes reconcile first and read their answer from the tables inside the
same transaction.  The bodies are the JSON documents that go over the wire;
integers of the tables travel as canonical decimal texts.
-/

namespace Raft.ActivityServer

open Raft.Foundation Raft.Activity

def exactWire (value : Nat) : JsValue := .string (UInt64String.ofNat value)

structure WindowRow where
  payload : ActivityRowPayload
  rowVersion : Nat

structure WindowTombstone where
  rowId : RowId
  rowVersion : Nat
  reason : TombstoneReason

structure ActivityWindow where
  rows : List WindowRow
  tombstones : List WindowTombstone
  metadata : ScopeMetadata

def activeRow : RowId × RowRecord → Option WindowRow
  | (_, .active rowVersion payload _) => some ⟨payload, rowVersion⟩
  | (_, .inactive _ _) => none

def inactiveRow : RowId × RowRecord → Option WindowTombstone
  | (_, .active _ _ _) => none
  | (rowId, .inactive rowVersion reason) => some ⟨rowId, rowVersion, reason⟩

def defaultMetadata : ScopeMetadata where
  nextCursor := none
  hasMore := false
  complete := true
  totalCount := 0
  totalUnreadCount := 0

section

variable (localeCompare : JsString → JsString → Int)

def compareWindowRows (left right : WindowRow) : Int :=
  if left.payload.lastActivityAt ≠ right.payload.lastActivityAt then
    if left.payload.lastActivityAt < right.payload.lastActivityAt then 1 else -1
  else localeCompare left.payload.rowId.1 right.payload.rowId.1

def materializeWindow (scope : ScopeTables) : ActivityWindow where
  rows := ((orderedRows scope.rows).filterMap activeRow).insertionSort
    fun left right => compareWindowRows localeCompare left right ≤ 0
  tombstones := (orderedRows scope.rows).filterMap inactiveRow
  metadata := scope.metadata.getD defaultMetadata

end

/-! ## Bodies -/

structure Caller where
  requestId : JsString
  serverId : JsString
  principalId : JsString

def scopeIdentity (caller : Caller) (filter : ActivityFilter) : JsValue :=
  .object [
    (js "serverId", .string caller.serverId),
    (js "principalId", .string caller.principalId),
    (js "filter", .string filter.text),
    (js "windowId", .string (js "main"))]

def wireRows (rows : List WindowRow) : JsValue :=
  .array (rows.map fun row => .object (row.payload.wireRow row.rowVersion))

def wireTombstones (tombstones : List WindowTombstone) : JsValue :=
  .array (tombstones.map fun stone =>
    .object (tombstoneFields stone.rowId stone.rowVersion stone.reason))

def ActivityWindow.json (window : ActivityWindow) : JsValue :=
  .object ([(js "rows", wireRows window.rows),
    (js "tombstones", wireTombstones window.tombstones)] ++ window.metadata.fields)

def snapshotBody (localeCompare : JsString → JsString → Int) (caller : Caller)
    (filter : ActivityFilter) (scope : ScopeTables) : JsValue :=
  .object [
    (js "type", .string (js "snapshot")),
    (js "requestId", .string caller.requestId),
    (js "scope", scopeIdentity caller filter),
    (js "epoch", exactWire scope.epoch),
    (js "watermark", exactWire scope.watermark),
    (js "activityVersion", exactWire scope.watermark),
    (js "window", (materializeWindow localeCompare scope).json)]

inductive ActivityDifferenceResult where
  | ok (body : JsValue)
  | conflict (body : JsValue)

def ActivityDifferenceResult.status : ActivityDifferenceResult → Nat
  | .ok _ => 200
  | .conflict _ => 409

def changesAfter (scope : ScopeTables) (after : Nat) : List LoggedChange :=
  (scope.changes.filter fun change => after < change.seq).insertionSort
    fun left right => left.seq ≤ right.seq

def latestByRow (changes : List LoggedChange) : InsertionMap RowId Change :=
  changes.foldl (fun latest logged =>
    match logged.change.rowId with
    | some rowId => latest.set rowId logged.change
    | none => latest) InsertionMap.empty

def upsertedRow : Change → Option WindowRow
  | .upsert rowVersion payload => some ⟨payload, rowVersion⟩
  | .tombstone _ _ _ | .scope _ => none

def buriedRow : Change → Option WindowTombstone
  | .tombstone rowId rowVersion reason => some ⟨rowId, rowVersion, reason⟩
  | .upsert _ _ | .scope _ => none

def snapshotRequiredJson (caller : Caller) (filter : ActivityFilter) (scope : ScopeTables) :
    JsValue :=
  .object [
    (js "snapshotRequired", .boolean true),
    (js "requestId", .string caller.requestId),
    (js "scope", scopeIdentity caller filter),
    (js "epoch", exactWire scope.epoch),
    (js "watermark", exactWire scope.watermark),
    (js "activityVersion", exactWire scope.watermark)]

def notModifiedJson (caller : Caller) (filter : ActivityFilter) (scope : ScopeTables) : JsValue :=
  .object [
    (js "type", .string (js "notModified")),
    (js "requestId", .string caller.requestId),
    (js "scope", scopeIdentity caller filter),
    (js "epoch", exactWire scope.epoch),
    (js "watermark", exactWire scope.watermark),
    (js "activityVersion", exactWire scope.watermark)]

def differenceJson (caller : Caller) (filter : ActivityFilter) (scope : ScopeTables)
    (after : Nat) (latest : List Change) (metadata : ScopeMetadata) : JsValue :=
  .object ([
    (js "type", .string (js "difference")),
    (js "requestId", .string caller.requestId),
    (js "scope", scopeIdentity caller filter),
    (js "epoch", exactWire scope.epoch),
    (js "fromSeq", exactWire (after + 1)),
    (js "toSeq", exactWire scope.watermark),
    (js "activityVersion", exactWire scope.watermark),
    (js "rows", wireRows (latest.filterMap upsertedRow)),
    (js "tombstones", wireTombstones (latest.filterMap buriedRow))] ++ metadata.fields ++
    [(js "nextFromSeq", .null)])

def differenceAnswer (localeCompare : JsString → JsString → Int) (caller : Caller)
    (filter : ActivityFilter) (scope : ScopeTables) (requestedEpoch after : Nat) :
    ActivityDifferenceResult :=
  if requestedEpoch ≠ scope.epoch || scope.watermark < after ||
      (after < scope.watermark && after + 1 < 1) then
    .conflict (snapshotRequiredJson caller filter scope)
  else if after = scope.watermark then .ok (notModifiedJson caller filter scope)
  else
    let changes := changesAfter scope after
    match changes.head? with
    | none => .conflict (snapshotRequiredJson caller filter scope)
    | some first =>
        if first.seq ≠ after + 1 then .conflict (snapshotRequiredJson caller filter scope)
        else
          .ok (differenceJson caller filter scope after (latestByRow changes).values
            (materializeWindow localeCompare scope).metadata)

section

variable (digest : JsValue → JsString) (localeCompare : JsString → JsString → Int)

def reconciledScope (tables : ActivityTables) (input : ReconcileInput) : ScopeTables :=
  (reconcileInTransaction digest tables input).scopes input.filter

def getActivitySnapshot (caller : Caller) (tables : ActivityTables) (input : ReconcileInput) :
    JsValue :=
  snapshotBody localeCompare caller input.filter (reconciledScope digest tables input)

def getActivityDifference (caller : Caller) (tables : ActivityTables) (input : ReconcileInput)
    (requestedEpoch after : Nat) : ActivityDifferenceResult :=
  differenceAnswer localeCompare caller input.filter (reconciledScope digest tables input)
    requestedEpoch after

end

end Raft.ActivityServer
