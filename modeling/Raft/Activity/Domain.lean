import Mathlib.Data.List.Sort
import Raft.Activity.UInt64
import Raft.Foundation.InsertionMap
import Raft.Foundation.PlainObject

/-!
# The Activity domain

The reducer over one scope's Activity window.  Events and snapshots are raw
values: whatever fails a guard is skipped, and an unrecognised event leaves the
state unchanged.  Rows keep all their fields.
-/

namespace Raft.Activity

open Raft.Foundation

def isNonEmptyString : JsValue → Bool
  | .string value => !value.isEmpty
  | _ => false

def isRow : JsValue → Bool
  | .object row =>
      isNonEmptyString (JsObject.read row (js "rowId")) &&
        isUInt64String (JsObject.read row (js "rowVersion")) &&
        isUInt64String (JsObject.read row (js "maxReadSeq")) &&
        isUInt64String (JsObject.read row (js "readStateVersion")) &&
        (JsObject.read row (js "lastActivityAt")).isString &&
        (JsObject.read row (js "type")).isString
  | _ => false

def isTombstone : JsValue → Bool
  | .object stone =>
      isNonEmptyString (JsObject.read stone (js "rowId")) &&
        isUInt64String (JsObject.read stone (js "rowVersion"))
  | _ => false

structure ActivityRow where
  fields : JsObject
  isRow_fields : isRow (.object fields) = true

structure ActivityRowTombstone where
  fields : JsObject
  isTombstone_fields : isTombstone (.object fields) = true

def uint64 (value : JsValue) (h : isUInt64String value = true) : UInt64String :=
  ⟨value.text, by
    obtain ⟨canonical, rfl⟩ := (isUInt64String_iff value).mp h
    exact canonical.2⟩

namespace ActivityRow

theorem guards (row : ActivityRow) :
    isNonEmptyString (JsObject.read row.fields (js "rowId")) = true ∧
      isUInt64String (JsObject.read row.fields (js "rowVersion")) = true ∧
      isUInt64String (JsObject.read row.fields (js "maxReadSeq")) = true ∧
      isUInt64String (JsObject.read row.fields (js "readStateVersion")) = true ∧
      (JsObject.read row.fields (js "lastActivityAt")).isString = true ∧
      (JsObject.read row.fields (js "type")).isString = true := by
  have h := row.isRow_fields
  simp only [isRow, Bool.and_eq_true, and_assoc] at h
  exact h

def rowId (row : ActivityRow) : JsString := (JsObject.read row.fields (js "rowId")).text

def rowVersion (row : ActivityRow) : UInt64String := uint64 _ row.guards.2.1

def maxReadSeq (row : ActivityRow) : UInt64String := uint64 _ row.guards.2.2.1

def readStateVersion (row : ActivityRow) : UInt64String := uint64 _ row.guards.2.2.2.1

def lastActivityAt (row : ActivityRow) : JsString :=
  (JsObject.read row.fields (js "lastActivityAt")).text

@[ext] theorem ext {first second : ActivityRow} (h : first.fields = second.fields) :
    first = second := by
  cases first
  cases second
  cases h
  rfl

end ActivityRow

namespace ActivityRowTombstone

theorem guards (stone : ActivityRowTombstone) :
    isNonEmptyString (JsObject.read stone.fields (js "rowId")) = true ∧
      isUInt64String (JsObject.read stone.fields (js "rowVersion")) = true := by
  have h := stone.isTombstone_fields
  simpa only [isTombstone, Bool.and_eq_true] using h

def rowId (stone : ActivityRowTombstone) : JsString :=
  (JsObject.read stone.fields (js "rowId")).text

def rowVersion (stone : ActivityRowTombstone) : UInt64String := uint64 _ stone.guards.2

end ActivityRowTombstone

def asRow : JsValue → Option ActivityRow
  | .object fields => if h : isRow (.object fields) = true then some ⟨fields, h⟩ else none
  | _ => none

def asTombstone : JsValue → Option ActivityRowTombstone
  | .object fields =>
      if h : isTombstone (.object fields) = true then some ⟨fields, h⟩ else none
  | _ => none

@[simp] theorem asRow_object (row : ActivityRow) : asRow (.object row.fields) = some row :=
  dif_pos row.isRow_fields

@[simp] theorem asTombstone_object (stone : ActivityRowTombstone) :
    asTombstone (.object stone.fields) = some stone :=
  dif_pos stone.isTombstone_fields

structure ActivityDomainState where
  rows : List ActivityRow
  tombstones : PlainObject UInt64String
  activityVersion : Option UInt64String
  nextCursor : Option JsString
  hasMore : Bool
  complete : Bool
  totalCount : JsNumber
  totalUnreadCount : JsNumber

def initialActivityState : ActivityDomainState where
  rows := []
  tombstones := PlainObject.empty
  activityVersion := none
  nextCursor := none
  hasMore := false
  complete := false
  totalCount := JsNumber.ofNat 0
  totalUnreadCount := JsNumber.ofNat 0

/-! ## Window metadata -/

def asUnsignedCounter : JsValue → Option JsNumber
  | .number value => if value.isUnsignedSafeInteger then some value else none
  | _ => none

def asBoolean : JsValue → Option Bool
  | .boolean value => some value
  | _ => none

def asNullableString : JsValue → Option (Option JsString)
  | .null => some none
  | .string value => some (some value)
  | _ => none

structure ActivityFrameWindowFact where
  nextCursor : Option (Option JsString)
  hasMore : Option Bool
  complete : Option Bool
  totalCount : Option JsNumber
  totalUnreadCount : Option JsNumber

def acceptedActivityFrameWindowFact (source : JsValue) : ActivityFrameWindowFact where
  nextCursor := asNullableString (source.read (js "nextCursor"))
  hasMore := asBoolean (source.read (js "hasMore"))
  complete := asBoolean (source.read (js "complete"))
  totalCount := asUnsignedCounter (source.read (js "totalCount"))
  totalUnreadCount := asUnsignedCounter (source.read (js "totalUnreadCount"))

def ActivityFrameWindowFact.spread (fact : ActivityFrameWindowFact)
    (state : ActivityDomainState) : ActivityDomainState :=
  { state with
    nextCursor := fact.nextCursor.getD state.nextCursor
    hasMore := fact.hasMore.getD state.hasMore
    complete := fact.complete.getD state.complete
    totalCount := fact.totalCount.getD state.totalCount
    totalUnreadCount := fact.totalUnreadCount.getD state.totalUnreadCount }

/-! ## Rows and tombstones -/

def compareRows (left right : ActivityRow) : Int :=
  if left.lastActivityAt ≠ right.lastActivityAt then
    if left.lastActivityAt < right.lastActivityAt then 1 else -1
  else if left.rowId = right.rowId then 0
  else if left.rowId < right.rowId then -1 else 1

def sortRows (rows : List ActivityRow) : List ActivityRow :=
  rows.insertionSort fun left right => compareRows left right ≤ 0

/-- `buried !== undefined && compareUInt64String(version, buried) <= 0`, where `buried` may be
a member of `Object.prototype`. -/
def notAboveBuried (version : UInt64String) : PropertyValue UInt64String → Bool
  | .undefined => false
  | .own buried => compareUInt64String version buried ≤ 0
  | .method name length =>
      if version.1.length ≠ length then version.1.length < length
      else version.1 < nativeFunctionText name
  -- Its `length` is undefined, which differs from every number and is below none.
  | .objectPrototype => false

/-- The two collections that the loops of `applyRowsAndTombstones` update. -/
structure RowTables where
  byId : InsertionMap JsString ActivityRow
  tombstones : PlainObject UInt64String

def applyRow (tables : RowTables) (candidate : ActivityRow) : RowTables :=
  let buried := tables.tombstones.get candidate.rowId
  if notAboveBuried candidate.rowVersion buried then tables
  else
    let set : RowTables :=
      { byId := tables.byId.set candidate.rowId candidate
        tombstones := tables.tombstones.delete candidate.rowId }
    match tables.byId.get candidate.rowId with
    | none => set
    | some existing =>
        if compareUInt64String candidate.rowVersion existing.rowVersion ≤ 0 then tables else set

def applyTombstone (tables : RowTables) (candidate : ActivityRowTombstone) : RowTables :=
  let bury : RowTables :=
    if notAboveBuried candidate.rowVersion (tables.tombstones.get candidate.rowId) then tables
    else
      { byId := tables.byId.delete candidate.rowId
        tombstones := tables.tombstones.set candidate.rowId candidate.rowVersion }
  match tables.byId.get candidate.rowId with
  | none => bury
  | some existing =>
      if compareUInt64String candidate.rowVersion existing.rowVersion < 0 then tables else bury

def indexRows (rows : List ActivityRow) : InsertionMap JsString ActivityRow :=
  rows.foldl (fun byId row => byId.set row.rowId row) InsertionMap.empty

theorem indexRows_map {change : ActivityRow → ActivityRow}
    (hid : ∀ row, (change row).rowId = row.rowId) (rows : List ActivityRow) :
    indexRows (rows.map change) = (indexRows rows).mapValues change := by
  have hfold (byId : InsertionMap JsString ActivityRow) :
      (rows.map change).foldl (fun byId row => byId.set row.rowId row) (byId.mapValues change) =
        (rows.foldl (fun byId row => byId.set row.rowId row) byId).mapValues change := by
    induction rows generalizing byId with
    | nil => rfl
    | cons row rows ih =>
        rw [List.map_cons, List.foldl_cons, hid, InsertionMap.set_mapValues, ih, List.foldl_cons]
  exact hfold InsertionMap.empty

def foldTables (tables : RowTables) (incomingRows incomingTombstones : List JsValue) : RowTables :=
  (incomingTombstones.filterMap asTombstone).foldl applyTombstone
    ((incomingRows.filterMap asRow).foldl applyRow tables)

def applyRowsAndTombstones (state : ActivityDomainState)
    (incomingRows incomingTombstones : List JsValue) : ActivityDomainState :=
  let tables := foldTables ⟨indexRows state.rows, state.tombstones⟩ incomingRows incomingTombstones
  { state with rows := sortRows tables.byId.values, tombstones := tables.tombstones }

def advanceActivityVersion (current : Option UInt64String) (incoming : JsValue) :
    Option UInt64String :=
  match asUInt64String incoming, current with
  | none, _ => current
  | some incoming, none => some incoming
  | some incoming, some current =>
      if compareUInt64String incoming current > 0 then some incoming else some current

/-! ## Events -/

theorem isRow_write {fields : JsObject} {key : JsString} {value : UInt64String}
    (h : isRow (.object fields) = true)
    (hkey : key = js "maxReadSeq" ∨ key = js "readStateVersion") :
    isRow (.object (JsObject.write fields key (.string value))) = true := by
  have hvalue : isUInt64String (.string value) = true := value.2
  simp only [isRow, Bool.and_eq_true] at h ⊢
  have hread : ∀ field, field ≠ js "maxReadSeq" → field ≠ js "readStateVersion" →
      JsObject.read (JsObject.write fields key (.string value)) field =
        JsObject.read fields field := by
    intro field hseq hversion
    apply JsObject.read_write_of_ne
    rcases hkey with rfl | rfl
    · exact hseq
    · exact hversion
  rw [hread (js "rowId") (by decide) (by decide), hread (js "rowVersion") (by decide) (by decide),
    hread (js "lastActivityAt") (by decide) (by decide), hread (js "type") (by decide) (by decide)]
  rcases hkey with rfl | rfl
  · rw [JsObject.read_write_self, JsObject.read_write_of_ne _ _ (by decide)]
    exact ⟨⟨⟨⟨h.1.1.1.1, hvalue⟩, h.1.1.2⟩, h.1.2⟩, h.2⟩
  · rw [JsObject.read_write_self, JsObject.read_write_of_ne _ _ (by decide)]
    exact ⟨⟨⟨⟨h.1.1.1.1, h.1.1.1.2⟩, hvalue⟩, h.1.2⟩, h.2⟩

def ActivityRow.withReadState (row : ActivityRow) (maxReadSeq readStateVersion : UInt64String) :
    ActivityRow where
  fields := JsObject.write (JsObject.write row.fields (js "maxReadSeq") (.string maxReadSeq))
    (js "readStateVersion") (.string readStateVersion)
  isRow_fields := isRow_write (isRow_write row.isRow_fields (.inl rfl)) (.inr rfl)

def isObjectLike : JsValue → Bool
  | .object _ | .array _ => true
  | _ => false

def updateNames (row : ActivityRow) (candidate : JsValue) : Bool :=
  isObjectLike candidate && (candidate.read (js "scopeId")).asString? = some row.rowId

def foldReadStateUpdate (updates : List JsValue) (row : ActivityRow) : ActivityRow :=
  match updates.find? (updateNames row) with
  | none => row
  | some update =>
      match asUInt64String (update.read (js "readStateVersion")),
          asUInt64String (update.read (js "maxReadSeq")) with
      | some readStateVersion, some maxReadSeq =>
          if compareUInt64String readStateVersion row.readStateVersion ≤ 0 then row
          else row.withReadState maxReadSeq readStateVersion
      | _, _ => row

def foldReadStateUpdates (state : ActivityDomainState) (updates : List JsValue) :
    ActivityDomainState :=
  { state with rows := state.rows.map (foldReadStateUpdate updates) }

def foldFrame (state : ActivityDomainState) (event : JsValue) : ActivityDomainState :=
  let withRows := applyRowsAndTombstones state (event.read (js "rows")).arrayItems
    (event.read (js "tombstones")).arrayItems
  (acceptedActivityFrameWindowFact event).spread
    { withRows with
      activityVersion := advanceActivityVersion withRows.activityVersion
        (event.read (js "activityVersion")) }

def foldActivityEvent (state : ActivityDomainState) (event : JsValue) : ActivityDomainState :=
  match event.read (js "type") with
  | .string type =>
      if type = js "frame" then foldFrame state event
      else if type = js "readStateUpdated" then
        let withReads := foldReadStateUpdates state (event.read (js "updates")).arrayItems
        { withReads with
          activityVersion := advanceActivityVersion withReads.activityVersion
            (event.read (js "activityVersion")) }
      else state
  | _ => state

/-! ## Snapshots -/

/-- `source.window && typeof source.window === "object" ? source.window : source` -/
def snapshotWindow (source : JsValue) : JsValue :=
  if isObjectLike (source.read (js "window")) then source.read (js "window") else source

def stateFromSnapshot (raw : JsValue) : ActivityDomainState :=
  match raw with
  | .object _ =>
      let window := snapshotWindow raw
      let applied := applyRowsAndTombstones initialActivityState
        (window.read (js "rows")).arrayItems (window.read (js "tombstones")).arrayItems
      { applied with
        activityVersion := asUInt64String (raw.read (js "activityVersion"))
        nextCursor := (window.read (js "nextCursor")).asString?
        hasMore := asBoolean (window.read (js "hasMore")) = some true
        complete := asBoolean (window.read (js "complete")) = some true
        totalCount := (asUnsignedCounter (window.read (js "totalCount"))).getD (JsNumber.ofNat 0)
        totalUnreadCount :=
          (asUnsignedCounter (window.read (js "totalUnreadCount"))).getD (JsNumber.ofNat 0) }
  | _ => initialActivityState

end Raft.Activity
