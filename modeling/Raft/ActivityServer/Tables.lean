import Raft.Activity.Contract

/-!
# The Activity tables

The authority rows, scopes, window rows and change logs of one principal of one
server.  The shape checks of the tables (an active row has a payload and no
tombstone reason, an authority has a digest exactly while it is active) are
carried by the types.
-/

namespace Raft.ActivityServer

open Raft.Foundation Raft.Activity

def isHexUnit (unit : CodeUnit) : Bool :=
  isDigit unit || (0x61 ≤ unit.val && unit.val ≤ 0x66)

/-- The canonical text of a `uuid` column: `8-4-4-4-12` lower-case hexadecimal digits. -/
def isUuid (text : JsString) : Bool :=
  text.length = 36 &&
    text.zipIdx.all fun (unit, index) =>
      if index ∈ [8, 13, 18, 23] then unit = 0x2D else isHexUnit unit

abbrev RowId := { text : JsString // isUuid text = true }

inductive ActivityFilter where
  | all
  | unread
  | mentions
  deriving DecidableEq

def ActivityFilter.text : ActivityFilter → JsString
  | .all => js "all"
  | .unread => js "unread"
  | .mentions => js "mentions"

inductive TombstoneReason where
  | done
  | deleted
  | outOfWindow
  deriving DecidableEq

def TombstoneReason.text : TombstoneReason → JsString
  | .done => js "done"
  | .deleted => js "deleted"
  | .outOfWindow => js "outOfWindow"

/-- A contract row without its version; rows are filed under `uuid` columns. -/
structure ActivityRowPayload where
  fields : JsObject
  conforms : activityRow
    (.object (JsObject.write fields (js "rowVersion") (.string (UInt64String.ofNat 0)))) = true
  isUuid_rowId : isUuid (JsObject.read fields (js "rowId")).text = true

namespace ActivityRowPayload

def rowId (payload : ActivityRowPayload) : RowId :=
  ⟨(JsObject.read payload.fields (js "rowId")).text, payload.isUuid_rowId⟩

def lastActivityAt (payload : ActivityRowPayload) : JsString :=
  (JsObject.read payload.fields (js "lastActivityAt")).text

end ActivityRowPayload

abbrev UInt32Counter := Fin 0x100000000

instance counterCount_neZero : NeZero 0x100000000 := ⟨by decide⟩

structure ScopeMetadata where
  nextCursor : Option JsString
  hasMore : Bool
  complete : Bool
  totalCount : UInt32Counter
  totalUnreadCount : UInt32Counter
  deriving DecidableEq

/-- `activity_sync_row_authorities`: the digest is null exactly when the row is inactive. -/
structure RowAuthority where
  lastVersion : Nat
  payloadDigest : Option JsString

def RowAuthority.active (authority : RowAuthority) : Bool := authority.payloadDigest.isSome

inductive RowRecord where
  | active (rowVersion : Nat) (payload : ActivityRowPayload) (payloadDigest : JsString)
  | inactive (rowVersion : Nat) (tombstoneReason : TombstoneReason)

namespace RowRecord

def rowVersion : RowRecord → Nat
  | .active rowVersion _ _ => rowVersion
  | .inactive rowVersion _ => rowVersion

def isActive : RowRecord → Bool
  | .active _ _ _ => true
  | .inactive _ _ => false

end RowRecord

/-- The three kinds of `activity_sync_changes`, each with the columns its shape check demands. -/
inductive Change where
  | upsert (rowVersion : Nat) (payload : ActivityRowPayload)
  | tombstone (rowId : RowId) (rowVersion : Nat) (tombstoneReason : TombstoneReason)
  | scope (metadata : ScopeMetadata)

def Change.rowId : Change → Option RowId
  | .upsert _ payload => some payload.rowId
  | .tombstone rowId _ _ => some rowId
  | .scope _ => none

structure LoggedChange where
  seq : Nat
  change : Change

/-- The rows of all tables that belong to one filter; the defaults are those of a new scope. -/
structure ScopeTables where
  epoch : Nat := 1
  watermark : Nat := 0
  scopeDigest : Option JsString := none
  metadata : Option ScopeMetadata := none
  rows : InsertionMap RowId RowRecord := InsertionMap.empty
  changes : List LoggedChange := []

structure ActivityTables where
  principalVersion : Nat := 0
  authorities : RowId → Option RowAuthority := fun _ => none
  scopes : ActivityFilter → ScopeTables := fun _ => {}

/-! ## Row identifiers -/

theorem RowId.length (rowId : RowId) : rowId.1.length = 36 := by
  have h := rowId.2
  simp only [isUuid, Bool.and_eq_true, decide_eq_true_eq] at h
  exact h.1

theorem RowId.prototypeMethod_eq_none (rowId : RowId) : prototypeMethod rowId.1 = none := by
  have hlengths : ∀ method ∈ prototypeMethods, method.1.length ≠ 36 := by decide
  rw [prototypeMethod, Option.map_eq_none_iff, List.find?_eq_none]
  intro method hmethod hname
  rw [decide_eq_true_eq] at hname
  exact hlengths method hmethod (hname ▸ rowId.length)

theorem RowId.ne_proto (rowId : RowId) : rowId.1 ≠ js "__proto__" := by
  intro h
  have hlength := rowId.length
  rw [h] at hlength
  revert hlength
  decide

/-! ## Rows on the wire -/

namespace ActivityRowPayload

def wireRow (payload : ActivityRowPayload) (rowVersion : Nat) : JsObject :=
  JsObject.write payload.fields (js "rowVersion") (.string (UInt64String.ofNat rowVersion))

theorem activityRow_wireRow (payload : ActivityRowPayload) (rowVersion : Nat) :
    activityRow (.object (payload.wireRow rowVersion)) = true := by
  rw [wireRow, activityRow_write_version _ _ (UInt64String.ofNat 0)]
  exact payload.conforms

theorem read_wireRow (payload : ActivityRowPayload) (rowVersion : Nat) {field : JsString}
    (h : field ≠ js "rowVersion") :
    JsObject.read (payload.wireRow rowVersion) field = JsObject.read payload.fields field :=
  JsObject.read_write_of_ne _ _ h

theorem isNonEmptyString_rowId (payload : ActivityRowPayload) :
    isNonEmptyString (JsObject.read payload.fields (js "rowId")) = true := by
  have hlength := payload.rowId.length
  simp only [rowId] at hlength
  cases hread : JsObject.read payload.fields (js "rowId") with
  | string text =>
      rw [hread, JsValue.text] at hlength
      cases text with
      | nil => simp at hlength
      | cons unit rest => rfl
  | undefined | null | boolean _ | number _ | array _ | object _ =>
      rw [hread] at hlength
      simp [JsValue.text] at hlength

def toRow (payload : ActivityRowPayload) (rowVersion : Nat) : ActivityRow where
  fields := payload.wireRow rowVersion
  isRow_fields := isRow_of_activityRow (payload.activityRow_wireRow rowVersion) (by
    rw [payload.read_wireRow rowVersion (by decide)]
    exact payload.isNonEmptyString_rowId)

@[simp] theorem rowId_toRow (payload : ActivityRowPayload) (rowVersion : Nat) :
    (payload.toRow rowVersion).rowId = payload.rowId.1 := by
  have hread := payload.read_wireRow rowVersion (show js "rowId" ≠ js "rowVersion" by decide)
  rw [ActivityRow.rowId, toRow, hread]
  rfl

@[simp] theorem rowVersion_toRow (payload : ActivityRowPayload) (rowVersion : Nat) :
    (payload.toRow rowVersion).rowVersion = UInt64String.ofNat rowVersion := by
  have hread : JsObject.read (payload.wireRow rowVersion) (js "rowVersion") =
      .string (UInt64String.ofNat rowVersion) := JsObject.read_write_self _ _ _
  apply Subtype.ext
  simp [ActivityRow.rowVersion, toRow, uint64, hread, JsValue.text]

end ActivityRowPayload

end Raft.ActivityServer
