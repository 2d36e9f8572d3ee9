import Raft.ActivityPanel.Bodies
import Raft.ActivityServer.History

/-!
# A difference stands for the snapshot

Folding the body of a difference onto the state of an earlier snapshot of the
epoch gives the state of the snapshot at the later watermark: the client's
registers hold what the window rows of the server hold, and the page carries
for each row the last of the items logged since.
-/

namespace Raft.ActivityPanel

open Raft.Foundation Raft.Activity Raft.ActivityServer

/-! ## Rows and tombstones as the reducer reads them -/

def windowRow (row : WindowRow) : ActivityRow := row.payload.toRow row.rowVersion

theorem isNonEmptyString_rowId (rowId : RowId) : isNonEmptyString (.string rowId.1) = true := by
  have hlength := rowId.length
  obtain ⟨units, huuid⟩ := rowId
  cases units with
  | nil => simp at hlength
  | cons unit rest => rfl

def windowStone (stone : WindowTombstone) : ActivityRowTombstone where
  fields := tombstoneFields stone.rowId stone.rowVersion stone.reason
  isTombstone_fields := by
    have hrowId : JsObject.read (tombstoneFields stone.rowId stone.rowVersion stone.reason)
        (js "rowId") = .string stone.rowId.1 := rfl
    have hversion : JsObject.read (tombstoneFields stone.rowId stone.rowVersion stone.reason)
        (js "rowVersion") = exactWire stone.rowVersion := rfl
    simp [isTombstone, hrowId, hversion, isNonEmptyString_rowId, isUInt64String_exactWire]

theorem asRow_wireRows (rows : List WindowRow) :
    (wireRows rows).arrayItems.filterMap asRow = rows.map windowRow := by
  have hrow : ∀ row : WindowRow,
      asRow (.object (row.payload.wireRow row.rowVersion)) = some (windowRow row) :=
    fun row => asRow_object (windowRow row)
  rw [wireRows, JsValue.arrayItems, List.filterMap_map]
  simp [hrow]

theorem asTombstone_wireTombstones (tombstones : List WindowTombstone) :
    (wireTombstones tombstones).arrayItems.filterMap asTombstone =
      tombstones.map windowStone := by
  have hstone : ∀ stone : WindowTombstone,
      asTombstone (.object (tombstoneFields stone.rowId stone.rowVersion stone.reason)) =
        some (windowStone stone) := fun stone => asTombstone_object (windowStone stone)
  rw [wireTombstones, JsValue.arrayItems, List.filterMap_map]
  simp [hstone]

/-! ## What window and page carry for one row -/

theorem recordable_rowId (rowId : RowId) (item : RowItem) : recordable rowId.1 item = true := by
  cases item with
  | live row => simp [recordable, outgrows, rowId.prototypeMethod_eq_none]
  | buried version =>
      simp [recordable, outgrows, rowId.prototypeMethod_eq_none, rowId.ne_proto]

theorem mem_window_items (localeCompare : JsString → JsString → Int) {scope : ScopeTables}
    (hfiled : Filed scope.rows) {key : JsString} {item : RowItem} :
    item ∈ itemsFor key ((materializeWindow localeCompare scope).rows.map windowRow)
        ((materializeWindow localeCompare scope).tombstones.map windowStone) ↔
      ∃ rowId : RowId, rowId.1 = key ∧ itemAt scope.rows rowId = some item := by
  have hmem : ∀ entry, entry ∈ orderedRows scope.rows ↔
      scope.rows.get entry.1 = some entry.2 := fun entry => by
    rw [orderedRows, List.mem_insertionSort, ← InsertionMap.mem_entries_iff]
  cases item with
  | live row =>
      simp only [mem_itemsFor_live, materializeWindow, List.mem_map, List.mem_insertionSort,
        List.mem_filterMap, hmem, itemAt, Option.map_eq_some_iff]
      constructor
      · rintro ⟨⟨window, ⟨⟨rowId, record⟩, hget, hactive⟩, rfl⟩, rfl⟩
        cases record with
        | active rowVersion payload payloadDigest =>
            cases hactive
            have hrowId := hfiled rowId rowVersion payload payloadDigest hget
            exact ⟨rowId, by rw [← hrowId]; exact (payload.rowId_toRow rowVersion).symm,
              _, hget, rfl⟩
        | inactive rowVersion reason => cases hactive
      · rintro ⟨rowId, rfl, record, hget, hitem⟩
        cases record with
        | active rowVersion payload payloadDigest =>
            cases hitem
            have hrowId := hfiled rowId rowVersion payload payloadDigest hget
            exact ⟨⟨⟨payload, rowVersion⟩, ⟨(rowId, _), hget, rfl⟩, rfl⟩,
              by rw [payload.rowId_toRow, hrowId]⟩
        | inactive rowVersion reason => cases hitem
  | buried version =>
      simp only [mem_itemsFor_buried, materializeWindow, List.mem_map, List.mem_filterMap, hmem,
        itemAt, Option.map_eq_some_iff]
      constructor
      · rintro ⟨_, ⟨window, ⟨⟨rowId, record⟩, hget, hinactive⟩, rfl⟩, rfl, rfl⟩
        cases record with
        | active rowVersion payload payloadDigest => cases hinactive
        | inactive rowVersion reason =>
            cases hinactive
            exact ⟨rowId, rfl, _, hget, rfl⟩
      · rintro ⟨rowId, rfl, record, hget, hitem⟩
        cases record with
        | active rowVersion payload payloadDigest => cases hitem
        | inactive rowVersion reason =>
            cases hitem
            exact ⟨_, ⟨⟨rowId, rowVersion, reason⟩, ⟨(rowId, _), hget, rfl⟩, rfl⟩, rfl, rfl⟩

theorem get_latestByRow (logged : List LoggedChange) (rowId : RowId) :
    (∀ change, (latestByRow logged).get rowId = some change → change.rowId = some rowId) ∧
      ((latestByRow logged).get rowId).bind Change.item =
        (itemsOf rowId (logged.map LoggedChange.change)).getLast? := by
  induction logged using List.reverseRecOn with
  | nil =>
      refine ⟨fun change h => ?_, rfl⟩
      cases h
  | append_singleton logged last ih =>
      have hsnoc : latestByRow (logged ++ [last]) =
          last.change.rowId.elim (latestByRow logged) fun rowId =>
            (latestByRow logged).set rowId last.change := by
        rw [latestByRow, List.foldl_append, List.foldl_cons, List.foldl_nil]
        cases last.change.rowId <;> rfl
      rw [hsnoc, List.map_append, itemsOf_append]
      cases hchange : last.change with
      | scope metadata =>
          have hitems : itemsOf rowId [Change.scope metadata] = [] := rfl
          simpa [Change.rowId, hchange, hitems] using ih
      | upsert rowVersion payload =>
          by_cases hrow : payload.rowId = rowId
          · subst hrow
            simp [Change.rowId, itemsOf, Change.item, hchange]
          · have hne : rowId ≠ payload.rowId := Ne.symm hrow
            simpa [Change.rowId, itemsOf, hrow, hchange, InsertionMap.get_set_of_ne _ _ hne]
              using ih
      | tombstone buried rowVersion reason =>
          by_cases hrow : buried = rowId
          · subst hrow
            simp [Change.rowId, itemsOf, Change.item, hchange]
          · have hne : rowId ≠ buried := Ne.symm hrow
            simpa [Change.rowId, itemsOf, hrow, hchange, InsertionMap.get_set_of_ne _ _ hne]
              using ih

theorem mem_page_items {logged : List LoggedChange} {key : JsString} {item : RowItem} :
    item ∈ itemsFor key (((latestByRow logged).values.filterMap upsertedRow).map windowRow)
        (((latestByRow logged).values.filterMap buriedRow).map windowStone) ↔
      ∃ rowId : RowId, rowId.1 = key ∧
        (itemsOf rowId (logged.map LoggedChange.change)).getLast? = some item := by
  have hlast : ∀ rowId, (itemsOf rowId (logged.map LoggedChange.change)).getLast? = some item ↔
      ∃ change, (latestByRow logged).get rowId = some change ∧ change.item = some item := by
    intro rowId
    rw [← (get_latestByRow logged rowId).2, Option.bind_eq_some_iff]
  have hnamed : ∀ rowId change, (latestByRow logged).get rowId = some change →
      change.rowId = some rowId := fun rowId => (get_latestByRow logged rowId).1
  simp only [hlast]
  cases item with
  | live row =>
      simp only [mem_itemsFor_live, List.mem_map, List.mem_filterMap, InsertionMap.mem_values_iff]
      constructor
      · rintro ⟨⟨window, ⟨change, ⟨rowId, hget⟩, hupsert⟩, rfl⟩, rfl⟩
        cases change with
        | upsert rowVersion payload =>
            cases hupsert
            have hrowId : payload.rowId = rowId := Option.some.inj (hnamed rowId _ hget)
            exact ⟨rowId, by rw [← hrowId]; exact (payload.rowId_toRow rowVersion).symm,
              _, hget, rfl⟩
        | tombstone _ _ _ => cases hupsert
        | scope _ => cases hupsert
      · rintro ⟨rowId, rfl, change, hget, hitem⟩
        cases change with
        | upsert rowVersion payload =>
            cases hitem
            have hrowId : payload.rowId = rowId := Option.some.inj (hnamed rowId _ hget)
            exact ⟨⟨⟨payload, rowVersion⟩, ⟨_, ⟨rowId, hget⟩, rfl⟩, rfl⟩,
              by rw [payload.rowId_toRow, hrowId]⟩
        | tombstone _ _ _ => cases hitem
        | scope _ => cases hitem
  | buried version =>
      simp only [mem_itemsFor_buried, List.mem_map, List.mem_filterMap,
        InsertionMap.mem_values_iff]
      constructor
      · rintro ⟨_, ⟨window, ⟨change, ⟨rowId, hget⟩, hburied⟩, rfl⟩, rfl, rfl⟩
        cases change with
        | tombstone buried rowVersion reason =>
            cases hburied
            have hrowId : buried = rowId := Option.some.inj (hnamed rowId _ hget)
            exact ⟨rowId, by rw [← hrowId]; rfl, _, hget, rfl⟩
        | upsert _ _ => cases hburied
        | scope _ => cases hburied
      · rintro ⟨rowId, rfl, change, hget, hitem⟩
        cases change with
        | tombstone buried rowVersion reason =>
            cases hitem
            have hrowId : buried = rowId := Option.some.inj (hnamed rowId _ hget)
            exact ⟨_, ⟨⟨buried, rowVersion, reason⟩, ⟨_, ⟨rowId, hget⟩, rfl⟩, rfl⟩,
              by rw [← hrowId]; rfl, rfl⟩
        | upsert _ _ => cases hitem
        | scope _ => cases hitem

/-! ## The client's registers -/

structure Mirrors (state : ActivityDomainState) (scope : ScopeTables) : Prop where
  canonical : Canonical state
  item : ∀ rowId : RowId, state.item rowId.1 = itemAt scope.rows rowId
  foreign : ∀ key, isUuid key = false → state.item key = none

theorem Mirrors.eq {state other : ActivityDomainState} {scope : ScopeTables}
    (h : Mirrors state scope) (hother : Mirrors other scope) :
    state.rows = other.rows ∧ state.tombstones = other.tombstones := by
  refine h.canonical.eq_of_item_eq hother.canonical fun key => ?_
  cases huuid : isUuid key with
  | true => exact (h.item ⟨key, huuid⟩).trans (hother.item ⟨key, huuid⟩).symm
  | false => exact (h.foreign key huuid).trans (hother.foreign key huuid).symm

/-- Each register takes the latest item offered to it, where none it holds ranks higher. -/
theorem apply_latest {state : ActivityDomainState} (hcanonical : Canonical state)
    (hforeign : ∀ key, isUuid key = false → state.item key = none)
    {latest : RowId → Option RowItem}
    (hrises : ∀ rowId old item, state.item rowId.1 = some old →
      latest rowId = some item → old.rank < item.rank ∨ old = item)
    {rows tombstones : List JsValue}
    (hitems : ∀ key item, item ∈ itemsFor key (rows.filterMap asRow)
        (tombstones.filterMap asTombstone) ↔
      ∃ rowId : RowId, rowId.1 = key ∧ latest rowId = some item) :
    let after := applyRowsAndTombstones state rows tombstones
    Canonical after ∧
      (∀ rowId : RowId, after.item rowId.1 = (latest rowId).or (state.item rowId.1)) ∧
      ∀ key, isUuid key = false → after.item key = none := by
  obtain ⟨hafter, hfold⟩ := hcanonical.applyRowsAndTombstones rows tombstones
  refine ⟨hafter, fun rowId => ?_, fun key huuid => ?_⟩
  · rw [hfold]
    apply offerKeptAll_eq_or
    · intro item
      rw [hitems]
      constructor
      · rintro ⟨other, hother, hitem⟩
        rwa [Subtype.ext hother] at hitem
      · exact fun hitem => ⟨rowId, rfl, hitem⟩
    · exact fun item _ => recordable_rowId rowId item
    · exact hrises rowId
  · have hempty : itemsFor key (rows.filterMap asRow) (tombstones.filterMap asTombstone) = [] := by
      apply List.eq_nil_iff_forall_not_mem.mpr
      intro item hitem
      obtain ⟨rowId, rfl, -⟩ := (hitems key item).mp hitem
      rw [rowId.2] at huuid
      cases huuid
    rw [hfold, hempty, offerKeptAll_nil, hforeign key huuid]

theorem Mirrors.apply {state : ActivityDomainState} {before after : ScopeTables}
    (h : Mirrors state before) {latest : RowId → Option RowItem}
    (hlatest : ∀ rowId, itemAt after.rows rowId = (latest rowId).or (itemAt before.rows rowId))
    (hrises : ∀ rowId old item, itemAt before.rows rowId = some old →
      latest rowId = some item → old.rank < item.rank)
    (rows tombstones : List JsValue)
    (hitems : ∀ key item, item ∈ itemsFor key (rows.filterMap asRow)
        (tombstones.filterMap asTombstone) ↔
      ∃ rowId : RowId, rowId.1 = key ∧ latest rowId = some item) :
    Mirrors (applyRowsAndTombstones state rows tombstones) after := by
  obtain ⟨hcanonical, hitem, hforeign⟩ := apply_latest h.canonical h.foreign
    (fun rowId old item hold hnext => Or.inl (hrises rowId old item (h.item rowId ▸ hold) hnext))
    hitems
  refine ⟨hcanonical, fun rowId => ?_, hforeign⟩
  rw [hitem, h.item, hlatest]

theorem mirrors_initial : Mirrors initialActivityState {} :=
  ⟨canonical_initial, fun _ => rfl, fun _ _ => rfl⟩

theorem mirrors_window (localeCompare : JsString → JsString → Int) {scope : ScopeTables}
    (hfiled : Filed scope.rows) :
    Mirrors (applyRowsAndTombstones initialActivityState
      (wireRows (materializeWindow localeCompare scope).rows).arrayItems
      (wireTombstones (materializeWindow localeCompare scope).tombstones).arrayItems) scope := by
  refine mirrors_initial.apply (fun _ => (Option.or_none).symm) ?_ _ _ fun key item => ?_
  · intro rowId old item hold
    cases hold
  · rw [asRow_wireRows, asTombstone_wireTombstones]
    exact mem_window_items localeCompare hfiled

/-! ## Whole states -/

def withWindow (metadata : ScopeMetadata) (watermark : Nat) (state : ActivityDomainState) :
    ActivityDomainState :=
  { state with
    activityVersion := some (UInt64String.ofNat watermark)
    nextCursor := metadata.nextCursor
    hasMore := metadata.hasMore
    complete := metadata.complete
    totalCount := JsNumber.ofNat metadata.totalCount
    totalUnreadCount := JsNumber.ofNat metadata.totalUnreadCount }

theorem withWindow_congr {state other : ActivityDomainState} (metadata : ScopeMetadata)
    (watermark : Nat)
    (h : state.rows = other.rows ∧ state.tombstones = other.tombstones) :
    withWindow metadata watermark state = withWindow metadata watermark other := by
  rw [withWindow, withWindow, h.1, h.2]

theorem Mirrors.withWindow {state : ActivityDomainState} {scope : ScopeTables}
    (h : Mirrors state scope) (metadata : ScopeMetadata) (watermark : Nat) :
    Mirrors (withWindow metadata watermark state) scope :=
  ⟨⟨h.canonical.unique, h.canonical.sorted, h.canonical.exclusive⟩, h.item, h.foreign⟩

theorem asUnsignedCounter_ofNat (counter : UInt32Counter) :
    asUnsignedCounter (.number (JsNumber.ofNat counter)) = some (JsNumber.ofNat counter) := by
  have hbound : counter.val ≤ maxSafeInteger :=
    le_trans counter.isLt.le (by decide)
  exact if_pos (JsNumber.isUnsignedSafeInteger_ofNat hbound)

def snapshotState (body : JsValue) : Ingress ActivityDomainState := do
  let snapshot ← snapshotFromResponse body
  return stateFromSnapshot snapshot.state

theorem stateFromSnapshot_payload (localeCompare : JsString → JsString → Int)
    (scope : ScopeTables) :
    stateFromSnapshot (snapshotPayload localeCompare scope) =
      withWindow (materializeWindow localeCompare scope).metadata
        scope.watermark (applyRowsAndTombstones initialActivityState
          (wireRows (materializeWindow localeCompare scope).rows).arrayItems
          (wireTombstones (materializeWindow localeCompare scope).tombstones).arrayItems) := by
  generalize hwindow : materializeWindow localeCompare scope = window
  have hpayload : snapshotPayload localeCompare scope =
      .object [(js "window", window.json), (js "activityVersion", exactWire scope.watermark)] := by
    rw [snapshotPayload, hwindow]
  have hread : snapshotWindow (.object [(js "window", window.json),
      (js "activityVersion", exactWire scope.watermark)]) = window.json := rfl
  have hversion : asUInt64String (JsValue.read (.object [(js "window", window.json),
      (js "activityVersion", exactWire scope.watermark)]) (js "activityVersion")) =
        some (UInt64String.ofNat scope.watermark) := asUInt64String_string _
  have hcursor : (window.json.read (js "nextCursor")).asString? = window.metadata.nextCursor := by
    obtain ⟨rows, tombstones, ⟨nextCursor, hasMore, complete, totalCount, totalUnreadCount⟩⟩ :=
      window
    cases nextCursor <;> rfl
  have htotal : asUnsignedCounter (window.json.read (js "totalCount")) =
      some (JsNumber.ofNat window.metadata.totalCount) := asUnsignedCounter_ofNat _
  have hunread : asUnsignedCounter (window.json.read (js "totalUnreadCount")) =
      some (JsNumber.ofNat window.metadata.totalUnreadCount) := asUnsignedCounter_ofNat _
  have hmore : asBoolean (window.json.read (js "hasMore")) = some window.metadata.hasMore := rfl
  have hcomplete : asBoolean (window.json.read (js "complete")) =
      some window.metadata.complete := rfl
  rw [hpayload]
  simp only [stateFromSnapshot, hread, hversion, hcursor, htotal, hunread, hmore, hcomplete,
    Option.getD_some, Option.some.injEq, Bool.decide_eq_true]
  rfl

theorem foldFrame_differenceEvent {caller : Caller} {filter : ActivityFilter}
    {scope : ScopeTables} {after : Nat} {latest : List Change} {metadata : ScopeMetadata}
    {body : JsValue} (hbody : body = differenceJson caller filter scope after latest metadata)
    {state : ActivityDomainState} {held : Nat}
    (hheld : state.activityVersion = some (UInt64String.ofNat held))
    (hahead : held < scope.watermark) :
    foldActivityEvent state (differenceEvent body) =
      withWindow metadata scope.watermark (applyRowsAndTombstones state
        (wireRows (latest.filterMap upsertedRow)).arrayItems
        (wireTombstones (latest.filterMap buriedRow)).arrayItems) := by
  have hframe : IsFrame (differenceEvent body) := rfl
  have hrows : (differenceEvent body).read (js "rows") =
    wireRows (latest.filterMap upsertedRow) := by
    rw [hbody]
    rfl
  have hstones : (differenceEvent body).read (js "tombstones") =
      wireTombstones (latest.filterMap buriedRow) := by
    rw [hbody]
    rfl
  have hversion : (differenceEvent body).read (js "activityVersion") =
      exactWire scope.watermark := by
    rw [hbody]
    rfl
  have hadvance : advanceActivityVersion (some (UInt64String.ofNat held))
      (exactWire scope.watermark) = some (UInt64String.ofNat scope.watermark) := by
    simp [advanceActivityVersion, exactWire, hahead]
  have hcursor : asNullableString ((differenceEvent body).read (js "nextCursor")) =
      some metadata.nextCursor := by
    rw [hbody]
    obtain ⟨nextCursor, hasMore, complete, totalCount, totalUnreadCount⟩ := metadata
    cases nextCursor <;> rfl
  have htotal : asUnsignedCounter ((differenceEvent body).read (js "totalCount")) =
      some (JsNumber.ofNat metadata.totalCount) := by
    rw [hbody]
    exact asUnsignedCounter_ofNat _
  have hunread : asUnsignedCounter ((differenceEvent body).read (js "totalUnreadCount")) =
      some (JsNumber.ofNat metadata.totalUnreadCount) := by
    rw [hbody]
    exact asUnsignedCounter_ofNat _
  have hmore : asBoolean ((differenceEvent body).read (js "hasMore")) = some metadata.hasMore := by
    rw [hbody]
    rfl
  have hcomplete : asBoolean ((differenceEvent body).read (js "complete")) =
      some metadata.complete := by
    rw [hbody]
    rfl
  have hkept : (applyRowsAndTombstones state (wireRows (latest.filterMap upsertedRow)).arrayItems
      (wireTombstones (latest.filterMap buriedRow)).arrayItems).activityVersion =
        some (UInt64String.ofNat held) := hheld
  rw [foldActivityEvent_frame hframe, foldFrame, hrows, hstones, hversion]
  simp only [acceptedActivityFrameWindowFact, ActivityFrameWindowFact.spread, hkept, hadvance,
    hcursor, htotal, hunread, hmore, hcomplete, Option.getD_some]
  rfl

theorem snapshotState_snapshotBody {localeCompare : JsString → JsString → Int} {caller : Caller}
    (hrequest : caller.requestId ≠ []) (filter : ActivityFilter) (scope : ScopeTables) :
    snapshotState (snapshotBody localeCompare caller filter scope) =
      .ok (withWindow (materializeWindow localeCompare scope).metadata scope.watermark
        (applyRowsAndTombstones initialActivityState
          (wireRows (materializeWindow localeCompare scope).rows).arrayItems
          (wireTombstones (materializeWindow localeCompare scope).tombstones).arrayItems)) := by
  rw [snapshotState, snapshotFromResponse_snapshotBody hrequest rfl, ← stateFromSnapshot_payload]
  rfl

/-! ## Differences along a run -/

/-- The heart of the matter, for two states of a scope one of which extends the other. -/
theorem fold_difference (localeCompare : JsString → JsString → Int)
    {snapshotCaller caller : Caller} (hsnapshot : snapshotCaller.requestId ≠ [])
    (hrequest : caller.requestId ≠ []) (filter : ActivityFilter)
    {principalVersion laterVersion : Nat} {held reached : ScopeTables}
    (hheld : ScopeSound principalVersion held) (hreached : ScopeSound laterVersion reached)
    (hepoch : held.epoch = reached.epoch) (hextends : Extends held reached) :
    ∃ body plan state,
      differenceAnswer localeCompare caller filter reached held.epoch held.watermark = .ok body ∧
      differenceFromResponse body = .ok plan ∧
      snapshotState (snapshotBody localeCompare snapshotCaller filter held) = .ok state ∧
      snapshotState (snapshotBody localeCompare snapshotCaller filter reached) =
        .ok (plan.fold state) := by
  obtain ⟨changes, hlog, hwatermark, hmoves, hmetadata⟩ := hextends
  obtain ⟨earlier, hearlier, hearlierLength⟩ := hheld.dense
  have hdense : reached.changes = numbered 0 (earlier ++ changes) := by
    rw [hlog, hearlier, hearlierLength, numbered_append, Nat.zero_add]
  have hlength : reached.watermark = (earlier ++ changes).length := by
    rw [hwatermark, hearlierLength, List.length_append]
  have hmirror := mirrors_window localeCompare hheld.filed
  have hmirror' := mirrors_window localeCompare hreached.filed
  have haccepted : ¬(held.epoch ≠ reached.epoch ∨ reached.watermark < held.watermark) := by
    omega
  rw [snapshotState_snapshotBody hsnapshot, snapshotState_snapshotBody hsnapshot,
    differenceAnswer_of_dense localeCompare caller filter hdense hlength, if_neg haccepted]
  by_cases hnil : changes = []
  · subst hnil
    have hsame : held.watermark = reached.watermark := by simpa using hwatermark.symm
    have hitem : ∀ rowId, itemAt reached.rows rowId = itemAt held.rows rowId := fun rowId => by
      simpa [itemsOf] using (hmoves rowId).last.1
    have hcarried : Mirrors (applyRowsAndTombstones initialActivityState
        (wireRows (materializeWindow localeCompare held).rows).arrayItems
        (wireTombstones (materializeWindow localeCompare held).tombstones).arrayItems) reached :=
      ⟨hmirror.canonical, fun rowId => (hmirror.item rowId).trans (hitem rowId).symm,
        hmirror.foreign⟩
    have hwindow : (materializeWindow localeCompare reached).metadata =
        (materializeWindow localeCompare held).metadata := by
      simp only [materializeWindow, hmetadata rfl]
    refine ⟨_, _, _, if_pos hsame, differenceFromResponse_notModified hrequest rfl, rfl, ?_⟩
    rw [ActivityDifferencePlan.fold, hwindow, hsame]
    exact congrArg Except.ok (withWindow_congr _ _ (hmirror'.eq hcarried))
  · have hpositive : 0 < changes.length := List.length_pos_iff.mpr hnil
    have hahead : held.watermark < reached.watermark := by omega
    have hdrop : (earlier ++ changes).drop held.watermark = changes := by
      rw [hearlierLength, List.drop_left]
    have hcarried := (hmirror.withWindow (materializeWindow localeCompare held).metadata
      held.watermark).apply (fun rowId => (hmoves rowId).last.1)
      (fun rowId => (hmoves rowId).last.2)
      (wireRows ((latestByRow (numbered held.watermark changes)).values.filterMap
        upsertedRow)).arrayItems
      (wireTombstones ((latestByRow (numbered held.watermark changes)).values.filterMap
        buriedRow)).arrayItems
      (fun key item => by
        rw [asRow_wireRows, asTombstone_wireTombstones, mem_page_items, map_change_numbered])
    have hplan := differenceFromResponse_difference hrequest hahead
      (rfl : differenceJson caller filter reached held.watermark
        (latestByRow (numbered held.watermark changes)).values
        (materializeWindow localeCompare reached).metadata = _)
    refine ⟨_, _, _, ?_, hplan, rfl, ?_⟩
    · rw [if_neg (ne_of_lt hahead), hdrop]
    · change _ = Except.ok (foldActivityEvent _ (differenceEvent _))
      rw [foldFrame_differenceEvent rfl rfl hahead]
      exact congrArg Except.ok (withWindow_congr _ _ (hmirror'.eq hcarried))

theorem reconciledScope_run (digest : JsValue → JsString) (inputs : List ReconcileInput)
    (input : ReconcileInput) :
    reconciledScope digest (run (reconcileInTransaction digest) {} inputs) input =
      (run (reconcileInTransaction digest) {} (inputs ++ [input])).scopes input.filter := by
  rw [run_concat]
  rfl

/-- For any two calls of a run that read one scope in one epoch: the difference from the lower
watermark, folded onto the state of the snapshot there, gives the state of the snapshot at the
higher one.  A call is refused only for another epoch or a position above the watermark. -/
theorem difference_equals_snapshot (digest : JsValue → JsString)
    (localeCompare : JsString → JsString → Int) {snapshotCaller caller : Caller}
    (hsnapshot : snapshotCaller.requestId ≠ []) (hrequest : caller.requestId ≠ [])
    {inputs earlier later : List ReconcileInput} {asked answered : ReconcileInput}
    (hearlier : earlier ++ [asked] <+: inputs) (hlater : later ++ [answered] <+: inputs)
    (hfilter : answered.filter = asked.filter) :
    let start := run (reconcileInTransaction digest) {} earlier
    let finish := run (reconcileInTransaction digest) {} later
    let held := reconciledScope digest start asked
    let reached := reconciledScope digest finish answered
    (held.epoch = reached.epoch → held.watermark ≤ reached.watermark →
      ∃ body plan state,
        getActivityDifference digest localeCompare caller finish answered held.epoch
          held.watermark = .ok body ∧
        differenceFromResponse body = .ok plan ∧
        snapshotState (getActivitySnapshot digest localeCompare snapshotCaller start asked) =
          .ok state ∧
        snapshotState (getActivitySnapshot digest localeCompare snapshotCaller finish answered) =
          .ok (plan.fold state)) ∧
      ∀ epoch after body,
        getActivityDifference digest localeCompare caller finish answered epoch after =
          .conflict body → epoch ≠ reached.epoch ∨ reached.watermark < after := by
  intro start finish held reached
  have hheld : held = (run (reconcileInTransaction digest) {} (earlier ++ [asked])).scopes
      asked.filter := reconciledScope_run digest earlier asked
  have hreached : reached = (run (reconcileInTransaction digest) {} (later ++ [answered])).scopes
      asked.filter := by
    rw [← hfilter]
    exact reconciledScope_run digest later answered
  have hsound := tablesSound_run digest tablesSound_initial (earlier ++ [asked])
  have hsound' := tablesSound_run digest tablesSound_initial (later ++ [answered])
  have hheldSound := hheld ▸ hsound.scope asked.filter
  have hreachedSound := hreached ▸ hsound'.scope asked.filter
  constructor
  · intro hepoch hle
    have hextends : Extends held reached := by
      rcases List.prefix_or_prefix_of_prefix hearlier hlater with ⟨rest, hrest⟩ | ⟨rest, hrest⟩
      · have hfollows := follows_run digest hsound rest asked.filter
        rw [← run_append, hrest, ← hheld, ← hreached] at hfollows
        exact hfollows.2 hepoch
      · have hfollows := follows_run digest hsound' rest asked.filter
        rw [← run_append, hrest, ← hheld, ← hreached] at hfollows
        exact (hfollows.2 hepoch.symm).of_le hle
    have hfold := fold_difference localeCompare hsnapshot hrequest
      asked.filter hheldSound hreachedSound hepoch hextends
    rw [← hfilter] at hfold
    rw [getActivitySnapshot, ← hfilter]
    exact hfold
  · intro epoch after body hconflict
    obtain ⟨changes, hlog, hwatermark⟩ := hreachedSound.dense
    rw [getActivityDifference, differenceAnswer_of_dense localeCompare caller answered.filter
      hlog hwatermark] at hconflict
    split at hconflict
    · assumption
    · split at hconflict <;> cases hconflict

def generalRow : ActivityRowPayload where
  fields := [(js "rowId", .string (js "0c7f2f3e-8d7a-4b1c-9a55-0f6f3a1d2b4c")),
    (js "latestActivitySeq", .string (js "12")),
    (js "lastActivityAt", .string (js "2026-01-01T00:00:00.000Z")),
    (js "unreadCount", .number (JsNumber.ofNat 1)), (js "hasMention", .boolean false),
    (js "firstUnreadMessageId", .null), (js "firstMentionMessageId", .null),
    (js "maxReadSeq", .string (js "11")), (js "readStateVersion", .string (js "3")),
    (js "type", .string (js "channel")), (js "channelId", .string (js "c1")),
    (js "channelName", .string (js "general")), (js "channelKind", .string (js "channel")),
    (js "lastMessageId", .string (js "m12")), (js "lastMessagePreview", .string (js "hello")),
    (js "lastMessageSenderKind", .string (js "user")),
    (js "lastMessageSenderId", .string (js "u1")), (js "lastMessageSenderName", .null)]
  conforms := by decide +kernel
  isUuid_rowId := by decide +kernel

def exampleDigest (value : JsValue) : JsString :=
  (value.read (js "channelName")).text ++
    (value.read (js "rows")).arrayItems.flatMap fun row => (row.read (js "payloadDigest")).text

def exampleInput (rows : List ActivityRowPayload)
    (distinct : (rows.map ActivityRowPayload.rowId).Nodup) (scan : List RowId) :
    ReconcileInput where
  filter := .all
  canonical := ⟨rows, ⟨none, false, true, 1, 1⟩, distinct⟩
  reasons := fun _ => .outOfWindow
  scan := scan

theorem generalRow_nodup : ([generalRow].map ActivityRowPayload.rowId).Nodup := by simp

def rowArrives : ReconcileInput := exampleInput [generalRow] generalRow_nodup []

def rowLeaves : ReconcileInput := exampleInput [] (by simp) [generalRow.rowId]

def exampleCaller : Caller := ⟨js "r1", js "s1", js "p1"⟩

theorem difference_equals_snapshot_buried_row :
    ∃ body plan state,
      getActivityDifference exampleDigest (fun _ _ => 0) exampleCaller
        (run (reconcileInTransaction exampleDigest) {} [rowArrives]) rowLeaves 1 2 = .ok body ∧
      differenceFromResponse body = .ok plan ∧
      snapshotState (getActivitySnapshot exampleDigest (fun _ _ => 0) exampleCaller {}
        rowArrives) = .ok state ∧
      snapshotState (getActivitySnapshot exampleDigest (fun _ _ => 0) exampleCaller
        (run (reconcileInTransaction exampleDigest) {} [rowArrives]) rowLeaves) =
          .ok (plan.fold state) := by
  have hcaller : exampleCaller.requestId ≠ [] := by decide
  have hexact := (difference_equals_snapshot exampleDigest (fun _ _ => 0) hcaller hcaller
    (show ([] : List ReconcileInput) ++ [rowArrives] <+: [rowArrives, rowLeaves] from
      ⟨[rowLeaves], rfl⟩)
    (show [rowArrives] ++ [rowLeaves] <+: [rowArrives, rowLeaves] from ⟨[], rfl⟩) rfl).1
  exact hexact (by decide +kernel) (by decide +kernel)

end Raft.ActivityPanel
