import Raft.Activity.Fingerprint

/-!
# What the fold reads of an event

The fold does not see the order of object keys: it commutes with sorting them.
So it is determined, up to that order, by the fact the fingerprint renders.
-/

namespace Raft.Activity

open Raft.Foundation

/-! ## Guards and readers -/

section Readers

theorem leaf_sortKeys {β : Type} (read : JsValue → β)
    (harray : ∀ items others, read (.array items) = read (.array others))
    (hobject : ∀ fields others, read (.object fields) = read (.object others)) (value : JsValue) :
    read value.sortKeys = read value := by
  cases value with
  | array items => exact harray _ _
  | object fields => exact hobject _ _
  | undefined | null | boolean _ | number _ | string _ => rw [JsValue.sortKeys] <;> simp

variable (value : JsValue)

@[simp] theorem isString_sortKeys : value.sortKeys.isString = value.isString :=
  leaf_sortKeys JsValue.isString (fun _ _ => rfl) (fun _ _ => rfl) value

@[simp] theorem text_sortKeys : value.sortKeys.text = value.text :=
  leaf_sortKeys JsValue.text (fun _ _ => rfl) (fun _ _ => rfl) value

@[simp] theorem asString_sortKeys : value.sortKeys.asString? = value.asString? :=
  leaf_sortKeys JsValue.asString? (fun _ _ => rfl) (fun _ _ => rfl) value

@[simp] theorem isNonEmptyString_sortKeys :
    isNonEmptyString value.sortKeys = isNonEmptyString value :=
  leaf_sortKeys isNonEmptyString (fun _ _ => rfl) (fun _ _ => rfl) value

@[simp] theorem isUInt64String_sortKeys :
    isUInt64String value.sortKeys = isUInt64String value :=
  leaf_sortKeys isUInt64String (fun _ _ => rfl) (fun _ _ => rfl) value

@[simp] theorem asUInt64String_sortKeys :
    asUInt64String value.sortKeys = asUInt64String value :=
  leaf_sortKeys asUInt64String (fun _ _ => rfl) (fun _ _ => rfl) value

@[simp] theorem asBoolean_sortKeys : asBoolean value.sortKeys = asBoolean value :=
  leaf_sortKeys asBoolean (fun _ _ => rfl) (fun _ _ => rfl) value

@[simp] theorem asNullableString_sortKeys :
    asNullableString value.sortKeys = asNullableString value :=
  leaf_sortKeys asNullableString (fun _ _ => rfl) (fun _ _ => rfl) value

@[simp] theorem asUnsignedCounter_sortKeys :
    asUnsignedCounter value.sortKeys = asUnsignedCounter value :=
  leaf_sortKeys asUnsignedCounter (fun _ _ => rfl) (fun _ _ => rfl) value

@[simp] theorem isObjectLike_sortKeys : isObjectLike value.sortKeys = isObjectLike value :=
  leaf_sortKeys isObjectLike (fun _ _ => rfl) (fun _ _ => rfl) value

@[simp] theorem isRow_sortKeys : isRow value.sortKeys = isRow value := by
  have hread (key : JsString) := JsValue.read_sortKeys value key
  cases value with
  | object fields =>
      rw [JsValue.sortKeys] at hread ⊢
      simp only [JsValue.read] at hread
      simp only [isRow, hread, isNonEmptyString_sortKeys, isUInt64String_sortKeys,
        isString_sortKeys]
  | undefined | null | boolean _ | number _ | string _ | array _ => simp [JsValue.sortKeys, isRow]

@[simp] theorem isTombstone_sortKeys : isTombstone value.sortKeys = isTombstone value := by
  have hread (key : JsString) := JsValue.read_sortKeys value key
  cases value with
  | object fields =>
      rw [JsValue.sortKeys] at hread ⊢
      simp only [JsValue.read] at hread
      simp only [isTombstone, hread, isNonEmptyString_sortKeys, isUInt64String_sortKeys]
  | undefined | null | boolean _ | number _ | string _ | array _ =>
      simp [JsValue.sortKeys, isTombstone]

end Readers

/-! ## Rows and tombstones -/

def sortedFields (fields : JsObject) : JsObject := sortEntries (JsValue.sortFields fields)

theorem read_sortedFields (fields : JsObject) (key : JsString) :
    JsObject.read (sortedFields fields) key = (JsObject.read fields key).sortKeys := by
  have hread := JsValue.read_sortKeys (.object fields) key
  rwa [JsValue.sortKeys] at hread

namespace ActivityRow

def sortKeys (row : ActivityRow) : ActivityRow where
  fields := sortedFields row.fields
  isRow_fields := by
    have h := isRow_sortKeys (.object row.fields)
    rw [JsValue.sortKeys] at h
    exact h.trans row.isRow_fields

variable (row : ActivityRow)

@[simp] theorem rowId_sortKeys : row.sortKeys.rowId = row.rowId := by
  rw [rowId, sortKeys, read_sortedFields, text_sortKeys, rowId]

@[simp] theorem rowVersion_sortKeys : row.sortKeys.rowVersion = row.rowVersion := by
  apply Subtype.ext
  rw [rowVersion, rowVersion, uint64, uint64, sortKeys]
  simp only [read_sortedFields, text_sortKeys]

@[simp] theorem lastActivityAt_sortKeys : row.sortKeys.lastActivityAt = row.lastActivityAt := by
  rw [lastActivityAt, sortKeys, read_sortedFields, text_sortKeys, lastActivityAt]

end ActivityRow

namespace ActivityRowTombstone

def sortKeys (stone : ActivityRowTombstone) : ActivityRowTombstone where
  fields := sortedFields stone.fields
  isTombstone_fields := by
    have h := isTombstone_sortKeys (.object stone.fields)
    rw [JsValue.sortKeys] at h
    exact h.trans stone.isTombstone_fields

variable (stone : ActivityRowTombstone)

@[simp] theorem rowId_sortKeys : stone.sortKeys.rowId = stone.rowId := by
  rw [rowId, sortKeys, read_sortedFields, text_sortKeys, rowId]

@[simp] theorem rowVersion_sortKeys : stone.sortKeys.rowVersion = stone.rowVersion := by
  apply Subtype.ext
  rw [rowVersion, rowVersion, uint64, uint64, sortKeys]
  simp only [read_sortedFields, text_sortKeys]

end ActivityRowTombstone

theorem asRow_eq_none {value : JsValue} (h : isRow value = false) : asRow value = none := by
  cases value with
  | object fields => exact dif_neg (by rw [h]; nofun)
  | undefined | null | boolean _ | number _ | string _ | array _ => rfl

theorem asTombstone_eq_none {value : JsValue} (h : isTombstone value = false) :
    asTombstone value = none := by
  cases value with
  | object fields => exact dif_neg (by rw [h]; nofun)
  | undefined | null | boolean _ | number _ | string _ | array _ => rfl

theorem asRow_sortKeys (value : JsValue) :
    asRow value.sortKeys = (asRow value).map ActivityRow.sortKeys := by
  cases hrow : isRow value with
  | false => rw [asRow_eq_none hrow, asRow_eq_none (by rw [isRow_sortKeys, hrow]), Option.map_none]
  | true =>
      cases value with
      | object fields =>
          rw [show asRow (.object fields) = _ from asRow_object ⟨fields, hrow⟩, JsValue.sortKeys]
          exact asRow_object (ActivityRow.sortKeys ⟨fields, hrow⟩)
      | undefined | null | boolean _ | number _ | string _ | array _ => cases hrow

theorem asTombstone_sortKeys (value : JsValue) :
    asTombstone value.sortKeys = (asTombstone value).map ActivityRowTombstone.sortKeys := by
  cases hstone : isTombstone value with
  | false =>
      rw [asTombstone_eq_none hstone, asTombstone_eq_none (by rw [isTombstone_sortKeys, hstone]),
        Option.map_none]
  | true =>
      cases value with
      | object fields =>
          rw [show asTombstone (.object fields) = _ from asTombstone_object ⟨fields, hstone⟩,
            JsValue.sortKeys]
          exact asTombstone_object (ActivityRowTombstone.sortKeys ⟨fields, hstone⟩)
      | undefined | null | boolean _ | number _ | string _ | array _ => cases hstone

/-! ## Tables -/

namespace RowTables

def sortKeys (tables : RowTables) : RowTables :=
  { tables with byId := tables.byId.mapValues ActivityRow.sortKeys }

variable (tables : RowTables)

theorem applyRow_sortKeys (candidate : ActivityRow) :
    applyRow tables.sortKeys candidate.sortKeys = (applyRow tables candidate).sortKeys := by
  have hset : (⟨tables.sortKeys.byId.set candidate.rowId candidate.sortKeys,
      tables.tombstones.delete candidate.rowId⟩ : RowTables) =
      sortKeys ⟨tables.byId.set candidate.rowId candidate,
        tables.tombstones.delete candidate.rowId⟩ := by
    rw [sortKeys, sortKeys, InsertionMap.set_mapValues]
  have hget : tables.sortKeys.byId.get candidate.rowId =
      (tables.byId.get candidate.rowId).map ActivityRow.sortKeys :=
    InsertionMap.get_mapValues _ _ _
  have htombstones : tables.sortKeys.tombstones = tables.tombstones := rfl
  simp only [applyRow, ActivityRow.rowId_sortKeys, ActivityRow.rowVersion_sortKeys, hset, hget,
    htombstones]
  split
  · rfl
  · cases tables.byId.get candidate.rowId with
    | none => rfl
    | some existing =>
        simp only [Option.map_some, ActivityRow.rowVersion_sortKeys]
        split <;> rfl

theorem applyTombstone_sortKeys (candidate : ActivityRowTombstone) :
    applyTombstone tables.sortKeys candidate.sortKeys =
      (applyTombstone tables candidate).sortKeys := by
  have hbury : (⟨tables.sortKeys.byId.delete candidate.rowId,
      tables.tombstones.set candidate.rowId candidate.rowVersion⟩ : RowTables) =
      sortKeys ⟨tables.byId.delete candidate.rowId,
        tables.tombstones.set candidate.rowId candidate.rowVersion⟩ := by
    rw [sortKeys, sortKeys, InsertionMap.delete_mapValues]
  have hget : tables.sortKeys.byId.get candidate.rowId =
      (tables.byId.get candidate.rowId).map ActivityRow.sortKeys :=
    InsertionMap.get_mapValues _ _ _
  have htombstones : tables.sortKeys.tombstones = tables.tombstones := rfl
  simp only [applyTombstone, ActivityRowTombstone.rowId_sortKeys,
    ActivityRowTombstone.rowVersion_sortKeys, hbury, hget, htombstones]
  cases tables.byId.get candidate.rowId with
  | none =>
      simp only [Option.map_none]
      split <;> rfl
  | some existing =>
      simp only [Option.map_some, ActivityRow.rowVersion_sortKeys]
      split
      · rfl
      · split <;> rfl

theorem filterMap_asRow_sortKeys (rows : List JsValue) :
    (rows.map JsValue.sortKeys).filterMap asRow =
      (rows.filterMap asRow).map ActivityRow.sortKeys := by
  rw [List.filterMap_map, List.map_filterMap]
  exact List.filterMap_congr fun value _ => asRow_sortKeys value

theorem filterMap_asTombstone_sortKeys (tombstones : List JsValue) :
    (tombstones.map JsValue.sortKeys).filterMap asTombstone =
      (tombstones.filterMap asTombstone).map ActivityRowTombstone.sortKeys := by
  rw [List.filterMap_map, List.map_filterMap]
  exact List.filterMap_congr fun value _ => asTombstone_sortKeys value

theorem foldl_sortKeys {α : Type} (apply : RowTables → α → RowTables) (sort : α → α)
    (h : ∀ tables candidate,
      apply (sortKeys tables) (sort candidate) = sortKeys (apply tables candidate))
    (candidates : List α) :
    (candidates.map sort).foldl apply tables.sortKeys =
      (candidates.foldl apply tables).sortKeys := by
  induction candidates generalizing tables with
  | nil => rfl
  | cons candidate candidates ih => rw [List.map_cons, List.foldl_cons, h, ih, List.foldl_cons]

theorem foldTables_sortKeys (rows tombstones : List JsValue) :
    foldTables tables.sortKeys (rows.map JsValue.sortKeys) (tombstones.map JsValue.sortKeys) =
      (foldTables tables rows tombstones).sortKeys := by
  rw [foldTables, foldTables, filterMap_asRow_sortKeys, filterMap_asTombstone_sortKeys,
    foldl_sortKeys _ _ _ applyRow_sortKeys, foldl_sortKeys _ _ _ applyTombstone_sortKeys]

theorem foldTables_filter (rows tombstones : List JsValue) :
    foldTables tables (rows.filter isRow) (tombstones.filter isTombstone) =
      foldTables tables rows tombstones := by
  have hrows : (rows.filter isRow).filterMap asRow = rows.filterMap asRow := by
    rw [List.filterMap_filter]
    refine List.filterMap_congr fun value _ => ?_
    cases hrow : isRow value with
    | false => rw [if_neg nofun, asRow_eq_none hrow]
    | true => rw [if_pos rfl]
  have htombstones : (tombstones.filter isTombstone).filterMap asTombstone =
      tombstones.filterMap asTombstone := by
    rw [List.filterMap_filter]
    refine List.filterMap_congr fun value _ => ?_
    cases hstone : isTombstone value with
    | false => rw [if_neg nofun, asTombstone_eq_none hstone]
    | true => rw [if_pos rfl]
  rw [foldTables, foldTables, hrows, htombstones]

end RowTables

theorem indexRows_sortKeys (rows : List ActivityRow) :
    indexRows (rows.map ActivityRow.sortKeys) =
      (indexRows rows).mapValues ActivityRow.sortKeys :=
  indexRows_map ActivityRow.rowId_sortKeys rows

theorem sortRows_sortKeys (rows : List ActivityRow) :
    sortRows (rows.map ActivityRow.sortKeys) = (sortRows rows).map ActivityRow.sortKeys := by
  have hcompare (left right : ActivityRow) :
      compareRows left.sortKeys right.sortKeys = compareRows left right := by
    simp [compareRows]
  exact (List.map_insertionSort _ _ ActivityRow.sortKeys rows
    fun left _ right _ => by rw [hcompare]).symm

/-! ## The fold -/

/-- Two states are equal up to key order when sorting the keys of their rows makes them equal. -/
def ActivityDomainState.sortKeys (state : ActivityDomainState) : ActivityDomainState :=
  { state with rows := state.rows.map ActivityRow.sortKeys }

theorem applyRowsAndTombstones_sortKeys (state : ActivityDomainState)
    (rows tombstones : List JsValue) :
    applyRowsAndTombstones state.sortKeys (rows.map JsValue.sortKeys)
        (tombstones.map JsValue.sortKeys) =
      (applyRowsAndTombstones state rows tombstones).sortKeys := by
  have htables : RowTables.mk (indexRows state.sortKeys.rows) state.sortKeys.tombstones =
      RowTables.sortKeys ⟨indexRows state.rows, state.tombstones⟩ := by
    rw [RowTables.sortKeys, ← indexRows_sortKeys]
    rfl
  simp only [applyRowsAndTombstones, htables, RowTables.foldTables_sortKeys]
  simp only [RowTables.sortKeys, InsertionMap.values_mapValues, sortRows_sortKeys]
  rfl

theorem updateNames_sortKeys (row : ActivityRow) (candidate : JsValue) :
    updateNames row candidate.sortKeys = updateNames row candidate := by
  rw [updateNames, updateNames, isObjectLike_sortKeys, JsValue.read_sortKeys, asString_sortKeys]

theorem foldReadStateUpdate_sortKeys (updates : List JsValue) (row : ActivityRow) :
    foldReadStateUpdate (updates.map JsValue.sortKeys) row = foldReadStateUpdate updates row := by
  have hfind : (updates.map JsValue.sortKeys).find? (updateNames row) =
      (updates.find? (updateNames row)).map JsValue.sortKeys := by
    rw [List.find?_map]
    congr 2
    exact funext fun candidate => updateNames_sortKeys row candidate
  rw [foldReadStateUpdate, foldReadStateUpdate, hfind]
  cases updates.find? (updateNames row) with
  | none => rfl
  | some update => simp only [Option.map_some, JsValue.read_sortKeys, asUInt64String_sortKeys]

theorem acceptedActivityFrameWindowFact_sortKeys (source : JsValue) :
    acceptedActivityFrameWindowFact source.sortKeys = acceptedActivityFrameWindowFact source := by
  simp [acceptedActivityFrameWindowFact, JsValue.read_sortKeys]

/-! ## The accepted fact -/

theorem read_optional {α : Type} (accepted : Option α) (name : JsString) (render : α → JsValue)
    (rest : JsObject) (key : JsString) :
    JsObject.read ((accepted.map fun value => (name, render value)).toList ++ rest) key =
      if name = key then accepted.elim (JsObject.read rest key) render
      else JsObject.read rest key := by
  cases accepted with
  | none => simp
  | some value => by_cases h : name = key <;> simp [JsObject.read, h]

theorem keys_optional {α : Type} (accepted : Option α) (name : JsString) (render : α → JsValue) :
    ((accepted.map fun value => (name, render value)).toList.map Prod.fst).Sublist [name] := by
  cases accepted with
  | none => exact List.nil_sublist _
  | some value => exact List.Sublist.refl _

theorem read_optional_last {α : Type} (accepted : Option α) (name : JsString)
    (render : α → JsValue) (key : JsString) :
    JsObject.read (accepted.map fun value => (name, render value)).toList key =
      if name = key then accepted.elim .undefined render else .undefined := by
  have h := read_optional accepted name render [] key
  rwa [List.append_nil] at h

def windowKeys : List JsString :=
  [js "nextCursor", js "hasMore", js "complete", js "totalCount", js "totalUnreadCount"]

theorem nodup_windowFields (fact : ActivityFrameWindowFact) :
    (fact.fields.map Prod.fst).Nodup := by
  have hkeys : windowKeys.Nodup := by decide
  refine hkeys.sublist ?_
  simp only [ActivityFrameWindowFact.fields, List.map_append]
  exact ((((keys_optional _ _ _).append (keys_optional _ _ _)).append
    (keys_optional _ _ _)).append (keys_optional _ _ _)).append (keys_optional _ _ _)

theorem asUnsignedCounter_number {value : JsValue} {number : JsNumber}
    (h : asUnsignedCounter value = some number) :
    asUnsignedCounter (.number number) = some number := by
  cases value with
  | number found =>
      rw [asUnsignedCounter] at h
      split at h
      · next hcounter =>
          cases h
          rw [asUnsignedCounter, if_pos hcounter]
      · cases h
  | undefined | null | boolean _ | string _ | array _ | object _ => cases h

theorem asUnsignedCounter_elim (value : JsValue) :
    asUnsignedCounter ((asUnsignedCounter value).elim .undefined JsValue.number) =
      asUnsignedCounter value := by
  cases hcounter : asUnsignedCounter value with
  | none => rfl
  | some number => exact asUnsignedCounter_number hcounter

theorem asBoolean_elim (accepted : Option Bool) :
    asBoolean (accepted.elim .undefined JsValue.boolean) = accepted := by
  cases accepted <;> rfl

theorem asNullableString_elim (accepted : Option (Option JsString)) :
    asNullableString
        (accepted.elim .undefined fun cursor => cursor.elim JsValue.null JsValue.string) =
      accepted := by
  rcases accepted with _ | _ | text <;> rfl

/-- Accepting the rendered window facts gives them back. -/
theorem acceptedActivityFrameWindowFact_fields (source : JsValue) :
    acceptedActivityFrameWindowFact (.object (acceptedActivityFrameWindowFact source).fields) =
      acceptedActivityFrameWindowFact source := by
  have hkeys : windowKeys.Nodup := by decide
  have hkeys' : windowKeys.reverse.Nodup := by decide
  simp only [windowKeys, List.reverse_cons, List.reverse_nil, List.nil_append, List.cons_append,
    List.nodup_cons, List.mem_cons, List.not_mem_nil, or_false, not_or, not_false_eq_true,
    List.nodup_nil, and_true] at hkeys hkeys'
  have hread (fields : JsObject) (key : JsString) :
      (JsValue.object fields).read key = JsObject.read fields key := rfl
  simp [acceptedActivityFrameWindowFact, hread, ActivityFrameWindowFact.fields, read_optional,
    read_optional_last, hkeys, hkeys', asUnsignedCounter_elim, asBoolean_elim,
    asNullableString_elim]

section Fact

variable {numberText : JsNumber → JsString} {numbers : Set JsNumber}

theorem jsonValued_orNull {value : JsValue} (h : JsonValued numbers value)
    (key : JsString) : JsonValued numbers (orNull (value.read key)) := by
  rcases h.read key with hread | hread
  · rw [hread]
    exact .null
  · cases hvalue : value.read key with
    | undefined => exact .null
    | null | boolean _ | number _ | string _ | array _ | object _ =>
        rw [hvalue] at hread
        exact hread

theorem jsonValued_renderedItems (items : List JsValue) :
    JsonValued numbers (renderedItems numberText items) := by
  refine .array fun item hitem => ?_
  obtain ⟨value, -, rfl⟩ := List.mem_map.mp hitem
  exact .string _

theorem asUnsignedCounter_mem {value : JsValue} (h : JsonValued numbers value)
    (key : JsString) :
    ∀ number ∈ asUnsignedCounter (value.read key), number ∈ numbers := by
  intro number hnumber
  rcases h.read key with hread | hread
  · rw [hread] at hnumber
    cases hnumber
  · cases hvalue : value.read key with
    | number found =>
        rw [hvalue] at hnumber hread
        rw [asUnsignedCounter] at hnumber
        split at hnumber
        · cases hnumber
          cases hread with
          | number hmem => exact hmem
        · cases hnumber
    | undefined | null | boolean _ | string _ | array _ | object _ =>
        rw [hvalue] at hnumber
        cases hnumber

theorem jsonValued_window {event : JsValue} (h : JsonValued numbers event) :
    JsonValued numbers (.object (acceptedActivityFrameWindowFact event).fields) := by
  refine .object (nodup_windowFields _) fun field hfield => ?_
  simp only [ActivityFrameWindowFact.fields, List.mem_append, Option.mem_toList,
    Option.map_eq_some_iff] at hfield
  rcases hfield with (((⟨cursor, _, rfl⟩ | ⟨flag, _, rfl⟩) | ⟨flag, _, rfl⟩) |
    ⟨count, hcount, rfl⟩) | ⟨count, hcount, rfl⟩
  · cases cursor with
    | none => exact .null
    | some text => exact .string text
  · exact .boolean flag
  · exact .boolean flag
  · exact .number (asUnsignedCounter_mem h _ count hcount)
  · exact .number (asUnsignedCounter_mem h _ count hcount)

def IsActivityEvent (event : JsValue) : Prop :=
  event.read (js "type") = .string (js "frame") ∨
    event.read (js "type") = .string (js "readStateUpdated")

theorem jsonValued_eventFact {event : JsValue} (h : JsonValued numbers event)
    (htype : IsActivityEvent event) :
    JsonValued numbers (.array (eventFact numberText event)) := by
  have hname : JsonValued numbers (event.read (js "type")) := by
    rcases htype with htype | htype
    all_goals
      rw [htype]
      exact .string _
  refine .array fun item hitem => ?_
  simp only [eventFact, List.mem_append, List.mem_cons, List.not_mem_nil, or_false] at hitem
  rcases hitem with (rfl | rfl | rfl | rfl | rfl) | hwindow
  · exact hname
  · exact jsonValued_orNull h _
  · exact jsonValued_renderedItems _
  · exact jsonValued_renderedItems _
  · exact jsonValued_renderedItems _
  · split at hwindow
    · rw [List.mem_singleton.mp hwindow]
      exact jsonValued_window h
    · cases hwindow

theorem sameItems_of_renderedItems (htexts : NumberTexts numberText numbers)
    {items others : List JsValue} (hitems : ∀ item ∈ items, JsonValued numbers item)
    (hothers : ∀ other ∈ others, JsonValued numbers other)
    (h : SameUpToKeys (renderedItems numberText items) (renderedItems numberText others)) :
    items.map JsValue.sortKeys = others.map JsValue.sortKeys := by
  have hsame := h.items
  rw [List.forall₂_map_left_iff, List.forall₂_map_right_iff] at hsame
  clear h
  induction hsame with
  | nil => rfl
  | cons htext hsame ih =>
      rw [List.map_cons, List.map_cons,
        ih (fun item hmem => hitems item (List.mem_cons_of_mem _ hmem))
          (fun other hmem => hothers other (List.mem_cons_of_mem _ hmem))]
      have hvalue : SameUpToKeys _ _ := canonicalText_injective htexts
        (hitems _ List.mem_cons_self) (hothers _ List.mem_cons_self)
        (JsValue.string.inj htext.text_eq).symm
      rw [hvalue]

theorem asUInt64String_orNull (value : JsValue) :
    asUInt64String (orNull value) = asUInt64String value := by
  cases value <;> rfl

/-- What the fold reads of the two events is the same, up to the order of keys. -/
structure SameFact (event other : JsValue) : Prop where
  type : event.read (js "type") = other.read (js "type")
  version : asUInt64String (event.read (js "activityVersion")) =
    asUInt64String (other.read (js "activityVersion"))
  rows : ((event.read (js "rows")).arrayItems.filter isRow).map JsValue.sortKeys =
    ((other.read (js "rows")).arrayItems.filter isRow).map JsValue.sortKeys
  tombstones : ((event.read (js "tombstones")).arrayItems.filter isTombstone).map
      JsValue.sortKeys =
    ((other.read (js "tombstones")).arrayItems.filter isTombstone).map JsValue.sortKeys
  updates : (event.read (js "updates")).arrayItems.map JsValue.sortKeys =
    (other.read (js "updates")).arrayItems.map JsValue.sortKeys
  window : event.read (js "type") = .string (js "frame") →
    acceptedActivityFrameWindowFact event = acceptedActivityFrameWindowFact other

theorem sameFact_of_fingerprint (htexts : NumberTexts numberText numbers) {event other : JsValue}
    (hevent : JsonValued numbers event) (hother : JsonValued numbers other)
    (htype : IsActivityEvent event) (htype' : IsActivityEvent other)
    (h : fingerprintActivityEvent numberText event = fingerprintActivityEvent numberText other) :
    SameFact event other := by
  have hfact := (canonicalText_injective htexts (jsonValued_eventFact hevent htype)
    (jsonValued_eventFact hother htype') h).items
  simp only [eventFact, List.cons_append, List.forall₂_cons, List.nil_append] at hfact
  obtain ⟨hname, hversion, hrows, htombstones, hupdates, hwindow⟩ := hfact
  have hname : event.read (js "type") = other.read (js "type") := by
    rcases htype with htype | htype
    all_goals
      rw [htype] at hname
      rw [htype, hname.text_eq]
  refine
    { type := hname
      version := ?_
      rows := sameItems_of_renderedItems htexts
        (fun item hmem => hevent.arrayItems_read _ item (List.mem_of_mem_filter hmem))
        (fun item hmem => hother.arrayItems_read _ item (List.mem_of_mem_filter hmem)) hrows
      tombstones := sameItems_of_renderedItems htexts
        (fun item hmem => hevent.arrayItems_read _ item (List.mem_of_mem_filter hmem))
        (fun item hmem => hother.arrayItems_read _ item (List.mem_of_mem_filter hmem)) htombstones
      updates := sameItems_of_renderedItems htexts (hevent.arrayItems_read _)
        (hother.arrayItems_read _) hupdates
      window := fun hframe => ?_ }
  · rw [← asUInt64String_orNull, ← asUInt64String_sortKeys, hversion, asUInt64String_sortKeys,
      asUInt64String_orNull]
  · have hisFrame : isFrame event = true := by simp [isFrame, hframe, JsValue.asString?]
    have hisFrame' : isFrame other = true := by simp [isFrame, ← hname, hframe, JsValue.asString?]
    rw [if_pos hisFrame, if_pos hisFrame', List.forall₂_cons] at hwindow
    rw [← acceptedActivityFrameWindowFact_fields event,
      ← acceptedActivityFrameWindowFact_fields other,
      ← acceptedActivityFrameWindowFact_sortKeys (.object _), hwindow.1,
      acceptedActivityFrameWindowFact_sortKeys]

end Fact

theorem advanceActivityVersion_congr {value other : JsValue}
    (h : asUInt64String value = asUInt64String other) (current : Option UInt64String) :
    advanceActivityVersion current value = advanceActivityVersion current other := by
  unfold advanceActivityVersion
  rw [h]

namespace SameFact

variable {event other : JsValue}

theorem applyRowsAndTombstones (h : SameFact event other) (state : ActivityDomainState) :
    (applyRowsAndTombstones state (event.read (js "rows")).arrayItems
        (event.read (js "tombstones")).arrayItems).sortKeys =
      (Activity.applyRowsAndTombstones state (other.read (js "rows")).arrayItems
        (other.read (js "tombstones")).arrayItems).sortKeys := by
  have hfilter (rows tombstones : List JsValue) :
      (Activity.applyRowsAndTombstones state rows tombstones).sortKeys =
        Activity.applyRowsAndTombstones state.sortKeys
          ((rows.filter isRow).map JsValue.sortKeys)
          ((tombstones.filter isTombstone).map JsValue.sortKeys) := by
    rw [applyRowsAndTombstones_sortKeys, Activity.applyRowsAndTombstones,
      Activity.applyRowsAndTombstones, RowTables.foldTables_filter]
  rw [hfilter, hfilter, h.rows, h.tombstones]

theorem foldFrame (h : SameFact event other)
    (hframe : event.read (js "type") = .string (js "frame")) (state : ActivityDomainState) :
    (foldFrame state event).sortKeys = (Activity.foldFrame state other).sortKeys := by
  have hspread (event : JsValue) : (Activity.foldFrame state event).sortKeys =
      (acceptedActivityFrameWindowFact event).spread
        { (Activity.applyRowsAndTombstones state (event.read (js "rows")).arrayItems
            (event.read (js "tombstones")).arrayItems).sortKeys with
          activityVersion := advanceActivityVersion state.activityVersion
            (event.read (js "activityVersion")) } := rfl
  rw [hspread, hspread, h.applyRowsAndTombstones, h.window hframe,
    advanceActivityVersion_congr h.version]

theorem foldReadStateUpdates (h : SameFact event other) (state : ActivityDomainState) :
    foldReadStateUpdates state (event.read (js "updates")).arrayItems =
      Activity.foldReadStateUpdates state (other.read (js "updates")).arrayItems := by
  have hupdate (row : ActivityRow) :
      foldReadStateUpdate (event.read (js "updates")).arrayItems row =
        foldReadStateUpdate (other.read (js "updates")).arrayItems row := by
    rw [← foldReadStateUpdate_sortKeys, h.updates, foldReadStateUpdate_sortKeys]
  rw [Activity.foldReadStateUpdates, Activity.foldReadStateUpdates, funext hupdate]

theorem fold (h : SameFact event other) (state : ActivityDomainState) :
    (foldActivityEvent state event).sortKeys = (foldActivityEvent state other).sortKeys := by
  cases htype : event.read (js "type") with
  | string type =>
      have htype' := htype
      rw [h.type] at htype'
      rw [foldActivityEvent, foldActivityEvent, htype, htype']
      simp only
      split
      · next hframe => exact h.foldFrame (by rw [htype, hframe]) state
      · rw [h.foldReadStateUpdates, advanceActivityVersion_congr h.version]
  | undefined | null | boolean _ | number _ | array _ | object _ =>
      have htype' := htype
      rw [h.type] at htype'
      rw [foldActivityEvent, foldActivityEvent, htype, htype']

end SameFact

/-- Events of one fingerprint have the same effect on every state. -/
theorem fingerprint_sound {numberText : JsNumber → JsString} {numbers : Set JsNumber}
    (htexts : NumberTexts numberText numbers) {event other : JsValue}
    (hevent : JsonValued numbers event) (hother : JsonValued numbers other)
    (htype : IsActivityEvent event) (htype' : IsActivityEvent other)
    (h : fingerprintActivityEvent numberText event = fingerprintActivityEvent numberText other)
    (state : ActivityDomainState) :
    (foldActivityEvent state event).sortKeys = (foldActivityEvent state other).sortKeys :=
  (sameFact_of_fingerprint htexts hevent hother htype htype' h).fold state

def countedFrame : JsValue :=
  .object [(js "type", .string (js "frame")), (js "totalCount", .number (.ofNat 3))]

def reorderedFrame : JsValue :=
  .object [(js "totalCount", .number (.ofNat 3)), (js "type", .string (js "frame"))]

theorem fingerprint_sound_reordered :
    (foldActivityEvent initialActivityState countedFrame).sortKeys =
      (foldActivityEvent initialActivityState reorderedFrame).sortKeys := by
  have hfields : ∀ field ∈ [(js "type", JsValue.string (js "frame")),
      (js "totalCount", .number (.ofNat 3))], JsonValued safeCounters field.2 := by
    simp only [List.forall_mem_cons, List.not_mem_nil, false_implies, implies_true, and_true]
    exact ⟨.string _, .number ⟨3, by decide, rfl⟩⟩
  exact fingerprint_sound numberTexts_counterText (.object (by decide) hfields)
    (.object (by decide) fun field hmem => hfields field (List.mem_reverse.mp hmem))
    (Or.inl (by rfl)) (Or.inl (by rfl)) (by decide +kernel) initialActivityState

end Raft.Activity
