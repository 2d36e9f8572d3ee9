import Raft.Activity.Fold

/-!
# The read state of a row

A row carries two version clocks.  A frame replaces whole rows by `rowVersion`,
a `readStateUpdated` event patches the read state by `readStateVersion`, and
only the second compares read states.
-/

namespace Raft.Activity

open Raft.Foundation

/-! ## Patches -/

namespace ActivityRow

variable (row : ActivityRow) (maxReadSeq readStateVersion : UInt64String)

theorem read_withReadState (key : JsString) :
    JsObject.read (row.withReadState maxReadSeq readStateVersion).fields key =
      if key = js "readStateVersion" then .string readStateVersion
      else if key = js "maxReadSeq" then .string maxReadSeq
      else JsObject.read row.fields key := by
  rw [withReadState, JsObject.read_write, JsObject.read_write]

@[simp] theorem rowId_withReadState :
    (row.withReadState maxReadSeq readStateVersion).rowId = row.rowId := by
  rw [rowId, read_withReadState, if_neg (by decide), if_neg (by decide), rowId]

@[simp] theorem lastActivityAt_withReadState :
    (row.withReadState maxReadSeq readStateVersion).lastActivityAt = row.lastActivityAt := by
  rw [lastActivityAt, read_withReadState, if_neg (by decide), if_neg (by decide), lastActivityAt]

@[simp] theorem rowVersion_withReadState :
    (row.withReadState maxReadSeq readStateVersion).rowVersion = row.rowVersion := by
  apply Subtype.ext
  rw [rowVersion, rowVersion, uint64, uint64]
  simp only
  rw [read_withReadState, if_neg (by decide), if_neg (by decide)]

@[simp] theorem readStateVersion_withReadState :
    (row.withReadState maxReadSeq readStateVersion).readStateVersion = readStateVersion := by
  apply Subtype.ext
  rw [ActivityRow.readStateVersion, uint64]
  simp only
  rw [read_withReadState, if_pos rfl, JsValue.text]

end ActivityRow

def readStateOf (update : JsValue) : Option (UInt64String × UInt64String) :=
  match asUInt64String (update.read (js "readStateVersion")),
      asUInt64String (update.read (js "maxReadSeq")) with
  | some readStateVersion, some maxReadSeq => some (readStateVersion, maxReadSeq)
  | _, _ => none

def patchRow (row : ActivityRow) (update : JsValue) : ActivityRow :=
  match readStateOf update with
  | none => row
  | some (readStateVersion, maxReadSeq) =>
      if readStateVersion.value ≤ row.readStateVersion.value then row
      else row.withReadState maxReadSeq readStateVersion

theorem foldReadStateUpdate_eq (updates : List JsValue) (row : ActivityRow) :
    foldReadStateUpdate updates row =
      ((updates.find? (updateNames row)).map (patchRow row)).getD row := by
  rw [foldReadStateUpdate]
  cases updates.find? (updateNames row) with
  | none => rfl
  | some update =>
      simp only [Option.map_some, Option.getD_some, patchRow, readStateOf]
      cases asUInt64String (update.read (js "readStateVersion")) with
      | none => rfl
      | some readStateVersion =>
          cases asUInt64String (update.read (js "maxReadSeq")) with
          | none => rfl
          | some maxReadSeq => simp only [compareUInt64String_nonpos]

structure Patched (row next : ActivityRow) : Prop where
  rowId : next.rowId = row.rowId
  rowVersion : next.rowVersion = row.rowVersion
  lastActivityAt : next.lastActivityAt = row.lastActivityAt
  readState : row.readStateVersion.value ≤ next.readStateVersion.value

theorem Patched.refl (row : ActivityRow) : Patched row row := ⟨rfl, rfl, rfl, le_refl _⟩

theorem patched_patchRow (row : ActivityRow) (update : JsValue) :
    Patched row (patchRow row update) := by
  rw [patchRow]
  cases readStateOf update with
  | none => exact .refl row
  | some versions =>
      simp only
      split
      · exact .refl row
      · next hnewer => exact ⟨by simp, by simp, by simp, by simpa using (not_le.mp hnewer).le⟩

theorem patched_foldReadStateUpdate (updates : List JsValue) (row : ActivityRow) :
    Patched row (foldReadStateUpdate updates row) := by
  rw [foldReadStateUpdate_eq]
  cases updates.find? (updateNames row) with
  | none => exact .refl row
  | some update => exact patched_patchRow row update

theorem Canonical.mapRows {state : ActivityDomainState} (h : Canonical state)
    {change : ActivityRow → ActivityRow} (hchange : ∀ row, Patched row (change row)) :
    Canonical { state with rows := state.rows.map change } := by
  have hids : (state.rows.map change).map ActivityRow.rowId = state.rows.map ActivityRow.rowId := by
    rw [List.map_map]
    exact List.map_congr_left fun row _ => (hchange row).rowId
  have hget (rowId : JsString) : (indexRows (state.rows.map change)).get rowId =
      ((indexRows state.rows).get rowId).map change := by
    rw [indexRows_map fun row => (hchange row).rowId, InsertionMap.get_mapValues]
  refine ⟨by rw [hids]; exact h.unique, ?_, ?_⟩
  · refine List.pairwise_map.mpr (h.sorted.imp fun {left right} hle => ?_)
    simpa only [compareRows, (hchange left).rowId, (hchange right).rowId,
      (hchange left).lastActivityAt, (hchange right).lastActivityAt] using hle
  · have hfound {rowId : JsString} {row : ActivityRow}
        (hrow : (indexRows (state.rows.map change)).get rowId = some row) :
        ∃ old, (indexRows state.rows).get rowId = some old ∧ change old = row := by
      rw [hget, Option.map_eq_some_iff] at hrow
      exact hrow
    refine ⟨fun rowId row hrow => ?_, fun rowId row hrow => ?_, fun rowId item hitem => ?_⟩
    · obtain ⟨old, hold, rfl⟩ := hfound hrow
      rw [(hchange old).rowId]
      exact h.exclusive.filed rowId old hold
    · obtain ⟨old, hold, -⟩ := hfound hrow
      exact h.exclusive.unburied rowId old hold
    · simp only [ActivityDomainState.tables, RowTables.item, hget] at hitem
      cases hold : (indexRows state.rows).get rowId with
      | none =>
          rw [hold] at hitem
          exact h.exclusive.recordable rowId item ((RowTables.item_of_not_live hold).trans hitem)
      | some old =>
          rw [hold] at hitem
          cases hitem
          have hlive := h.exclusive.recordable rowId _ (RowTables.item_of_live hold)
          simpa only [recordable, (hchange old).rowVersion] using hlive

/-! ## Frames -/

/-- The row that the frame leaves in place of an older one: the first of greatest version among
the frame's rows of its `rowId`, above every tombstone of the frame. -/
structure Prevails (event : JsValue) (row : ActivityRow) : Prop where
  first : FirstGreatest (fun other => other.rowVersion.value)
    ((frameRows event).filter fun other => other.rowId = row.rowId) row
  unburied : ∀ stone ∈ frameTombstones event, stone.rowId = row.rowId →
    stone.rowVersion.value < row.rowVersion.value

theorem RowItem.rank_live_lt (first second : ActivityRow) :
    RowItem.rank (.live first) < RowItem.rank (.live second) ↔
      first.rowVersion.value < second.rowVersion.value := by
  simp only [RowItem.rank]
  omega

theorem firstGreatest_live {rows : List ActivityRow} {row : ActivityRow} :
    FirstGreatest RowItem.rank (rows.map .live) (.live row) ↔
      FirstGreatest (fun other => other.rowVersion.value) rows row :=
  firstGreatest_map RowItem.rank (fun _ _ heq => RowItem.live.inj heq) RowItem.rank_live_lt

/-- A row that is live before and after a frame was not reached by a tombstone, and it is the old
row or the frame's newer one. -/
theorem mem_foldFrame_iff {state : ActivityDomainState} (h : Canonical state)
    {row later : ActivityRow} (hrow : row ∈ state.rows) (hid : later.rowId = row.rowId)
    (event : JsValue) :
    later ∈ (foldFrame state event).rows ↔
      (later = row ∧ ∀ item ∈ frameItems row.rowId event, item.rank ≤ RowItem.rank (.live row)) ∨
        (row.rowVersion.value < later.rowVersion.value ∧ Prevails event later) := by
  obtain ⟨hnext, hitems⟩ := h.foldFrame event
  have hlive := h.mem_rows_iff.mp hrow
  rw [hnext.mem_rows_iff, hid, hitems, hlive, frameItems, itemsFor, offerKeptAll_append]
  set rows := (frameRows event).filter fun other => other.rowId = row.rowId with hrows
  set stones := ((frameTombstones event).filter fun stone => stone.rowId = row.rowId).map
    fun stone => RowItem.buried stone.rowVersion with hstones
  have houtgrows : outgrows row.rowId row.rowVersion = true := h.exclusive.recordable _ _ hlive
  have hkeeps : ∀ item ∈ rows.map RowItem.live, RowItem.rank (.live row) < item.rank →
      recordable row.rowId item = true := by
    intro item hitem hgreater
    obtain ⟨other, -, rfl⟩ := List.mem_map.mp hitem
    exact outgrows_of_le houtgrows ((RowItem.rank_live_lt _ _).mp hgreater).le
  rw [offerKeptAll_eq_offerAll _ _ hkeeps]
  have hstone : RowItem.live later ∉ stones := by simp [hstones]
  rw [offerKeptAll_eq_some_iff _ _ hstone, offerAll_eq_some_iff, firstGreatest_live,
    RowItem.rank_live_lt, RowItem.live.injEq, List.forall_mem_append]
  have hburied : (∀ item ∈ stones, item.rank ≤ RowItem.rank (.live later)) ↔
      ∀ stone ∈ frameTombstones event, stone.rowId = later.rowId →
        stone.rowVersion.value < later.rowVersion.value := by
    simp only [hstones, List.forall_mem_map, List.mem_filter, decide_eq_true_eq, and_imp, hid,
      RowItem.rank]
    exact forall₃_congr fun stone _ _ => by omega
  constructor
  · rintro ⟨⟨rfl, hrest⟩ | ⟨hgreater, hfirst⟩, hle⟩
    · exact Or.inl ⟨rfl, hrest, hle⟩
    · exact Or.inr ⟨hgreater, ⟨by rwa [hid], hburied.mp hle⟩⟩
  · rintro (⟨rfl, hrest, hle⟩ | ⟨hgreater, hfirst, hunburied⟩)
    · exact ⟨Or.inl ⟨rfl, hrest⟩, hle⟩
    · rw [hid] at hfirst
      exact ⟨Or.inr ⟨hgreater, hfirst⟩, hburied.mpr hunburied⟩

/-! ## Runs -/

section Runs

variable {state : ActivityDomainState}

/-- Every row that stays live keeps or raises its read state. -/
def ReadStateKept (before after : ActivityDomainState) : Prop :=
  ∀ row ∈ before.rows, ∀ later ∈ after.rows, later.rowId = row.rowId →
    row.readStateVersion.value ≤ later.readStateVersion.value

instance (before after : ActivityDomainState) : Decidable (ReadStateKept before after) :=
  inferInstanceAs (Decidable (∀ row ∈ before.rows, ∀ later ∈ after.rows, later.rowId = row.rowId →
    row.readStateVersion.value ≤ later.readStateVersion.value))

def BringsReadState (state : ActivityDomainState) (event : JsValue) : Prop :=
  IsFrame event → ∀ row ∈ state.rows, ∀ candidate, candidate.rowId = row.rowId →
    Prevails event candidate → row.rowVersion.value < candidate.rowVersion.value →
      row.readStateVersion.value ≤ candidate.readStateVersion.value

theorem Canonical.eq_of_rowId (h : Canonical state) {row other : ActivityRow}
    (hrow : row ∈ state.rows) (hother : other ∈ state.rows) (hid : other.rowId = row.rowId) :
    other = row := by
  rw [h.mem_rows_iff] at hrow hother
  rw [hid, hrow] at hother
  cases hother
  rfl

theorem foldActivityEvent_patched {event : JsValue} (hframe : ¬ IsFrame event)
    (state : ActivityDomainState) :
    ∃ change, (∀ row, Patched row (change row)) ∧
      (foldActivityEvent state event).rows = state.rows.map change ∧
      (foldActivityEvent state event).tombstones = state.tombstones := by
  have hkept : ∃ change, (∀ row, Patched row (change row)) ∧
      state.rows = state.rows.map change ∧ state.tombstones = state.tombstones :=
    ⟨id, .refl, by simp, rfl⟩
  cases htype : event.read (js "type") with
  | string type =>
      rw [foldActivityEvent, htype]
      simp only
      split
      · next heq => exact absurd (htype.trans (by rw [heq])) hframe
      · split
        · exact ⟨_, patched_foldReadStateUpdate _, rfl, rfl⟩
        · exact hkept
  | undefined | null | boolean _ | number _ | array _ | object _ =>
      rw [foldActivityEvent, htype]
      exact hkept

theorem Canonical.of_rows (h : Canonical state) {next : ActivityDomainState}
    (hrows : next.rows = state.rows) (htombstones : next.tombstones = state.tombstones) :
    Canonical next := by
  refine ⟨by rw [hrows]; exact h.unique, by rw [hrows]; exact h.sorted, ?_⟩
  rw [ActivityDomainState.tables, hrows, htombstones]
  exact h.exclusive

theorem canonical_step (h : Canonical state) (event : JsValue) :
    Canonical (foldActivityEvent state event) := by
  by_cases hframe : IsFrame event
  · rw [foldActivityEvent_frame hframe]
    exact (h.foldFrame event).1
  · obtain ⟨change, hchange, hrows, htombstones⟩ := foldActivityEvent_patched hframe state
    exact (h.mapRows hchange).of_rows hrows htombstones

theorem readStateKept_step (h : Canonical state) (event : JsValue) :
    ReadStateKept state (foldActivityEvent state event) ↔ BringsReadState state event := by
  by_cases hframe : IsFrame event
  · rw [foldActivityEvent_frame hframe]
    constructor
    · intro hkept _ row hrow candidate hid hprevails hnewer
      exact hkept row hrow candidate
        ((mem_foldFrame_iff h hrow hid event).mpr (Or.inr ⟨hnewer, hprevails⟩)) hid
    · intro hbrings row hrow later hlater hid
      rcases (mem_foldFrame_iff h hrow hid event).mp hlater with ⟨rfl, -⟩ | ⟨hnewer, hprevails⟩
      · exact le_refl _
      · exact hbrings hframe row hrow later hid hprevails hnewer
  · refine iff_of_true ?_ fun hframe' => absurd hframe' hframe
    obtain ⟨change, hchange, hrows, -⟩ := foldActivityEvent_patched hframe state
    intro row hrow later hlater hid
    rw [hrows] at hlater
    obtain ⟨old, hold, rfl⟩ := List.mem_map.mp hlater
    rw [(hchange old).rowId] at hid
    rw [← h.eq_of_rowId hrow hold hid]
    exact (hchange old).readState

theorem canonical_stateFromSnapshot (raw : JsValue) : Canonical (stateFromSnapshot raw) := by
  cases raw with
  | object fields =>
      exact (canonical_initial.applyRowsAndTombstones _ _).1.of_rows rfl rfl
  | undefined | null | boolean _ | number _ | string _ | array _ => exact canonical_initial

/-- Along a run of events no live row's read state rewinds exactly when every frame brings, for
each row it replaces, a read state that is no older. -/
theorem read_state_kept_iff (raw : JsValue) (events : List JsValue) :
    (∀ before event, before ++ [event] <+: events →
      ReadStateKept (run foldActivityEvent (stateFromSnapshot raw) before)
        (run foldActivityEvent (stateFromSnapshot raw) (before ++ [event]))) ↔
      Admitted foldActivityEvent BringsReadState (stateFromSnapshot raw) events := by
  have hcanonical (before : List JsValue) :
      Canonical (run foldActivityEvent (stateFromSnapshot raw) before) :=
    run_invariant Canonical before (fun _ event h => canonical_step h event)
      (canonical_stateFromSnapshot raw)
  rw [admitted_iff_forall_step]
  refine forall₂_congr fun before event => ?_
  rw [run_concat, readStateKept_step (hcanonical before)]

def versionedRow (rowVersion readStateVersion : JsString) : JsValue :=
  .object [(js "rowId", .string (js "channel-a")), (js "rowVersion", .string rowVersion),
    (js "maxReadSeq", .string readStateVersion),
    (js "readStateVersion", .string readStateVersion),
    (js "lastActivityAt", .string (js "2026-01-01")), (js "type", .string (js "channel"))]

def rowFrame (rowVersion readStateVersion : JsString) : JsValue :=
  .object [(js "type", .string (js "frame")),
    (js "rows", .array [versionedRow rowVersion readStateVersion])]

def readStateUpdate (version : JsString) : JsValue :=
  .object [(js "scopeId", .string (js "channel-a")), (js "maxReadSeq", .string version),
    (js "readStateVersion", .string version)]

def readStateEvent (updates : List JsValue) : JsValue :=
  .object [(js "type", .string (js "readStateUpdated")), (js "updates", .array updates)]

def readStateVersions (state : ActivityDomainState) : List UInt64String :=
  state.rows.map ActivityRow.readStateVersion

/-- A row sent before the read was recorded arrives with a newer row version. -/
theorem read_state_rewinds :
    readStateVersions (run foldActivityEvent initialActivityState
        [rowFrame (js "1") (js "0"), readStateEvent [readStateUpdate (js "3")]]) = [.ofNat 3] ∧
      readStateVersions (run foldActivityEvent initialActivityState
        [rowFrame (js "1") (js "0"), readStateEvent [readStateUpdate (js "3")],
          rowFrame (js "2") (js "0")]) = [.ofNat 0] ∧
      ¬ ∀ events before event, before ++ [event] <+: events →
        ReadStateKept (run foldActivityEvent initialActivityState before)
          (run foldActivityEvent initialActivityState (before ++ [event])) := by
  refine ⟨by decide, by decide, fun hkept => ?_⟩
  have hrewound := hkept _ [rowFrame (js "1") (js "0"), readStateEvent [readStateUpdate (js "3")]]
    (rowFrame (js "2") (js "0")) (List.prefix_refl _)
  exact absurd hrewound (by decide)

end Runs

/-! ## Batches -/

section Batches

structure CarriesUpdates (event : JsValue) (updates : List JsValue) : Prop where
  type : event.read (js "type") = .string (js "readStateUpdated")
  updates : (event.read (js "updates")).arrayItems = updates

theorem CarriesUpdates.rows {event : JsValue} {updates : List JsValue}
    (h : CarriesUpdates event updates) (state : ActivityDomainState) :
    (foldActivityEvent state event).rows = state.rows.map (foldReadStateUpdate updates) := by
  rw [foldActivityEvent, h.type, h.updates]
  simp only
  rw [if_neg (by decide), if_pos trivial, foldReadStateUpdates]

def namedUpdates (updates : List JsValue) (row : ActivityRow) : List JsValue :=
  updates.filter (updateNames row)

theorem updateNames_patchRow (row : ActivityRow) (update : JsValue) :
    updateNames (patchRow row update) = updateNames row := by
  funext candidate
  rw [updateNames, updateNames, (patched_patchRow row update).rowId]

theorem foldReadStateUpdate_batch (updates : List JsValue) (row : ActivityRow) :
    foldReadStateUpdate updates row = ((namedUpdates updates row).head?.map (patchRow row)).getD
      row := by
  rw [foldReadStateUpdate_eq, namedUpdates, List.head?_filter]

theorem foldReadStateUpdate_single (update : JsValue) (row : ActivityRow) :
    foldReadStateUpdate [update] row =
      if updateNames row update then patchRow row update else row := by
  rw [foldReadStateUpdate_eq, List.find?_singleton]
  split <;> rfl

theorem foldl_single (updates : List JsValue) (row : ActivityRow) :
    updates.foldl (fun row update => foldReadStateUpdate [update] row) row =
      (namedUpdates updates row).foldl patchRow row := by
  induction updates generalizing row with
  | nil => rfl
  | cons update updates ih =>
      rw [List.foldl_cons, ih, foldReadStateUpdate_single, namedUpdates, namedUpdates,
        List.filter_cons]
      split
      · rw [updateNames_patchRow, List.foldl_cons]
      · rfl

theorem rows_run_singles {events updates : List JsValue}
    (h : List.Forall₂ (fun event update => CarriesUpdates event [update]) events updates)
    (state : ActivityDomainState) :
    (run foldActivityEvent state events).rows =
      state.rows.map fun row => (namedUpdates updates row).foldl patchRow row := by
  have hfold : (run foldActivityEvent state events).rows =
      state.rows.map fun row =>
        updates.foldl (fun row update => foldReadStateUpdate [update] row) row := by
    induction h generalizing state with
    | nil => simp
    | cons hevent _ ih =>
        rw [run_cons, ih, hevent.rows, List.map_map]
        rfl
  rw [hfold]
  exact List.map_congr_left fun row _ => foldl_single updates row

theorem patchRow_eq_self_iff (row : ActivityRow) (update : JsValue) :
    patchRow row update = row ↔ ∀ version seq, readStateOf update = some (version, seq) →
      version.value ≤ row.readStateVersion.value := by
  rw [patchRow]
  cases readStateOf update with
  | none => simp
  | some versions =>
      obtain ⟨version, seq⟩ := versions
      simp only [Option.some.injEq, Prod.mk.injEq, and_imp]
      constructor
      · rintro heq _ _ rfl rfl
        by_contra hnewer
        rw [if_neg hnewer] at heq
        have hversion := congrArg (fun row => row.readStateVersion.value) heq
        simp only [ActivityRow.readStateVersion_withReadState] at hversion
        omega
      · intro hle
        rw [if_pos (hle version seq rfl rfl)]

theorem readStateVersion_patchRow (row : ActivityRow) (update : JsValue) (bound : Nat) :
    bound ≤ (patchRow row update).readStateVersion.value ↔
      bound ≤ row.readStateVersion.value ∨
        ∃ version seq, readStateOf update = some (version, seq) ∧ bound ≤ version.value := by
  rw [patchRow]
  cases readStateOf update with
  | none => simp
  | some versions =>
      obtain ⟨version, seq⟩ := versions
      simp only [Option.some.injEq, Prod.mk.injEq]
      split
      · next hle =>
          constructor
          · exact Or.inl
          · rintro (hbound | ⟨_, _, ⟨rfl, rfl⟩, hbound⟩)
            · exact hbound
            · exact hbound.trans hle
      · next hnewer =>
          rw [ActivityRow.readStateVersion_withReadState]
          constructor
          · exact fun hbound => Or.inr ⟨version, seq, ⟨rfl, rfl⟩, hbound⟩
          · rintro (hbound | ⟨_, _, ⟨rfl, rfl⟩, hbound⟩)
            · exact hbound.trans (not_le.mp hnewer).le
            · exact hbound

theorem readStateVersion_foldl_patchRow (row : ActivityRow) (updates : List JsValue) :
    row.readStateVersion.value ≤ (updates.foldl patchRow row).readStateVersion.value := by
  induction updates generalizing row with
  | nil => exact le_refl _
  | cons update updates ih => exact (patched_patchRow row update).readState.trans (ih _)

theorem readStateVersion_lt_patchRow {row : ActivityRow} {update : JsValue}
    (h : patchRow row update ≠ row) :
    row.readStateVersion.value < (patchRow row update).readStateVersion.value := by
  rw [Ne, patchRow_eq_self_iff] at h
  push Not at h
  obtain ⟨version, seq, hversion, hnewer⟩ := h
  exact (readStateVersion_patchRow row update _).mpr (Or.inr ⟨version, seq, hversion, hnewer⟩)

theorem foldl_patchRow_eq_self_iff (row : ActivityRow) (updates : List JsValue) :
    updates.foldl patchRow row = row ↔ ∀ update ∈ updates, patchRow row update = row := by
  induction updates with
  | nil => simp
  | cons update updates ih =>
      rw [List.foldl_cons, List.forall_mem_cons]
      constructor
      · intro heq
        have hself : patchRow row update = row := by
          by_contra hne
          have hlt := readStateVersion_lt_patchRow hne
          have hle := readStateVersion_foldl_patchRow (patchRow row update) updates
          rw [heq] at hle
          omega
        rw [hself] at heq
        exact ⟨hself, ih.mp heq⟩
      · rintro ⟨hself, hrest⟩
        rw [hself]
        exact ih.mpr hrest

/-- After the first update that names the row, none is newer than both the row and a valid
first update. -/
def FirstSuffices (updates : List JsValue) (row : ActivityRow) : Prop :=
  ∀ first rest, namedUpdates updates row = first :: rest → ∀ later ∈ rest, ∀ version seq,
    readStateOf later = some (version, seq) →
      version.value ≤ row.readStateVersion.value ∨
        ∃ other otherSeq, readStateOf first = some (other, otherSeq) ∧
          version.value ≤ other.value

theorem batch_row_iff (updates : List JsValue) (row : ActivityRow) :
    foldReadStateUpdate updates row = (namedUpdates updates row).foldl patchRow row ↔
      FirstSuffices updates row := by
  rw [foldReadStateUpdate_batch, FirstSuffices]
  cases namedUpdates updates row with
  | nil => simp
  | cons first rest =>
      rw [List.head?_cons, Option.map_some, Option.getD_some, List.foldl_cons, eq_comm,
        foldl_patchRow_eq_self_iff]
      simp only [patchRow_eq_self_iff, readStateVersion_patchRow, List.cons.injEq, and_imp]
      constructor
      · rintro hall _ _ rfl rfl
        exact hall
      · exact fun hall => hall first rest rfl rfl

/-- One event with all the updates does what one event for each does, exactly when for every row
the first update that names it suffices. -/
theorem read_state_batch_iff {event : JsValue} {events updates : List JsValue}
    (hevent : CarriesUpdates event updates)
    (hevents : List.Forall₂ (fun event update => CarriesUpdates event [update]) events updates)
    (state : ActivityDomainState) :
    (foldActivityEvent state event).rows = (run foldActivityEvent state events).rows ↔
      ∀ row ∈ state.rows, FirstSuffices updates row := by
  rw [hevent.rows, rows_run_singles hevents, List.map_inj_left]
  exact forall₂_congr fun row _ => batch_row_iff updates row

theorem carriesUpdates_readStateEvent (updates : List JsValue) :
    CarriesUpdates (readStateEvent updates) updates := ⟨rfl, rfl⟩

def unreadState : ActivityDomainState :=
  foldActivityEvent initialActivityState (rowFrame (js "1") (js "0"))

theorem read_state_batch_iff_two_updates :
    (foldActivityEvent unreadState
        (readStateEvent [readStateUpdate (js "2"), readStateUpdate (js "1")])).rows =
      (run foldActivityEvent unreadState
        [readStateEvent [readStateUpdate (js "2")],
          readStateEvent [readStateUpdate (js "1")]]).rows := by
  have hevents : List.Forall₂ (fun event update => CarriesUpdates event [update])
      [readStateEvent [readStateUpdate (js "2")], readStateEvent [readStateUpdate (js "1")]]
      [readStateUpdate (js "2"), readStateUpdate (js "1")] :=
    .cons (carriesUpdates_readStateEvent _) (.cons (carriesUpdates_readStateEvent _) .nil)
  refine (read_state_batch_iff (carriesUpdates_readStateEvent _) hevents _).mpr ?_
  intro row _ first rest hnamed later hlater version seq hversion
  have hnames : updateNames row (readStateUpdate (js "1")) =
      updateNames row (readStateUpdate (js "2")) := rfl
  simp only [namedUpdates, List.filter_cons, List.filter_nil, hnames] at hnamed
  split at hnamed
  · obtain ⟨rfl, rfl⟩ := List.cons.inj hnamed
    rw [List.mem_singleton.mp hlater] at hversion
    cases hversion
    exact Or.inr ⟨_, _, rfl, by decide⟩
  · cases hnamed

/-- The older update comes first and hides the newer one. -/
theorem read_state_batch_loses_newer :
    readStateVersions (foldActivityEvent unreadState
        (readStateEvent [readStateUpdate (js "1"), readStateUpdate (js "2")])) = [.ofNat 1] ∧
      readStateVersions (run foldActivityEvent unreadState
        [readStateEvent [readStateUpdate (js "1")],
          readStateEvent [readStateUpdate (js "2")]]) = [.ofNat 2] ∧
      (foldActivityEvent unreadState
        (readStateEvent [readStateUpdate (js "1"), readStateUpdate (js "2")])).rows ≠
        (run foldActivityEvent unreadState
          [readStateEvent [readStateUpdate (js "1")],
            readStateEvent [readStateUpdate (js "2")]]).rows := by
  refine ⟨by decide, by decide, fun heq => ?_⟩
  have hversions := congrArg (List.map ActivityRow.readStateVersion) heq
  revert hversions
  decide

end Batches

end Raft.Activity
