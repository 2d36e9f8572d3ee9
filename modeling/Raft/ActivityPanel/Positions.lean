import Raft.ActivityPanel.DifferenceExact
import Raft.ActivityPanel.Host

/-!
# Positions of the log in the core

An entry of the core is exact when its rows are those of the log position that
it names by its epoch and its watermark.  Frames of log entries, snapshots and
refused differences keep it exact; a difference does where it starts at or
before the watermark it is folded onto.
-/

namespace Raft.ActivityPanel

open Raft.Foundation Raft.Activity Raft.ActivityServer Raft.Sync

structure Shadows (state : ActivityDomainState) (entries : List LogEntry) : Prop where
  canonical : Canonical state
  shows : ∀ rowId : RowId, Shows (state.item rowId.1) (itemsOf rowId (changesOf entries))
  foreign : ∀ key, isUuid key = false → state.item key = none

def Rising (log : List LogEntry) : Prop :=
  ∀ rowId, (itemsOf rowId (changesOf log)).Pairwise fun first second => first.rank < second.rank

section

variable {log entries more : List LogEntry} {position : LogPosition}
  {state other : ActivityDomainState}

/-! ## Rows at a position -/

theorem Shadows.congr (h : Shadows state entries) (hrows : other.rows = state.rows)
    (htombstones : other.tombstones = state.tombstones) : Shadows other entries := by
  obtain ⟨rows, tombstones, _, _, _, _, _, _⟩ := state
  obtain ⟨_, _, _, _, _, _, _, _⟩ := other
  cases hrows
  cases htombstones
  exact ⟨⟨h.canonical.unique, h.canonical.sorted, h.canonical.exclusive⟩, h.shows, h.foreign⟩

theorem Mirrors.shadows {scope : ScopeTables} (h : Mirrors state scope)
    (hrecorded : Recorded log scope) : Shadows state (through log scope.position) := by
  refine ⟨h.canonical, fun rowId => ?_, h.foreign⟩
  rw [h.item]
  exact hrecorded.shows rowId

theorem Shadows.mem_rows_iff (h : Shadows state entries) {row : ActivityRow} :
    row ∈ state.rows ↔ ∃ rowId : RowId,
      (itemsOf rowId (changesOf entries)).getLast? = some (.live row) ∧
        row.rowId = rowId.1 := by
  rw [h.canonical.mem_rows_iff]
  constructor
  · intro hitem
    cases huuid : isUuid row.rowId with
    | true => exact ⟨⟨row.rowId, huuid⟩, ((h.shows ⟨row.rowId, huuid⟩).2 row).mp hitem, rfl⟩
    | false =>
        rw [h.foreign _ huuid] at hitem
        cases hitem
  · rintro ⟨rowId, hlast, hrowId⟩
    rw [hrowId]
    exact ((h.shows rowId).2 row).mpr hlast

theorem nodup_replayed (entries : List LogEntry) :
    (((entries.foldl replayEntry InsertionMap.empty).values.map windowRow).map
      ActivityRow.rowId).Nodup := by
  generalize hreplayed : entries.foldl replayEntry InsertionMap.empty = replayed
  have hkeys : (replayed.values.map windowRow).map ActivityRow.rowId =
      replayed.keys.map Subtype.val := by
    rw [InsertionMap.values, InsertionMap.keys, List.map_map, List.map_map, List.map_map]
    apply List.map_congr_left
    rintro ⟨rowId, window⟩ hmem
    have hget := (replayed.mem_entries_iff rowId window).mp hmem
    have hrowId := (get_replay entries rowId).1 window (hreplayed ▸ hget)
    simp [windowRow, hrowId]
  rw [hkeys]
  exact replayed.nodup.map Subtype.val_injective

theorem Shadows.rows_perm (h : Shadows state (through log position)) :
    state.rows.Perm ((activeRowsAt log position).map windowRow) := by
  have hnodup := nodup_replayed (through log position)
  refine (List.perm_ext_iff_of_nodup h.canonical.unique.of_map hnodup.of_map).mpr fun row => ?_
  rw [h.mem_rows_iff, List.mem_map]
  constructor
  · rintro ⟨rowId, hlast, -⟩
    obtain ⟨window, hget, hrow⟩ := ((get_replay _ rowId).2 row).mpr hlast
    exact ⟨window, (InsertionMap.mem_values_iff _ _).mpr ⟨rowId, hget⟩, hrow⟩
  · rintro ⟨window, hmem, rfl⟩
    obtain ⟨rowId, hget⟩ := (InsertionMap.mem_values_iff _ _).mp hmem
    obtain ⟨hfiled, hlast⟩ := get_replay (through log position) rowId
    refine ⟨rowId, (hlast _).mp ⟨window, hget, rfl⟩, ?_⟩
    rw [windowRow, window.payload.rowId_toRow, hfiled window hget]

theorem mem_activeRowsAt_iff (localeCompare : JsString → JsString → Int) {scope : ScopeTables}
    (hrecorded : Recorded log scope) (row : ActivityRow) :
    row ∈ (activeRowsAt log scope.position).map windowRow ↔
      row ∈ (materializeWindow localeCompare scope).rows.map windowRow := by
  have hwindow := @mem_window_items localeCompare scope hrecorded.filed row.rowId (.live row)
  rw [mem_itemsFor_live, and_iff_left rfl] at hwindow
  rw [hwindow, List.mem_map]
  constructor
  · rintro ⟨window, hmem, rfl⟩
    obtain ⟨rowId, hget⟩ := (InsertionMap.mem_values_iff _ _).mp hmem
    obtain ⟨hfiled, hlast⟩ := get_replay (through log scope.position) rowId
    refine ⟨rowId, ?_, ((hrecorded.shows rowId).2 _).mpr ((hlast _).mp ⟨window, hget, rfl⟩)⟩
    rw [windowRow, window.payload.rowId_toRow, hfiled window hget]
  · rintro ⟨rowId, -, hitem⟩
    obtain ⟨window, hget, hrow⟩ := ((get_replay _ rowId).2 row).mpr
      (((hrecorded.shows rowId).2 row).mp hitem)
    exact ⟨window, (InsertionMap.mem_values_iff _ _).mpr ⟨rowId, hget⟩, hrow⟩

/-! ## Pages -/

theorem rises_to_last {items : List RowItem} {top item : RowItem}
    (hrising : items.Pairwise fun first second => first.rank < second.rank)
    (hlast : items.getLast? = some top) (hmem : item ∈ items) :
    item.rank < top.rank ∨ item = top := by
  obtain ⟨before, rfl⟩ := List.getLast?_eq_some_iff.mp hlast
  rcases List.mem_append.mp hmem with hbefore | htop
  · exact Or.inl ((List.pairwise_append.mp hrising).2.2 item hbefore top (by simp))
  · exact Or.inr (by simpa using htop)

theorem itemsOf_suffix {page changes : List Change} (h : page <:+ changes) (rowId : RowId) :
    itemsOf rowId page <:+ itemsOf rowId changes := by
  obtain ⟨before, rfl⟩ := h
  rw [itemsOf_append]
  exact List.suffix_append _ _

/-- A page that reaches the end of the log and leaves no gap to the entries shown brings the
state there. -/
theorem Shadows.apply (h : Shadows state entries) (hrising : Rising (entries ++ more))
    {logged : List LoggedChange} {rows tombstones : List JsValue}
    (hpage : logged.map LoggedChange.change <:+ changesOf (entries ++ more))
    (hmore : changesOf more <:+ logged.map LoggedChange.change)
    (hitems : ∀ key item, item ∈ itemsFor key (rows.filterMap asRow)
        (tombstones.filterMap asTombstone) ↔
      ∃ rowId : RowId, rowId.1 = key ∧
        (itemsOf rowId (logged.map LoggedChange.change)).getLast? = some item) :
    Shadows (applyRowsAndTombstones state rows tombstones) (entries ++ more) := by
  have hsplit : ∀ rowId, itemsOf rowId (changesOf (entries ++ more)) =
      itemsOf rowId (changesOf entries) ++ itemsOf rowId (changesOf more) := fun rowId => by
    rw [changesOf_append, itemsOf_append]
  have hsuffix := fun rowId => itemsOf_suffix hpage rowId
  obtain ⟨hcanonical, hitem, hforeign⟩ := apply_latest h.canonical h.foreign
    (fun rowId old item hold hlast => by
      refine rises_to_last (hrising rowId) (getLast?_of_suffix (hsuffix rowId) hlast) ?_
      rw [hsplit]
      exact List.mem_append_left _ ((h.shows rowId).1 old hold))
    hitems
  refine ⟨hcanonical, fun rowId => ?_, hforeign⟩
  rw [hitem, hsplit]
  refine (h.shows rowId).catch_up ?_ (itemsOf_suffix hmore rowId)
  rw [← hsplit]
  exact hsuffix rowId

theorem Shadows.fold (h : Shadows state entries) (hrising : Rising (entries ++ more))
    {logged : List LoggedChange} {event : JsValue} (hframe : IsFrame event)
    (hrows : event.read (js "rows") =
      wireRows ((latestByRow logged).values.filterMap upsertedRow))
    (htombstones : event.read (js "tombstones") =
      wireTombstones ((latestByRow logged).values.filterMap buriedRow))
    (hpage : logged.map LoggedChange.change <:+ changesOf (entries ++ more))
    (hmore : changesOf more <:+ logged.map LoggedChange.change) :
    Shadows (foldActivityEvent state event) (entries ++ more) := by
  have hitems : ∀ key item, item ∈ itemsFor key
        ((event.read (js "rows")).arrayItems.filterMap asRow)
        ((event.read (js "tombstones")).arrayItems.filterMap asTombstone) ↔
      ∃ rowId : RowId, rowId.1 = key ∧
        (itemsOf rowId (logged.map LoggedChange.change)).getLast? = some item := by
    intro key item
    rw [hrows, htombstones, asRow_wireRows, asTombstone_wireTombstones]
    exact mem_page_items
  rw [foldActivityEvent_frame hframe]
  exact (h.apply hrising hpage hmore hitems).congr rfl rfl

theorem latestByRow_singleton (logged : LoggedChange) :
    (latestByRow [logged]).values.filterMap upsertedRow = (upsertedRow logged.change).toList ∧
      (latestByRow [logged]).values.filterMap buriedRow = (buriedRow logged.change).toList := by
  obtain ⟨seq, change⟩ := logged
  cases change <;> exact ⟨rfl, rfl⟩

end

/-! ## Entries of the core -/

/-- The rows of an entry are those of the position that it names by epoch and watermark. -/
inductive Exact (log : List LogEntry) (current : LogPosition)
    (entry : ScopeEntry ActivityDomainState) : Prop
  | unbased (applied : entry.appliedSeq = none) (held : entry.epoch = none)
      (initial : entry.state = initialActivityState)
  | based (epoch watermark : Nat) (applied : entry.appliedSeq = some (watermark : Int))
      (held : entry.epoch = some (UInt64String.ofNat epoch).1)
      (reached : toLex (epoch, watermark) ≤ current)
      (shadows : Shadows entry.state (through log (toLex (epoch, watermark))))

section

variable {log : List LogEntry} {current : LogPosition} {entry : ScopeEntry ActivityDomainState}
  {numberText : JsNumber → JsString}

theorem Exact.congr (h : Exact log current entry) {other : ScopeEntry ActivityDomainState}
    (happlied : other.appliedSeq = entry.appliedSeq) (hepoch : other.epoch = entry.epoch)
    (hstate : other.state = entry.state) : Exact log current other := by
  cases h with
  | unbased applied held initial =>
      exact .unbased (happlied.trans applied) (hepoch.trans held) (hstate.trans initial)
  | based epoch watermark applied held reached shadows =>
      exact .based epoch watermark (happlied.trans applied) (hepoch.trans held) reached
        (hstate ▸ shadows)

theorem Exact.grow (h : Exact log current entry) {more : List LogEntry} {next : LogPosition}
    (hnext : current ≤ next) (hlater : ∀ added ∈ more, current < added.position) :
    Exact (log ++ more) next entry := by
  cases h with
  | unbased applied held initial => exact .unbased applied held initial
  | based epoch watermark applied held reached shadows =>
      refine .based epoch watermark applied held (reached.trans hnext) ?_
      rwa [through_append_of_lt fun added hadded => reached.trans_lt (hlater added hadded)]

theorem ofNat_text_inj {first second : Nat}
    (h : (UInt64String.ofNat first).1 = (UInt64String.ofNat second).1) : first = second :=
  decimalText_injective h

theorem eq_of_not_epochMismatch {held incoming : Nat}
    (hheld : entry.epoch = some (UInt64String.ofNat held).1)
    (h : epochMismatch entry (some (UInt64String.ofNat incoming).1) = false) :
    incoming = held := by
  simp only [epochMismatch, hheld, ne_eq, reduceCtorEq, not_false_eq_true, decide_true,
    Bool.true_and, decide_eq_false_iff_not, not_not, Option.some.injEq] at h
  exact ofNat_text_inj h

theorem Rising.through (h : Rising log) (position : LogPosition) :
    Rising (through log position) := fun rowId => by
  refine (h rowId).sublist ?_
  have hsublist : (changesOf (ActivityServer.through log position)).Sublist (changesOf log) :=
    (List.filter_sublist).map _
  exact (hsublist.filter _).filterMap _

theorem Exact.frame (h : Exact log current entry) (hrising : Rising log)
    (hsorted : log.Pairwise fun first second => first.position < second.position)
    (hbounded : ∀ entry ∈ log, entry.position ≤ current) {pushed : LogEntry}
    (hpushed : pushed ∈ log) {caller : Caller} {filter : ActivityFilter} {body : JsValue}
    (hbody : body = framePush caller filter pushed.epoch pushed.toLoggedChange)
    {frame : SyncFrame JsValue} (hseq : frame.seq = pushed.seq)
    (hepoch : frame.epoch = some (UInt64String.ofNat pushed.epoch).1)
    (hevent : frame.event = pushedEvent body) :
    Exact log current (frameWrite (createActivityDomain numberText) entry frame).entry := by
  rcases frameWrite_entry (createActivityDomain numberText) entry frame with
    ⟨haccepts, hmatches, hentry⟩ | ⟨-, pending, hentry⟩
  · have hnumber := seq_of_acceptsFrame rfl haccepts
    rw [hseq] at hnumber
    rw [hepoch] at hmatches
    cases h with
    | unbased applied held initial => simp [acceptsFrame, applied, createActivityDomain] at haccepts
    | based epoch watermark applied held reached shadows =>
        have hheld := eq_of_not_epochMismatch held hmatches
        simp only [applied, Option.getD_some] at hnumber
        have hposition : pushed.position = toLex (epoch, watermark + 1) := by
          rw [LogEntry.position, hheld, show pushed.seq = watermark + 1 by omega]
        have hnext : through log (toLex (epoch, watermark + 1)) =
            through log (toLex (epoch, watermark)) ++ [pushed] := by
          rw [← hposition]
          apply through_next hsorted hpushed
          · rw [hposition, Prod.Lex.toLex_lt_toLex]
            exact Or.inr ⟨rfl, Nat.lt_succ_self _⟩
          · intro other hother
            rw [hposition, LogEntry.position, Prod.Lex.toLex_lt_toLex] at hother
            rw [LogEntry.position, Prod.Lex.toLex_le_toLex]
            simpa [Nat.lt_succ_iff] using hother
        obtain ⟨hupserts, hburied⟩ := latestByRow_singleton pushed.toLoggedChange
        have hread : IsFrame frame.event ∧
            frame.event.read (js "rows") =
              wireRows ((latestByRow [pushed.toLoggedChange]).values.filterMap upsertedRow) ∧
            frame.event.read (js "tombstones") =
              wireTombstones ((latestByRow [pushed.toLoggedChange]).values.filterMap
                buriedRow) := by
          rw [hupserts, hburied, hevent, hbody]
          exact ⟨rfl, rfl, rfl⟩
        obtain ⟨hframe, hrows, htombstones⟩ := hread
        refine .based epoch (watermark + 1) ?_ ?_ (hposition ▸ hbounded pushed hpushed) ?_
        · rw [hentry]
          exact congrArg some (hseq.trans hnumber)
        · rw [hentry]
          simp [applied, held]
        · rw [hentry, hnext]
          refine shadows.fold ?_ hframe hrows htombstones ?_ (List.suffix_refl _)
          · rw [← hnext]
            exact hrising.through _
          · rw [changesOf_append]
            exact List.suffix_append _ _
  · rw [hentry]
    exact h.congr rfl rfl rfl

theorem Exact.snapshot (h : Exact log current entry) {scope : ScopeTables}
    (hrecorded : Recorded log scope) (hreached : scope.position ≤ current)
    {localeCompare : JsString → JsString → Int} {snapshot : SyncSnapshot JsValue}
    (hwatermark : snapshot.watermark = scope.watermark)
    (hepoch : snapshot.epoch = some (UInt64String.ofNat scope.epoch).1)
    (hstate : snapshot.state = snapshotPayload localeCompare scope) :
    Exact log current (snapshotWrite (createActivityDomain numberText) entry snapshot).entry := by
  rcases snapshotWrite_entry (createActivityDomain numberText) entry snapshot with
    ⟨-, hentry⟩ | ⟨-, hentry⟩
  · have hmirrors := (mirrors_window localeCompare hrecorded.filed).withWindow
      (materializeWindow localeCompare scope).metadata scope.watermark
    rw [← stateFromSnapshot_payload, ← hstate] at hmirrors
    rw [hentry]
    exact .based scope.epoch scope.watermark (congrArg some hwatermark) hepoch hreached
      (hmirrors.shadows hrecorded)
  · rwa [hentry]

theorem Exact.refused (h : Exact log current entry) {response : SyncDifferenceResponse JsValue}
    (hrefused : acceptsDifference entry response = false) :
    Exact log current
      (differenceWrite (createActivityDomain numberText) entry response).entry := by
  rcases differenceWrite_entry (createActivityDomain numberText) entry response with
    ⟨haccepts, -⟩ | ⟨-, pending, hentry⟩
  · rw [hrefused] at haccepts
    cases haccepts
  · rw [hentry]
    exact h.congr rfl rfl rfl

def Reaches (entry : ScopeEntry ActivityDomainState) (epoch : SyncEpoch) (after : Int) : Prop :=
  entry.epoch = some epoch → ∀ applied, entry.appliedSeq = some applied → after ≤ applied

theorem Exact.of_accepted (h : Exact log current entry) (hbased : entry.appliedSeq ≠ none)
    {response : SyncDifferenceResponse JsValue} {epoch : Nat} {after : Int}
    (hepoch : response.epoch = some (UInt64String.ofNat epoch).1)
    (haccepts : acceptsDifference entry response = true)
    (hreaches : Reaches entry (UInt64String.ofNat epoch).1 after) :
    ∃ watermark : Nat, entry.appliedSeq = some (watermark : Int) ∧
      entry.epoch = some (UInt64String.ofNat epoch).1 ∧ after ≤ watermark ∧
      toLex (epoch, watermark) ≤ current ∧
      Shadows entry.state (through log (toLex (epoch, watermark))) := by
  cases h with
  | unbased applied held initial => exact absurd applied hbased
  | based held watermark applied holds reached shadows =>
      simp only [acceptsDifference, hepoch, Bool.and_eq_true, Bool.not_eq_true'] at haccepts
      obtain rfl := eq_of_not_epochMismatch holds haccepts.1
      exact ⟨watermark, applied, holds, hreaches holds _ applied, reached, shadows⟩

theorem Exact.notModified (h : Exact log current entry) (hbased : entry.appliedSeq ≠ none)
    {response : SyncDifferenceResponse JsValue} {epoch : Nat}
    (hepoch : response.epoch = some (UInt64String.ofNat epoch).1) (hevents : response.events = [])
    (hreaches : Reaches entry (UInt64String.ofNat epoch).1 response.toSeq) :
    Exact log current
      (differenceWrite (createActivityDomain numberText) entry response).entry := by
  rcases differenceWrite_entry (createActivityDomain numberText) entry response with
    ⟨haccepts, pending, hentry⟩ | ⟨hrefused, -⟩
  · obtain ⟨watermark, happlied, -, hle, -⟩ := h.of_accepted hbased hepoch haccepts hreaches
    have hkept : (applyDifference (createActivityDomain numberText) entry response).2 = entry :=
      applyDifference_of_le happlied hle (by simp [hevents])
    rw [hentry, hkept]
    exact h.congr rfl rfl rfl
  · exact h.refused hrefused

theorem Exact.difference (h : Exact log current entry) (hbased : entry.appliedSeq ≠ none)
    (hrising : Rising log) {scope : ScopeTables} (hrecorded : Recorded log scope)
    (hreached : scope.position ≤ current) {after : Nat} {changes : List Change}
    (hlog : scope.changes = numbered 0 changes) {caller : Caller} {filter : ActivityFilter}
    {metadata : ScopeMetadata} {body : JsValue}
    (hbody : body = differenceJson caller filter scope after
      (latestByRow (numbered after (changes.drop after))).values metadata)
    (hafter : after < scope.watermark)
    (hreaches : Reaches entry (UInt64String.ofNat scope.epoch).1 after) :
    Exact log current (differenceWrite (createActivityDomain numberText) entry
      (differenceResponse caller filter scope after body)).entry := by
  generalize hresponse : differenceResponse caller filter scope after body = response
  have hepoch : response.epoch = some (UInt64String.ofNat scope.epoch).1 := by
    rw [← hresponse]
    rfl
  have hto : response.toSeq = scope.watermark := by
    rw [← hresponse]
    rfl
  have hevents : response.events = [⟨response.toSeq, differenceEvent body⟩] := by
    rw [← hresponse]
    rfl
  rcases differenceWrite_entry (createActivityDomain numberText) entry response with
    ⟨haccepts, pending, hentry⟩ | ⟨hrefused, -⟩
  · obtain ⟨watermark, happlied, hheld, hle, hposition, hshadows⟩ :=
      h.of_accepted hbased hepoch haccepts hreaches
    rw [hentry]
    rcases le_or_gt scope.watermark watermark with hold | hnew
    · have hkept : (applyDifference (createActivityDomain numberText) entry response).2 =
          entry := applyDifference_of_le happlied (by omega) (by simp [hevents]; omega)
      rw [hkept]
      exact h.congr rfl rfl rfl
    · have hfolded : (applyDifference (createActivityDomain numberText) entry response).2 =
          acceptEvent (createActivityDomain numberText) response.scopeId entry response.toSeq
            (differenceEvent body) := applyDifference_singleton happlied (by omega) hevents
      rw [hfolded]
      refine .based scope.epoch scope.watermark (congrArg some hto) hheld hreached ?_
      have hcaught := hrecorded.page hlog hnew.le
      have hpage := hrecorded.page hlog hafter.le
      change Shadows (foldActivityEvent entry.state (differenceEvent body))
        (through log scope.position)
      have hrises := hrising.through scope.position
      rw [hcaught] at hrises ⊢
      have hrows : (differenceEvent body).read (js "rows") = wireRows
          ((latestByRow (numbered after (changes.drop after))).values.filterMap upsertedRow) := by
        rw [hbody]
        rfl
      have htombstones : (differenceEvent body).read (js "tombstones") = wireTombstones
          ((latestByRow (numbered after (changes.drop after))).values.filterMap buriedRow) := by
        rw [hbody]
        rfl
      refine hshadows.fold hrises rfl hrows htombstones ?_ ?_
      · rw [← hcaught, hpage, changesOf_append, changesOf_tag]
        exact List.suffix_append _ _
      · rw [changesOf_tag, map_change_numbered, map_change_numbered]
        exact List.drop_suffix_drop_left _ (Int.ofNat_le.mp hle)
  · exact h.refused hrefused

end

end Raft.ActivityPanel
