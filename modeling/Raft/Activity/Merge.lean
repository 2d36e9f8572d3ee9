import Raft.Activity.Fold

/-!
# Merging Activity rows

A collection of rows and tombstones is delivered by frames in any grouping,
order and repetition.  The merge keeps, for each `rowId`, the item of greatest
version; which collections it can record depends on the object that holds the
tombstones.
-/

namespace Raft.Activity

open Raft.Foundation

section

variable (rows : List ActivityRow) (stones : List ActivityRowTombstone)

/-- The row outlives every other item of its `rowId`; a tombstone wins a tie. -/
def RowWins (row : ActivityRow) : Prop :=
  row ∈ rows ∧
    (∀ other ∈ rows, other.rowId = row.rowId → other.rowVersion.value ≤ row.rowVersion.value) ∧
    ∀ stone ∈ stones, stone.rowId = row.rowId → stone.rowVersion.value < row.rowVersion.value

def TombstoneWins (stone : ActivityRowTombstone) : Prop :=
  stone ∈ stones ∧
    (∀ row ∈ rows, row.rowId = stone.rowId → row.rowVersion.value ≤ stone.rowVersion.value) ∧
    ∀ other ∈ stones, other.rowId = stone.rowId →
      other.rowVersion.value ≤ stone.rowVersion.value

/-- The events are frames that carry exactly the rows and tombstones of the collection. -/
structure Presents (events : List JsValue) : Prop where
  frames : ∀ event ∈ events, IsFrame event
  rows : ∀ row, row ∈ rows ↔ ∃ event ∈ events, row ∈ frameRows event
  stones : ∀ stone, stone ∈ stones ↔ ∃ event ∈ events, stone ∈ frameTombstones event

/-- The state is the join of the collection: rows sorted by `lastActivityAt` descending and
`rowId` ascending, each row and each tombstone a winner. -/
structure Joins (state : ActivityDomainState) : Prop where
  live : ∀ row, row ∈ state.rows ↔ RowWins rows stones row
  buried : ∀ rowId version, state.tombstones.own rowId = some version ↔
    ∃ stone, TombstoneWins rows stones stone ∧ stone.rowId = rowId ∧ stone.rowVersion = version
  exclusive : ∀ row ∈ state.rows, state.tombstones.own row.rowId = none
  unique : (state.rows.map ActivityRow.rowId).Nodup
  sorted : state.rows.Pairwise fun left right =>
    right.lastActivityAt < left.lastActivityAt ∨
      (left.lastActivityAt = right.lastActivityAt ∧ left.rowId < right.rowId)

/-- Every winner can be recorded: it outgrows the member of `Object.prototype` that its `rowId`
names, and a winning tombstone is not filed under `__proto__`. -/
structure WinnersRecordable : Prop where
  row : ∀ row, RowWins rows stones row → outgrows row.rowId row.rowVersion = true
  stone : ∀ stone, TombstoneWins rows stones stone →
    outgrows stone.rowId stone.rowVersion = true ∧ stone.rowId ≠ js "__proto__"

end

section

variable {rows : List ActivityRow} {stones : List ActivityRowTombstone} {events : List JsValue}

def VersionsDetermine (rows : List ActivityRow) : Prop :=
  ∀ row ∈ rows, ∀ other ∈ rows, row.rowId = other.rowId → row.rowVersion = other.rowVersion →
    row = other

theorem Presents.mem_items (h : Presents rows stones events) {rowId : JsString}
    {item : RowItem} :
    item ∈ events.flatMap (frameItems rowId) ↔ item ∈ itemsFor rowId rows stones := by
  simp only [List.mem_flatMap, frameItems]
  cases item with
  | live row =>
      simp only [mem_itemsFor_live, h.rows]
      tauto
  | buried version =>
      simp only [mem_itemsFor_buried, h.stones]
      constructor
      · rintro ⟨event, hevent, stone, hstone, heq⟩
        exact ⟨stone, ⟨event, hevent, hstone⟩, heq⟩
      · rintro ⟨stone, ⟨event, hevent, hstone⟩, heq⟩
        exact ⟨event, hevent, stone, hstone, heq⟩

theorem item_eq_of_rank_eq (hversions : VersionsDetermine rows) {rowId : JsString}
    {first second : RowItem} (hfirst : first ∈ itemsFor rowId rows stones)
    (hsecond : second ∈ itemsFor rowId rows stones) (hrank : first.rank = second.rank) :
    first = second := by
  cases first with
  | live row =>
      cases second with
      | live other =>
          obtain ⟨hrow, hid⟩ := mem_itemsFor_live.mp hfirst
          obtain ⟨hother, hid'⟩ := mem_itemsFor_live.mp hsecond
          have hversion : row.rowVersion.value = other.rowVersion.value := by
            simp only [RowItem.rank] at hrank
            omega
          rw [hversions row hrow other hother (hid.trans hid'.symm)
            (UInt64String.value_injective hversion)]
      | buried version =>
          simp only [RowItem.rank] at hrank
          omega
  | buried version =>
      cases second with
      | live other =>
          simp only [RowItem.rank] at hrank
          omega
      | buried other =>
          have hversion : version.value = other.value := by
            simp only [RowItem.rank] at hrank
            omega
          rw [UInt64String.value_injective hversion]

def Wins (rows : List ActivityRow) (stones : List ActivityRowTombstone) (rowId : JsString)
    (item : RowItem) : Prop :=
  item ∈ itemsFor rowId rows stones ∧ ∀ other ∈ itemsFor rowId rows stones, other.rank ≤ item.rank

theorem wins_live {rowId : JsString} {row : ActivityRow} :
    Wins rows stones rowId (.live row) ↔ RowWins rows stones row ∧ row.rowId = rowId := by
  constructor
  · rintro ⟨hmem, hmax⟩
    obtain ⟨hrow, rfl⟩ := mem_itemsFor_live.mp hmem
    refine ⟨⟨hrow, ?_, ?_⟩, rfl⟩
    · intro other hother hid
      have hle := hmax (.live other) (mem_itemsFor_live.mpr ⟨hother, hid⟩)
      simp only [RowItem.rank] at hle
      omega
    · intro stone hstone hid
      have hle := hmax (.buried stone.rowVersion)
        (mem_itemsFor_buried.mpr ⟨stone, hstone, hid, rfl⟩)
      simp only [RowItem.rank] at hle
      omega
  · rintro ⟨⟨hrow, hrows, hstones⟩, rfl⟩
    refine ⟨mem_itemsFor_live.mpr ⟨hrow, rfl⟩, ?_⟩
    intro item hitem
    cases item with
    | live other =>
        obtain ⟨hother, hid⟩ := mem_itemsFor_live.mp hitem
        have hle := hrows other hother hid
        simp only [RowItem.rank]
        omega
    | buried version =>
        obtain ⟨stone, hstone, hid, rfl⟩ := mem_itemsFor_buried.mp hitem
        have hlt := hstones stone hstone hid
        simp only [RowItem.rank]
        omega

theorem wins_buried {rowId : JsString} {version : UInt64String} :
    Wins rows stones rowId (.buried version) ↔
      ∃ stone, TombstoneWins rows stones stone ∧ stone.rowId = rowId ∧
        stone.rowVersion = version := by
  constructor
  · rintro ⟨hmem, hmax⟩
    obtain ⟨stone, hstone, rfl, rfl⟩ := mem_itemsFor_buried.mp hmem
    refine ⟨stone, ⟨hstone, ?_, ?_⟩, rfl, rfl⟩
    · intro row hrow hid
      have hle := hmax (.live row) (mem_itemsFor_live.mpr ⟨hrow, hid⟩)
      simp only [RowItem.rank] at hle
      omega
    · intro other hother hid
      have hle := hmax (.buried other.rowVersion)
        (mem_itemsFor_buried.mpr ⟨other, hother, hid, rfl⟩)
      simp only [RowItem.rank] at hle
      omega
  · rintro ⟨stone, ⟨hstone, hrows, hstones⟩, rfl, rfl⟩
    refine ⟨mem_itemsFor_buried.mpr ⟨stone, hstone, rfl, rfl⟩, ?_⟩
    intro item hitem
    cases item with
    | live row =>
        obtain ⟨hrow, hid⟩ := mem_itemsFor_live.mp hitem
        have hle := hrows row hrow hid
        simp only [RowItem.rank]
        omega
    | buried version =>
        obtain ⟨other, hother, hid, rfl⟩ := mem_itemsFor_buried.mp hitem
        have hle := hstones other hother hid
        simp only [RowItem.rank]
        omega

theorem item_eq_some_of_wins (hversions : VersionsDetermine rows) (h : Presents rows stones events)
    {rowId : JsString} {item : RowItem} (hwins : Wins rows stones rowId item)
    (hrecordable : recordable rowId item = true) :
    (run foldActivityEvent initialActivityState events).item rowId = some item := by
  rw [(canonical_initial.run_frames h.frames).2 rowId]
  refine offerKeptAll_eq_of_max _ _ hrecordable ?_ ?_ (Or.inr (h.mem_items.mpr hwins.1))
  · intro other hother
    have hmem := h.mem_items.mp hother
    rcases lt_or_eq_of_le (hwins.2 other hmem) with hlt | heq
    · exact Or.inl hlt
    · exact Or.inr (item_eq_of_rank_eq hversions hmem hwins.1 heq)
  · intro old hold
    cases hold

theorem item_source (h : Presents rows stones events) {rowId : JsString} {item : RowItem}
    (hitem : (run foldActivityEvent initialActivityState events).item rowId = some item) :
    item ∈ itemsFor rowId rows stones ∧ recordable rowId item = true := by
  rw [(canonical_initial.run_frames h.frames).2 rowId] at hitem
  rcases offerKeptAll_source _ _ hitem with hheld | ⟨hmem, hkeeps⟩
  · cases hheld
  · exact ⟨h.mem_items.mp hmem, hkeeps⟩

theorem exists_wins {rowId : JsString} {item : RowItem}
    (h : item ∈ itemsFor rowId rows stones) : ∃ top, Wins rows stones rowId top := by
  obtain ⟨top, htop⟩ := offerAll_isSome RowItem.rank none
    (Or.inr (List.ne_nil_of_mem h))
  obtain ⟨hsource, -, hmax⟩ := offerAll_spec RowItem.rank htop
  exact ⟨top, hsource.resolve_left (by simp), hmax⟩

theorem WinnersRecordable.wins (h : WinnersRecordable rows stones) {rowId : JsString}
    {item : RowItem} (hwins : Wins rows stones rowId item) : recordable rowId item = true := by
  cases item with
  | live row =>
      obtain ⟨hrow, rfl⟩ := wins_live.mp hwins
      exact h.row row hrow
  | buried version =>
      obtain ⟨stone, hstone, rfl, rfl⟩ := wins_buried.mp hwins
      obtain ⟨houtgrows, hne⟩ := h.stone stone hstone
      simp [recordable, houtgrows, hne]

theorem item_eq_some_iff (hversions : VersionsDetermine rows)
    (hwinners : WinnersRecordable rows stones)
    (h : Presents rows stones events) {rowId : JsString} {item : RowItem} :
    (run foldActivityEvent initialActivityState events).item rowId = some item ↔
      Wins rows stones rowId item := by
  constructor
  · intro hitem
    obtain ⟨top, htop⟩ := exists_wins (item_source h hitem).1
    rw [item_eq_some_of_wins hversions h htop (hwinners.wins htop)] at hitem
    cases hitem
    exact htop
  · exact fun hwins => item_eq_some_of_wins hversions h hwins (hwinners.wins hwins)

theorem Canonical.sorted_strict {state : ActivityDomainState} (h : Canonical state) :
    state.rows.Pairwise fun left right =>
      right.lastActivityAt < left.lastActivityAt ∨
        (left.lastActivityAt = right.lastActivityAt ∧ left.rowId < right.rowId) := by
  have hunique := List.pairwise_map.mp h.unique
  refine (h.sorted.and hunique).imp ?_
  rintro left right ⟨hle, hne⟩
  rcases compareRows_nonpos.mp hle with hlt | ⟨heq, hid⟩
  · exact Or.inl hlt
  · exact Or.inr ⟨heq, lt_of_le_of_ne hid hne⟩

theorem joins_of_recordable (hversions : VersionsDetermine rows)
    (hwinners : WinnersRecordable rows stones) (h : Presents rows stones events) :
    Joins rows stones (run foldActivityEvent initialActivityState events) := by
  have hcanonical := (canonical_initial.run_frames h.frames).1
  refine ⟨?_, ?_, ?_, hcanonical.unique, hcanonical.sorted_strict⟩
  · intro row
    rw [hcanonical.mem_rows_iff, item_eq_some_iff hversions hwinners h, wins_live]
    exact and_iff_left rfl
  · intro rowId version
    rw [hcanonical.own_eq_some_iff, item_eq_some_iff hversions hwinners h, wins_buried]
  · intro row hrow
    rw [hcanonical.mem_rows_iff] at hrow
    exact (hcanonical.exclusive.own_of_item_live hrow).2

theorem recordable_of_joins (h : Presents rows stones events)
    (hjoins : Joins rows stones (run foldActivityEvent initialActivityState events)) :
    WinnersRecordable rows stones := by
  have hcanonical := (canonical_initial.run_frames h.frames).1
  constructor
  · intro row hwins
    have hrow := hcanonical.mem_rows_iff.mp ((hjoins.live row).mpr hwins)
    exact (item_source h hrow).2
  · intro stone hwins
    have hown := (hjoins.buried stone.rowId stone.rowVersion).mpr ⟨stone, hwins, rfl, rfl⟩
    have hrecordable := (item_source h (hcanonical.own_eq_some_iff.mp hown)).2
    simpa [recordable] using hrecordable

end

def collectionFrame (rows : List ActivityRow) (stones : List ActivityRowTombstone) : JsValue :=
  .object [(js "type", .string (js "frame")),
    (js "rows", .array (rows.map fun row => .object row.fields)),
    (js "tombstones", .array (stones.map fun stone => .object stone.fields))]

theorem presents_collectionFrame (rows : List ActivityRow) (stones : List ActivityRowTombstone) :
    Presents rows stones [collectionFrame rows stones] := by
  have hrows : frameRows (collectionFrame rows stones) = rows := by
    have hread : (collectionFrame rows stones).read (js "rows") =
        .array (rows.map fun row => .object row.fields) := rfl
    rw [frameRows, hread, JsValue.arrayItems, List.filterMap_map]
    simp
  have hstones : frameTombstones (collectionFrame rows stones) = stones := by
    have hread : (collectionFrame rows stones).read (js "tombstones") =
        .array (stones.map fun stone => .object stone.fields) := rfl
    rw [frameTombstones, hread, JsValue.arrayItems, List.filterMap_map]
    simp
  refine ⟨?_, ?_, ?_⟩
  · intro event hevent
    rw [List.mem_singleton.mp hevent]
    rfl
  · simp [hrows]
  · simp [hstones]

/-- All deliveries of a collection end in one rows list and one tombstones map, the join of the
collection, exactly when its winners can be recorded. -/
theorem activity_merge_join_iff {rows : List ActivityRow} {stones : List ActivityRowTombstone}
    (hversions : VersionsDetermine rows) :
    (∀ events, Presents rows stones events →
      Joins rows stones (run foldActivityEvent initialActivityState events) ∧
        ∀ others, Presents rows stones others →
          (run foldActivityEvent initialActivityState events).rows =
              (run foldActivityEvent initialActivityState others).rows ∧
            (run foldActivityEvent initialActivityState events).tombstones =
              (run foldActivityEvent initialActivityState others).tombstones) ↔
      WinnersRecordable rows stones := by
  constructor
  · intro h
    exact recordable_of_joins (presents_collectionFrame rows stones)
      (h _ (presents_collectionFrame rows stones)).1
  · intro hwinners events hevents
    refine ⟨joins_of_recordable hversions hwinners hevents, fun others hothers => ?_⟩
    refine (canonical_initial.run_frames hevents.frames).1.eq_of_item_eq
      (canonical_initial.run_frames hothers.frames).1 fun rowId => ?_
    apply Option.ext
    intro item
    rw [item_eq_some_iff hversions hwinners hevents, item_eq_some_iff hversions hwinners hothers]

def channelRow : ActivityRow where
  fields := [(js "rowId", .string (js "channel-a")), (js "rowVersion", .string (js "12")),
    (js "maxReadSeq", .string (js "0")), (js "readStateVersion", .string (js "0")),
    (js "lastActivityAt", .string (js "2026-01-01")), (js "type", .string (js "channel"))]
  isRow_fields := by decide

def channelTombstone : ActivityRowTombstone where
  fields := [(js "rowId", .string (js "channel-a")), (js "rowVersion", .string (js "9")),
    (js "reason", .string (js "done"))]
  isTombstone_fields := by decide

theorem activity_merge_join_iff_older_tombstone :
    Joins [channelRow] [channelTombstone]
      (run foldActivityEvent initialActivityState
        [collectionFrame [channelRow] [channelTombstone]]) := by
  refine ((activity_merge_join_iff ?_).mpr ⟨?_, ?_⟩ _ (presents_collectionFrame _ _)).1
  · intro row hrow other hother _ _
    rw [List.mem_singleton.mp hrow, List.mem_singleton.mp hother]
  · rintro row ⟨hrow, -⟩
    rw [List.mem_singleton.mp hrow]
    decide
  · rintro stone ⟨hstone, -⟩
    rw [List.mem_singleton.mp hstone]
    decide

def constructorRow : ActivityRow where
  fields := [(js "rowId", .string (js "constructor")), (js "rowVersion", .string (js "5")),
    (js "maxReadSeq", .string (js "0")), (js "readStateVersion", .string (js "0")),
    (js "lastActivityAt", .string (js "2026-01-01")), (js "type", .string (js "channel"))]
  isRow_fields := by decide

/-- The row loses against the inherited `constructor` function of the tombstones object. -/
theorem constructor_row_dropped :
    VersionsDetermine [constructorRow] ∧
      Presents [constructorRow] [] [collectionFrame [constructorRow] []] ∧
      (run foldActivityEvent initialActivityState
        [collectionFrame [constructorRow] []]).rows.length = 0 ∧
      ¬ Joins [constructorRow] [] (run foldActivityEvent initialActivityState
        [collectionFrame [constructorRow] []]) := by
  have hlength : (run foldActivityEvent initialActivityState
      [collectionFrame [constructorRow] []]).rows.length = 0 := by decide
  refine ⟨?_, presents_collectionFrame _ _, hlength, ?_⟩
  · intro row hrow other hother _ _
    rw [List.mem_singleton.mp hrow, List.mem_singleton.mp hother]
  · intro hjoins
    have hwins : RowWins [constructorRow] [] constructorRow := by simp [RowWins]
    have hmem := (hjoins.live constructorRow).mpr hwins
    rw [List.length_eq_zero_iff.mp hlength] at hmem
    cases hmem

end Raft.Activity
