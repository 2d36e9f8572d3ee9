import Raft.Activity.Domain
import Raft.Foundation.MaxRegister
import Raft.Foundation.Run

/-!
# One row at a time

Seen from one `rowId`, the two tables of the reducer are a single register: it
holds a live row, the version that buried it, or nothing, and every row and
tombstone of a frame is an offer.  A tombstone ranks above a row of its version.
-/

namespace Raft.Activity

open Raft.Foundation

inductive RowItem where
  | live (row : ActivityRow)
  | buried (version : UInt64String)

def RowItem.rank : RowItem → Nat
  | .live row => 2 * row.rowVersion.value
  | .buried version => 2 * version.value + 1

/-- The version does not lose against an inherited member of the tombstone object. -/
def outgrows (rowId : JsString) (version : UInt64String) : Bool :=
  match prototypeMethod rowId with
  | none => true
  | some (_, length) => length < version.1.length

def recordable (rowId : JsString) : RowItem → Bool
  | .live row => outgrows rowId row.rowVersion
  | .buried version => outgrows rowId version && rowId ≠ js "__proto__"

/-! ## Inherited members -/

theorem isDigit_lt {unit : CodeUnit} (h : isDigit unit = true) : unit < 0x66 := by
  simp only [isDigit, Bool.and_eq_true, decide_eq_true_eq] at h
  exact Fin.lt_def.mpr (show unit.val < 0x66 by omega)

theorem version_lt_nativeFunctionText (version : UInt64String) (name : JsString) :
    version.1 < nativeFunctionText name := by
  obtain ⟨units, hcanonical⟩ := version
  cases units with
  | nil => simp [isCanonicalDecimal] at hcanonical
  | cons unit rest =>
      have hall := isCanonicalDecimal_all hcanonical
      simp only [List.all_cons, Bool.and_eq_true] at hall
      have htext : nativeFunctionText name =
          0x66 :: (js "unction " ++ name ++ js "() \x7b [native code] \x7d") := rfl
      rw [htext]
      exact List.cons_lt_cons_iff.mpr (Or.inl (isDigit_lt hall.1))

theorem notAboveBuried_of_own {tombstones : PlainObject UInt64String} {rowId : JsString}
    {buried : UInt64String} (version : UInt64String) (h : tombstones.own rowId = some buried) :
    notAboveBuried version (tombstones.get rowId) = decide (version.value ≤ buried.value) := by
  simp [PlainObject.get_of_own h, notAboveBuried]

theorem notAboveBuried_of_own_none {tombstones : PlainObject UInt64String} {rowId : JsString}
    (version : UInt64String) (h : tombstones.own rowId = none) :
    notAboveBuried version (tombstones.get rowId) = !outgrows rowId version := by
  rw [PlainObject.get, h]
  by_cases hproto : rowId = js "__proto__"
  · subst hproto
    rfl
  · simp only [hproto, ↓reduceIte, outgrows]
    cases hmethod : prototypeMethod rowId with
    | none => rfl
    | some method =>
        obtain ⟨name, length⟩ := method
        simp only [notAboveBuried]
        rcases lt_trichotomy version.1.length length with hlt | heq | hgt
        · simp [ne_of_lt hlt, hlt, not_lt.mpr hlt.le]
        · simp [heq, version_lt_nativeFunctionText]
        · simp [ne_of_gt hgt, hgt, not_lt.mpr hgt.le]

theorem outgrows_of_le {rowId : JsString} {held version : UInt64String}
    (h : outgrows rowId held = true) (hle : held.value ≤ version.value) :
    outgrows rowId version = true := by
  cases hmethod : prototypeMethod rowId with
  | none => simp [outgrows, hmethod]
  | some method =>
      simp only [outgrows, hmethod, decide_eq_true_eq] at h ⊢
      by_contra hshort
      have hlt := decimalValue_lt_of_length_lt version.2 held.2 (by omega)
      exact absurd hle (not_le.mpr hlt)

/-! ## The tables -/

namespace RowTables

def item (tables : RowTables) (rowId : JsString) : Option RowItem :=
  match tables.byId.get rowId with
  | some row => some (.live row)
  | none => (tables.tombstones.own rowId).map RowItem.buried

/-- No `rowId` is both live and buried, and rows are filed under their own `rowId`. -/
structure Exclusive (tables : RowTables) : Prop where
  filed : ∀ rowId row, tables.byId.get rowId = some row → row.rowId = rowId
  unburied : ∀ rowId row, tables.byId.get rowId = some row → tables.tombstones.own rowId = none
  recordable : ∀ rowId item, tables.item rowId = some item → recordable rowId item = true

variable {tables : RowTables}

theorem item_of_live {rowId : JsString} {row : ActivityRow}
    (h : tables.byId.get rowId = some row) : tables.item rowId = some (.live row) := by
  rw [item, h]

theorem item_of_not_live {rowId : JsString} (h : tables.byId.get rowId = none) :
    tables.item rowId = (tables.tombstones.own rowId).map RowItem.buried := by
  rw [item, h]

theorem get_eq_some_iff {rowId : JsString} {row : ActivityRow} :
    tables.byId.get rowId = some row ↔ tables.item rowId = some (.live row) := by
  constructor
  · exact item_of_live
  · intro h
    cases hget : tables.byId.get rowId with
    | none => simp [item_of_not_live hget] at h
    | some found =>
        rw [item_of_live hget] at h
        cases h
        rfl

theorem Exclusive.own_eq_some_iff (h : tables.Exclusive) {rowId : JsString}
    {version : UInt64String} :
    tables.tombstones.own rowId = some version ↔ tables.item rowId = some (.buried version) := by
  cases hget : tables.byId.get rowId with
  | none => simp [item_of_not_live hget]
  | some row => simp [item_of_live hget, h.unburied rowId row hget]

theorem Exclusive.of_item (next : RowTables) {rowId : JsString} (h : tables.Exclusive)
    (hbyId : ∀ other, other ≠ rowId → next.byId.get other = tables.byId.get other)
    (hown : ∀ other, other ≠ rowId → next.tombstones.own other = tables.tombstones.own other)
    (hlive : ∀ row, next.byId.get rowId = some row →
      row.rowId = rowId ∧ next.tombstones.own rowId = none)
    (hrecordable : ∀ item, next.item rowId = some item → Activity.recordable rowId item = true) :
    next.Exclusive ∧ ∀ other, other ≠ rowId → next.item other = tables.item other := by
  have hitem : ∀ other, other ≠ rowId → next.item other = tables.item other := by
    intro other hne
    rw [item, item, hbyId other hne, hown other hne]
  refine ⟨⟨?_, ?_, ?_⟩, hitem⟩
  · intro other row hget
    by_cases hne : other = rowId
    · subst hne
      exact (hlive row hget).1
    · exact h.filed other row (by rwa [← hbyId other hne])
  · intro other row hget
    by_cases hne : other = rowId
    · subst hne
      exact (hlive row hget).2
    · rw [hown other hne]
      exact h.unburied other row (by rwa [← hbyId other hne])
  · intro other item hget
    by_cases hne : other = rowId
    · subst hne
      exact hrecordable item hget
    · exact h.recordable other item (by rwa [← hitem other hne])

theorem Exclusive.set_row (h : tables.Exclusive) {row : ActivityRow}
    (hrecordable : outgrows row.rowId row.rowVersion = true) {next : RowTables}
    (hnext : next = ⟨tables.byId.set row.rowId row, tables.tombstones.delete row.rowId⟩) :
    next.Exclusive ∧ next.item row.rowId = some (.live row) ∧
      ∀ other, other ≠ row.rowId → next.item other = tables.item other := by
  subst hnext
  have hget := tables.byId.get_set_self row.rowId row
  obtain ⟨hexclusive, hothers⟩ := h.of_item
    ⟨tables.byId.set row.rowId row, tables.tombstones.delete row.rowId⟩
    (fun other hne => tables.byId.get_set_of_ne row hne)
    (fun other hne => by rw [PlainObject.own_delete, if_neg hne])
    (fun found hfound => by
      rw [hget] at hfound
      cases hfound
      exact ⟨rfl, by rw [PlainObject.own_delete, if_pos rfl]⟩)
    (fun found hfound => by
      rw [item_of_live hget] at hfound
      cases hfound
      exact hrecordable)
  exact ⟨hexclusive, item_of_live hget, hothers⟩

theorem Exclusive.bury (h : tables.Exclusive) {rowId : JsString} {version : UInt64String}
    (houtgrows : outgrows rowId version = true) {next : RowTables}
    (hnext : next = ⟨tables.byId.delete rowId, tables.tombstones.set rowId version⟩) :
    next.Exclusive ∧
      next.item rowId =
        (if Activity.recordable rowId (.buried version) then some (.buried version) else none) ∧
      ∀ other, other ≠ rowId → next.item other = tables.item other := by
  subst hnext
  have hget := tables.byId.get_delete_self rowId
  have hitem : item ⟨tables.byId.delete rowId, tables.tombstones.set rowId version⟩ rowId =
      (if Activity.recordable rowId (.buried version) then some (.buried version) else none) := by
    rw [item_of_not_live hget]
    by_cases hproto : rowId = js "__proto__"
    · subst hproto
      rw [PlainObject.set_proto, tables.tombstones.own_proto]
      rfl
    · simp [PlainObject.own_set _ hproto, Activity.recordable, houtgrows, hproto]
  obtain ⟨hexclusive, hothers⟩ := h.of_item
    ⟨tables.byId.delete rowId, tables.tombstones.set rowId version⟩
    (fun other hne => tables.byId.get_delete_of_ne hne)
    (fun other hne => by
      by_cases hproto : rowId = js "__proto__"
      · rw [hproto, PlainObject.set_proto]
      · rw [PlainObject.own_set _ hproto, if_neg hne])
    (fun found hfound => by
      rw [hget] at hfound
      cases hfound)
    (fun found hfound => by
      rw [hitem] at hfound
      split at hfound
      · cases hfound
        assumption
      · cases hfound)
  exact ⟨hexclusive, hitem, hothers⟩

theorem own_of_item_none {rowId : JsString} (h : tables.item rowId = none) :
    tables.byId.get rowId = none ∧ tables.tombstones.own rowId = none := by
  cases hget : tables.byId.get rowId with
  | none => simpa [item_of_not_live hget] using h
  | some row => simp [item_of_live hget] at h

theorem own_of_item_buried {rowId : JsString} {version : UInt64String}
    (h : tables.item rowId = some (.buried version)) :
    tables.byId.get rowId = none ∧ tables.tombstones.own rowId = some version := by
  cases hget : tables.byId.get rowId with
  | none => simpa [item_of_not_live hget] using h
  | some row => simp [item_of_live hget] at h

theorem Exclusive.own_of_item_live (h : tables.Exclusive) {rowId : JsString} {row : ActivityRow}
    (hitem : tables.item rowId = some (.live row)) :
    tables.byId.get rowId = some row ∧ tables.tombstones.own rowId = none := by
  have hget := get_eq_some_iff.mpr hitem
  exact ⟨hget, h.unburied rowId row hget⟩

def Offered (tables next : RowTables) (rowId : JsString) (candidate : RowItem) : Prop :=
  next.Exclusive ∧
    next.item rowId = offerKept RowItem.rank (Activity.recordable rowId) (tables.item rowId)
      candidate ∧
    ∀ other, other ≠ rowId → next.item other = tables.item other

theorem Exclusive.refused (h : tables.Exclusive) {rowId : JsString} {candidate : RowItem}
    (hrefused : offerKept RowItem.rank (Activity.recordable rowId) (tables.item rowId) candidate =
      tables.item rowId) : Offered tables tables rowId candidate :=
  ⟨h, hrefused.symm, fun _ _ => rfl⟩

theorem Exclusive.applyRow (h : tables.Exclusive) (candidate : ActivityRow) :
    Offered tables (applyRow tables candidate) candidate.rowId (.live candidate) := by
  have haccept (houtgrows : outgrows candidate.rowId candidate.rowVersion = true)
      (hnext : Activity.applyRow tables candidate =
        ⟨tables.byId.set candidate.rowId candidate, tables.tombstones.delete candidate.rowId⟩)
      (hoffer : offerKept RowItem.rank (Activity.recordable candidate.rowId)
        (tables.item candidate.rowId) (.live candidate) = some (.live candidate)) :
      Offered tables (Activity.applyRow tables candidate) candidate.rowId (.live candidate) := by
    obtain ⟨hexclusive, hitem, hothers⟩ := h.set_row houtgrows hnext
    exact ⟨hexclusive, hitem.trans hoffer.symm, hothers⟩
  cases hitem : tables.item candidate.rowId with
  | none =>
      obtain ⟨hget, hown⟩ := own_of_item_none hitem
      cases houtgrows : outgrows candidate.rowId candidate.rowVersion with
      | true =>
          refine haccept houtgrows ?_ ?_
          · simp [Activity.applyRow, notAboveBuried_of_own_none _ hown, houtgrows, hget]
          · simp [hitem, offerKept, Activity.recordable, houtgrows]
      | false =>
          have hnext : Activity.applyRow tables candidate = tables := by
            simp [Activity.applyRow, notAboveBuried_of_own_none _ hown, houtgrows]
          rw [hnext]
          exact h.refused (by simp [hitem, offerKept, Activity.recordable, houtgrows])
  | some held =>
      cases held with
      | buried buried =>
          obtain ⟨hget, hown⟩ := own_of_item_buried hitem
          by_cases hle : candidate.rowVersion.value ≤ buried.value
          · have hnext : Activity.applyRow tables candidate = tables := by
              simp [Activity.applyRow, notAboveBuried_of_own _ hown, hle]
            have hrank : ¬ 2 * buried.value + 1 < 2 * candidate.rowVersion.value := by omega
            rw [hnext]
            exact h.refused (by simp [hitem, offerKept, RowItem.rank, hrank])
          · have hheld := h.recordable _ _ hitem
            simp only [Activity.recordable, Bool.and_eq_true] at hheld
            have houtgrows := outgrows_of_le hheld.1 (not_le.mp hle).le
            have hrank : 2 * buried.value + 1 < 2 * candidate.rowVersion.value := by omega
            refine haccept houtgrows ?_ ?_
            · simp [Activity.applyRow, notAboveBuried_of_own _ hown, hle, hget]
            · simp [hitem, offerKept, RowItem.rank, hrank, Activity.recordable, houtgrows]
      | live existing =>
          obtain ⟨hget, hown⟩ := h.own_of_item_live hitem
          have hheld := h.recordable _ _ hitem
          by_cases hle : candidate.rowVersion.value ≤ existing.rowVersion.value
          · have hnext : Activity.applyRow tables candidate = tables := by
              simp [Activity.applyRow, hget, hle]
            have hrank : ¬ 2 * existing.rowVersion.value < 2 * candidate.rowVersion.value := by
              omega
            rw [hnext]
            exact h.refused (by simp [hitem, offerKept, RowItem.rank, hrank])
          · have houtgrows : outgrows candidate.rowId candidate.rowVersion = true :=
              outgrows_of_le hheld (not_le.mp hle).le
            have hrank : 2 * existing.rowVersion.value < 2 * candidate.rowVersion.value := by omega
            refine haccept houtgrows ?_ ?_
            · simp [Activity.applyRow, notAboveBuried_of_own_none _ hown, houtgrows, hget, hle]
            · simp [hitem, offerKept, RowItem.rank, hrank, Activity.recordable, houtgrows]

theorem Exclusive.applyTombstone (h : tables.Exclusive) (candidate : ActivityRowTombstone) :
    Offered tables (applyTombstone tables candidate) candidate.rowId
      (.buried candidate.rowVersion) := by
  have haccept (houtgrows : outgrows candidate.rowId candidate.rowVersion = true)
      (hnext : Activity.applyTombstone tables candidate =
        ⟨tables.byId.delete candidate.rowId,
          tables.tombstones.set candidate.rowId candidate.rowVersion⟩)
      (hoffer : offerKept RowItem.rank (Activity.recordable candidate.rowId)
        (tables.item candidate.rowId) (.buried candidate.rowVersion) =
          if Activity.recordable candidate.rowId (.buried candidate.rowVersion) then
            some (.buried candidate.rowVersion) else none) :
      Offered tables (Activity.applyTombstone tables candidate) candidate.rowId
        (.buried candidate.rowVersion) := by
    obtain ⟨hexclusive, hitem, hothers⟩ := h.bury houtgrows hnext
    exact ⟨hexclusive, hitem.trans hoffer.symm, hothers⟩
  cases hitem : tables.item candidate.rowId with
  | none =>
      obtain ⟨hget, hown⟩ := own_of_item_none hitem
      cases houtgrows : outgrows candidate.rowId candidate.rowVersion with
      | true =>
          refine haccept houtgrows ?_ ?_
          · simp [Activity.applyTombstone, notAboveBuried_of_own_none _ hown, houtgrows, hget]
          · simp [hitem, offerKept]
      | false =>
          have hnext : Activity.applyTombstone tables candidate = tables := by
            simp [Activity.applyTombstone, notAboveBuried_of_own_none _ hown, houtgrows, hget]
          rw [hnext]
          exact h.refused (by simp [hitem, offerKept, Activity.recordable, houtgrows])
  | some held =>
      have hheld := h.recordable _ _ hitem
      cases held with
      | buried buried =>
          obtain ⟨hget, hown⟩ := own_of_item_buried hitem
          by_cases hle : candidate.rowVersion.value ≤ buried.value
          · have hnext : Activity.applyTombstone tables candidate = tables := by
              simp [Activity.applyTombstone, notAboveBuried_of_own _ hown, hle, hget]
            have hrank : ¬ buried.value < candidate.rowVersion.value := not_lt.mpr hle
            rw [hnext]
            exact h.refused (by simp [hitem, offerKept, RowItem.rank, hrank])
          · simp only [Activity.recordable, Bool.and_eq_true] at hheld
            have houtgrows := outgrows_of_le hheld.1 (not_le.mp hle).le
            refine haccept houtgrows ?_ ?_
            · simp [Activity.applyTombstone, notAboveBuried_of_own _ hown, hle, hget]
            · simp [hitem, offerKept, RowItem.rank, not_le.mp hle]
      | live existing =>
          obtain ⟨hget, hown⟩ := h.own_of_item_live hitem
          by_cases hlt : candidate.rowVersion.value < existing.rowVersion.value
          · have hnext : Activity.applyTombstone tables candidate = tables := by
              simp [Activity.applyTombstone, hget, hlt]
            have hrank : ¬ 2 * existing.rowVersion.value < 2 * candidate.rowVersion.value + 1 := by
              omega
            rw [hnext]
            exact h.refused (by simp [hitem, offerKept, RowItem.rank, hrank])
          · have houtgrows : outgrows candidate.rowId candidate.rowVersion = true :=
              outgrows_of_le hheld (not_lt.mp hlt)
            have hrank : 2 * existing.rowVersion.value < 2 * candidate.rowVersion.value + 1 := by
              omega
            refine haccept houtgrows ?_ ?_
            · simp [Activity.applyTombstone, notAboveBuried_of_own_none _ hown, houtgrows, hget,
                hlt]
            · simp [hitem, offerKept, RowItem.rank, hrank]

theorem Exclusive.foldl {κ : Type*} {apply : RowTables → κ → RowTables} {rowId : κ → JsString}
    {itemOf : κ → RowItem}
    (hstep : ∀ tables : RowTables, tables.Exclusive → ∀ candidate,
      Offered tables (apply tables candidate) (rowId candidate) (itemOf candidate))
    (h : tables.Exclusive) (candidates : List κ) :
    (candidates.foldl apply tables).Exclusive ∧
      ∀ key, (candidates.foldl apply tables).item key =
        offerKeptAll RowItem.rank (Activity.recordable key) (tables.item key)
          ((candidates.filter fun candidate => rowId candidate = key).map itemOf) := by
  induction candidates generalizing tables with
  | nil => exact ⟨h, fun _ => rfl⟩
  | cons candidate candidates ih =>
      obtain ⟨hexclusive, hitem, hothers⟩ := hstep tables h candidate
      obtain ⟨hend, hitems⟩ := ih hexclusive
      refine ⟨hend, fun key => ?_⟩
      rw [List.foldl_cons, hitems key]
      by_cases hkey : rowId candidate = key
      · subst hkey
        simp [hitem]
      · simp [hkey, hothers key (Ne.symm hkey)]

end RowTables

def itemsFor (rowId : JsString) (rows : List ActivityRow) (stones : List ActivityRowTombstone) :
    List RowItem :=
  (rows.filter fun row => row.rowId = rowId).map .live ++
    (stones.filter fun stone => stone.rowId = rowId).map fun stone => .buried stone.rowVersion

theorem mem_itemsFor_live {rowId : JsString} {rows : List ActivityRow}
    {stones : List ActivityRowTombstone} {row : ActivityRow} :
    .live row ∈ itemsFor rowId rows stones ↔ row ∈ rows ∧ row.rowId = rowId := by
  simp [itemsFor]

theorem mem_itemsFor_buried {rowId : JsString} {rows : List ActivityRow}
    {stones : List ActivityRowTombstone} {version : UInt64String} :
    .buried version ∈ itemsFor rowId rows stones ↔
      ∃ stone ∈ stones, stone.rowId = rowId ∧ stone.rowVersion = version := by
  simp [itemsFor, and_assoc]

theorem foldTables_spec {tables : RowTables} (h : tables.Exclusive)
    (incomingRows incomingTombstones : List JsValue) :
    (foldTables tables incomingRows incomingTombstones).Exclusive ∧
      ∀ rowId, (foldTables tables incomingRows incomingTombstones).item rowId =
        offerKeptAll RowItem.rank (recordable rowId) (tables.item rowId)
          (itemsFor rowId (incomingRows.filterMap asRow)
            (incomingTombstones.filterMap asTombstone)) := by
  obtain ⟨hrows, hrowItems⟩ := h.foldl (fun _ h candidate => h.applyRow candidate)
    (incomingRows.filterMap asRow)
  obtain ⟨hstones, hstoneItems⟩ := hrows.foldl (fun _ h candidate => h.applyTombstone candidate)
    (incomingTombstones.filterMap asTombstone)
  refine ⟨hstones, fun rowId => ?_⟩
  rw [itemsFor, offerKeptAll_append, ← hrowItems]
  exact hstoneItems rowId

/-! ## Row order -/

theorem compareRows_nonpos {left right : ActivityRow} :
    compareRows left right ≤ 0 ↔
      right.lastActivityAt < left.lastActivityAt ∨
        (left.lastActivityAt = right.lastActivityAt ∧ left.rowId ≤ right.rowId) := by
  rcases lt_trichotomy left.lastActivityAt right.lastActivityAt with h | h | h
  · simp [compareRows, ne_of_lt h, h, not_lt.mpr h.le]
  · rcases lt_trichotomy left.rowId right.rowId with hid | hid | hid
    · simp [compareRows, h, ne_of_lt hid, hid, hid.le]
    · simp [compareRows, h, hid]
    · simp [compareRows, h, ne_of_gt hid, not_lt.mpr hid.le, not_le.mpr hid]
  · simp [compareRows, ne_of_gt h, h, not_lt.mpr h.le]

instance : Std.Total fun left right : ActivityRow => compareRows left right ≤ 0 where
  total left right := by
    rw [compareRows_nonpos, compareRows_nonpos]
    rcases lt_trichotomy left.lastActivityAt right.lastActivityAt with h | h | h
    · exact Or.inr (Or.inl h)
    · rcases le_total left.rowId right.rowId with hid | hid
      · exact Or.inl (Or.inr ⟨h, hid⟩)
      · exact Or.inr (Or.inr ⟨h.symm, hid⟩)
    · exact Or.inl (Or.inl h)

instance : IsTrans ActivityRow fun left right => compareRows left right ≤ 0 where
  trans first second third := by
    rw [compareRows_nonpos, compareRows_nonpos, compareRows_nonpos]
    rintro (h | ⟨h, hid⟩) (h' | ⟨h', hid'⟩)
    · exact Or.inl (lt_trans h' h)
    · exact Or.inl (h' ▸ h)
    · exact Or.inl (h ▸ h')
    · exact Or.inr ⟨h.trans h', le_trans hid hid'⟩

theorem rowId_eq_of_compareRows {left right : ActivityRow} (h : compareRows left right ≤ 0)
    (h' : compareRows right left ≤ 0) : left.rowId = right.rowId := by
  rw [compareRows_nonpos] at h h'
  rcases h with h | ⟨h, hid⟩
  · rcases h' with h' | ⟨h', -⟩
    · exact absurd (lt_trans h h') (lt_irrefl _)
    · exact absurd h (h' ▸ lt_irrefl _)
  · rcases h' with h' | ⟨-, hid'⟩
    · exact absurd h' (h ▸ lt_irrefl _)
    · exact le_antisymm hid hid'

/-! ## The state of a scope -/

theorem get_indexRows {rows : List ActivityRow} (h : (rows.map ActivityRow.rowId).Nodup)
    {rowId : JsString} {row : ActivityRow} :
    (indexRows rows).get rowId = some row ↔ row ∈ rows ∧ row.rowId = rowId := by
  induction rows using List.reverseRecOn with
  | nil => simp [indexRows]
  | append_singleton rows last ih =>
      simp only [List.map_append, List.map_cons, List.map_nil, List.nodup_append,
        List.mem_singleton] at h
      have hlast : ∀ other ∈ rows, other.rowId ≠ last.rowId := fun other hother =>
        h.2.2 other.rowId (List.mem_map_of_mem hother) last.rowId rfl
      have hset : indexRows (rows ++ [last]) = (indexRows rows).set last.rowId last := by
        simp [indexRows]
      rw [hset, InsertionMap.get_set]
      by_cases hid : rowId = last.rowId
      · subst hid
        rw [if_pos rfl]
        constructor
        · intro heq
          cases heq
          simp
        · rintro ⟨hmem, hrowId⟩
          rcases List.mem_append.mp hmem with hrow | hrow
          · exact absurd hrowId (hlast row hrow)
          · rw [List.mem_singleton.mp hrow]
      · rw [if_neg hid, ih h.1]
        constructor
        · rintro ⟨hmem, hrowId⟩
          exact ⟨List.mem_append_left _ hmem, hrowId⟩
        · rintro ⟨hmem, hrowId⟩
          rcases List.mem_append.mp hmem with hrow | hrow
          · exact ⟨hrow, hrowId⟩
          · rw [List.mem_singleton.mp hrow] at hrowId
            exact absurd hrowId.symm hid

theorem values_rowId {tables : RowTables} (h : tables.Exclusive) :
    tables.byId.values.map ActivityRow.rowId = tables.byId.keys := by
  rw [InsertionMap.values, InsertionMap.keys, List.map_map]
  apply List.map_congr_left
  rintro ⟨rowId, row⟩ hentry
  exact h.filed rowId row ((tables.byId.mem_entries_iff rowId row).mp hentry)

namespace ActivityDomainState

def tables (state : ActivityDomainState) : RowTables := ⟨indexRows state.rows, state.tombstones⟩

def item (state : ActivityDomainState) (rowId : JsString) : Option RowItem :=
  state.tables.item rowId

end ActivityDomainState

/-- What every fold keeps of a scope: unique rows in canonical order, none of them buried. -/
structure Canonical (state : ActivityDomainState) : Prop where
  unique : (state.rows.map ActivityRow.rowId).Nodup
  sorted : state.rows.Pairwise fun left right => compareRows left right ≤ 0
  exclusive : state.tables.Exclusive

section

variable {state : ActivityDomainState}

theorem canonical_initial : Canonical initialActivityState := by
  refine ⟨List.nodup_nil, List.Pairwise.nil, ?_, ?_, ?_⟩
  all_goals
    intro rowId found h
    cases h

theorem Canonical.mem_rows_iff (h : Canonical state) {row : ActivityRow} :
    row ∈ state.rows ↔ state.item row.rowId = some (.live row) := by
  have hget : (indexRows state.rows).get row.rowId = some row ↔
      row ∈ state.rows ∧ row.rowId = row.rowId := get_indexRows h.unique
  rw [ActivityDomainState.item, ← RowTables.get_eq_some_iff, ActivityDomainState.tables, hget]
  simp

theorem Canonical.own_eq_some_iff (h : Canonical state) {rowId : JsString}
    {version : UInt64String} :
    state.tombstones.own rowId = some version ↔ state.item rowId = some (.buried version) :=
  h.exclusive.own_eq_some_iff

theorem Canonical.eq_of_item_eq {other : ActivityDomainState} (h : Canonical state)
    (hother : Canonical other) (hitem : ∀ rowId, state.item rowId = other.item rowId) :
    state.rows = other.rows ∧ state.tombstones = other.tombstones := by
  constructor
  · have hperm : state.rows.Perm other.rows := by
      apply (List.perm_ext_iff_of_nodup h.unique.of_map hother.unique.of_map).mpr
      intro row
      rw [h.mem_rows_iff, hother.mem_rows_iff, hitem]
    refine hperm.eq_of_pairwise ?_ h.sorted hother.sorted
    intro left right hleft hright hle hge
    have hid := rowId_eq_of_compareRows hle hge
    rw [h.mem_rows_iff, hid] at hleft
    rw [hother.mem_rows_iff, ← hitem, hleft] at hright
    cases hright
    rfl
  · ext rowId
    rw [h.own_eq_some_iff, hother.own_eq_some_iff, hitem]

theorem Canonical.applyRowsAndTombstones (h : Canonical state)
    (incomingRows incomingTombstones : List JsValue) :
    Canonical (applyRowsAndTombstones state incomingRows incomingTombstones) ∧
      ∀ rowId, (applyRowsAndTombstones state incomingRows incomingTombstones).item rowId =
        offerKeptAll RowItem.rank (recordable rowId) (state.item rowId)
          (itemsFor rowId (incomingRows.filterMap asRow)
            (incomingTombstones.filterMap asTombstone)) := by
  obtain ⟨hexclusive, hitems⟩ := foldTables_spec h.exclusive incomingRows incomingTombstones
  set folded := foldTables state.tables incomingRows incomingTombstones with hfolded
  have hperm : (sortRows folded.byId.values).Perm folded.byId.values :=
    List.perm_insertionSort _ _
  have hunique : ((sortRows folded.byId.values).map ActivityRow.rowId).Nodup := by
    rw [(hperm.map ActivityRow.rowId).nodup_iff, values_rowId hexclusive]
    exact folded.byId.nodup
  have hget : ∀ rowId, (indexRows (sortRows folded.byId.values)).get rowId =
      folded.byId.get rowId := by
    intro rowId
    apply Option.ext
    intro row
    rw [get_indexRows hunique, hperm.mem_iff, InsertionMap.mem_values_iff]
    constructor
    · rintro ⟨⟨key, hrow⟩, rfl⟩
      rwa [hexclusive.filed key row hrow]
    · intro hrow
      exact ⟨⟨rowId, hrow⟩, hexclusive.filed rowId row hrow⟩
  have hitem : ∀ rowId,
      (RowTables.mk (indexRows (sortRows folded.byId.values)) folded.tombstones).item rowId =
        folded.item rowId := by
    intro rowId
    simp only [RowTables.item, hget]
  refine ⟨⟨hunique, List.pairwise_insertionSort _ _, ?_, ?_, ?_⟩, fun rowId => ?_⟩
  · exact fun rowId row hrow => hexclusive.filed rowId row ((hget rowId).symm.trans hrow)
  · exact fun rowId row hrow => hexclusive.unburied rowId row ((hget rowId).symm.trans hrow)
  · exact fun rowId found hfound =>
      hexclusive.recordable rowId found ((hitem rowId).symm.trans hfound)
  · exact (hitem rowId).trans (hitems rowId)

end

/-! ## Frames -/

def IsFrame (event : JsValue) : Prop := event.read (js "type") = .string (js "frame")

def frameRows (event : JsValue) : List ActivityRow :=
  (event.read (js "rows")).arrayItems.filterMap asRow

def frameTombstones (event : JsValue) : List ActivityRowTombstone :=
  (event.read (js "tombstones")).arrayItems.filterMap asTombstone

def frameItems (rowId : JsString) (event : JsValue) : List RowItem :=
  itemsFor rowId (frameRows event) (frameTombstones event)

theorem foldActivityEvent_frame {event : JsValue} (h : IsFrame event)
    (state : ActivityDomainState) : foldActivityEvent state event = foldFrame state event := by
  rw [IsFrame] at h
  simp only [foldActivityEvent, h, ↓reduceIte]

theorem Canonical.foldFrame {state : ActivityDomainState} (h : Canonical state)
    (event : JsValue) :
    Canonical (foldFrame state event) ∧
      ∀ rowId, (foldFrame state event).item rowId =
        offerKeptAll RowItem.rank (recordable rowId) (state.item rowId)
          (frameItems rowId event) := by
  obtain ⟨hcanonical, hitems⟩ := h.applyRowsAndTombstones
    (event.read (js "rows")).arrayItems (event.read (js "tombstones")).arrayItems
  exact ⟨⟨hcanonical.unique, hcanonical.sorted, hcanonical.exclusive⟩, hitems⟩

theorem Canonical.run_frames {state : ActivityDomainState} (h : Canonical state)
    {events : List JsValue} (hframes : ∀ event ∈ events, IsFrame event) :
    Canonical (run foldActivityEvent state events) ∧
      ∀ rowId, (run foldActivityEvent state events).item rowId =
        offerKeptAll RowItem.rank (recordable rowId) (state.item rowId)
          (events.flatMap (frameItems rowId)) := by
  induction events generalizing state with
  | nil => exact ⟨h, fun _ => rfl⟩
  | cons event events ih =>
      obtain ⟨hstep, hitems⟩ := h.foldFrame event
      obtain ⟨hend, hrest⟩ := ih hstep fun other hother =>
        hframes other (List.mem_cons_of_mem _ hother)
      rw [run_cons, foldActivityEvent_frame (hframes event List.mem_cons_self)]
      refine ⟨hend, fun rowId => ?_⟩
      rw [hrest, hitems, List.flatMap_cons, offerKeptAll_append]

end Raft.Activity
