import Mathlib.Algebra.Order.BigOperators.Group.List
import Raft.Foundation.Run
import Raft.InboxEvents.Reducer

/-!
# Rows and totals of the inbox

The two totals never fall below what the rows account for, so no clamp at zero
hides a difference: every event is idempotent, and the reported change of the
unread total is the change itself.
-/

namespace Raft.InboxEvents

open Raft.Foundation

variable {ρ : Type}

structure Consistent (state : InboxDomainState ρ) : Prop where
  distinct : DistinctKeys getInboxItemKey state.items
  nonneg : ∀ item ∈ state.items, 0 ≤ item.unreadCount
  rows_le : (state.items.length : Int) ≤ state.totalCount
  unread_le : unreadSum state.items ≤ state.totalUnreadCount

/-- Totals that the server sends are not below those of the window they come with. -/
structure CoversWindow (merged : List (InboxItem ρ)) (totalCount totalUnreadCount : Option Int) :
    Prop where
  rows_le : ∀ total ∈ totalCount, (merged.length : Int) ≤ total
  unread_le : ∀ total ∈ totalUnreadCount, unreadSum merged ≤ total

def SoundItems (items : List (InboxItem ρ)) : Prop := ∀ item ∈ items, 0 ≤ item.unreadCount

/-- The events the transport layer may send. -/
def Sound (state : InboxDomainState ρ) : InboxEvent ρ → Prop
  | .hydrate filter reset items _ totalCount totalUnreadCount =>
      SoundItems items ∧
        (filter = state.filter →
          CoversWindow (mergedWindow state reset items) totalCount totalUnreadCount)
  | .reconcile filter items _ totalCount totalUnreadCount =>
      SoundItems items ∧
        (filter = state.filter → CoversWindow (dedupeByKey items) totalCount totalUnreadCount)
  | .patch (.item_upsert item marker) => 0 ≤ item.unreadCount ∧ marker = inboxItemMarker item
  | .patch _ => True
  | .filter _ => True

def inboxStep (state : InboxDomainState ρ) (event : InboxEvent ρ) : InboxDomainState ρ :=
  (applyInboxEvent state event).state

def inboxDelta (state : InboxDomainState ρ) (event : InboxEvent ρ) : Int :=
  (applyInboxEvent state event).transition.totalUnreadDelta

/-! ## Windows -/

theorem unreadSum_nonneg {items : List (InboxItem ρ)} (h : SoundItems items) :
    0 ≤ unreadSum items := by
  refine List.sum_nonneg fun unread hunread => ?_
  obtain ⟨item, hitem, rfl⟩ := List.mem_map.mp hunread
  exact h item hitem

theorem SoundItems.dedupeByKey {items : List (InboxItem ρ)} (h : SoundItems items) :
    SoundItems (dedupeByKey items) :=
  fun item hitem => h item (mem_of_mem_firstRows hitem).1

theorem Consistent.soundItems_mergedWindow {state : InboxDomainState ρ} (h : Consistent state)
    (reset : Bool)
    {items : List (InboxItem ρ)} (hitems : SoundItems items) :
    SoundItems (mergedWindow state reset items) := by
  refine SoundItems.dedupeByKey ?_
  cases reset with
  | true => exact hitems
  | false =>
      intro item hitem
      obtain hitem | hitem := List.mem_append.mp hitem
      · exact h.nonneg item hitem
      · exact hitems item hitem

theorem serverTotalCount_ge {merged : List (InboxItem ρ)} {totalCount totalUnreadCount : Option Int}
    (h : CoversWindow merged totalCount totalUnreadCount) :
    (merged.length : Int) ≤ serverTotalCount merged totalCount := by
  cases totalCount with
  | none => exact le_refl _
  | some total => exact (h.rows_le total rfl).trans (le_max_right 0 total)

theorem serverTotalUnreadCount_ge {merged : List (InboxItem ρ)}
    {totalCount totalUnreadCount : Option Int}
    (h : CoversWindow merged totalCount totalUnreadCount) :
    unreadSum merged ≤ serverTotalUnreadCount merged totalUnreadCount := by
  cases totalUnreadCount with
  | none => exact le_refl _
  | some total => exact (h.unread_le total rfl).trans (le_max_right 0 total)

theorem consistent_withServerTotals (state : InboxDomainState ρ) {merged : List (InboxItem ρ)}
    (hmore : Bool) {totalCount totalUnreadCount : Option Int}
    (hdistinct : DistinctKeys getInboxItemKey merged) (hnonneg : SoundItems merged)
    (h : CoversWindow merged totalCount totalUnreadCount) :
    Consistent (withServerTotals state merged hmore totalCount totalUnreadCount) :=
  ⟨hdistinct, hnonneg, serverTotalCount_ge h, serverTotalUnreadCount_ge h⟩

theorem dedupeByKey_append_again (items page : List (InboxItem ρ)) :
    dedupeByKey (dedupeByKey (items ++ page) ++ page) = dedupeByKey (items ++ page) := by
  refine firstRows_append_of_seen (distinctKeys_firstRows [] _) (fun _ _ => List.not_mem_nil) ?_
  intro row hrow
  exact key_mem_firstRows (List.mem_append_right items hrow)

/-! ## One row -/

@[simp] theorem getInboxItemKey_markItemRead (item : InboxItem ρ) :
    getInboxItemKey (markItemRead item) = getInboxItemKey item := by
  rw [markItemRead]
  split <;> rfl

@[simp] theorem markItemRead_unreadCount (item : InboxItem ρ) :
    (markItemRead item).unreadCount = 0 := by
  rw [markItemRead]
  split
  · next h => exact h.1
  · rfl

section

variable {state : InboxDomainState ρ} {key : JsString} {target : InboxItem ρ}

theorem Consistent.sum_withoutKey (h : Consistent state)
    (htarget : findItem state key = some target) :
    unreadSum (withoutKey state.items key) = unreadSum state.items - target.unreadCount := by
  have hsum := totalWeight_otherRows (fun item => item.unreadCount) h.distinct htarget
  rw [unreadSum, unreadSum, withoutKey, hsum]
  omega

theorem Consistent.length_withoutKey (h : Consistent state)
    (htarget : findItem state key = some target) :
    ((withoutKey state.items key).length : Int) = state.items.length - 1 := by
  have hlength := length_otherRows h.distinct htarget
  rw [withoutKey]
  omega

theorem Consistent.sum_markRead (h : Consistent state)
    (htarget : findItem state key = some target) :
    unreadSum (updateRow getInboxItemKey key markItemRead state.items) =
      unreadSum state.items - target.unreadCount := by
  have hsum := totalWeight_updateRow (fun item => item.unreadCount) markItemRead h.distinct htarget
  rw [← h.sum_withoutKey htarget, unreadSum, hsum, markItemRead_unreadCount, zero_add]
  rfl

theorem Consistent.unread_target (h : Consistent state)
    (htarget : findItem state key = some target) :
    target.unreadCount ≤ state.totalUnreadCount := by
  have hrest : 0 ≤ unreadSum (withoutKey state.items key) :=
    unreadSum_nonneg fun item hitem => h.nonneg item (List.mem_filter.mp hitem).1
  have hsum := h.sum_withoutKey htarget
  have htotal := h.unread_le
  omega

theorem findItem_withoutKey (items : List (InboxItem ρ)) :
    findRow getInboxItemKey key (withoutKey items key) = none := by
  refine findRow_eq_none.mpr fun item hitem => ?_
  simpa using (List.mem_filter.mp hitem).2

end

theorem existingIndex_spec {items : List (InboxItem ρ)} {item : InboxItem ρ} {index : Nat}
    (h : items.findIdx? (fun other => getInboxItemKey other = getInboxItemKey item) = some index) :
    ∃ hindex : index < items.length, getInboxItemKey item = getInboxItemKey items[index] := by
  obtain ⟨hindex, hkey, -⟩ := List.findIdx?_eq_some_iff_getElem.mp h
  exact ⟨hindex, by simpa using Eq.symm (of_decide_eq_true hkey)⟩

theorem unreadSum_set {items : List (InboxItem ρ)} {index : Nat} (hindex : index < items.length)
    (item : InboxItem ρ) :
    unreadSum (items.set index item) =
      unreadSum items + (item.unreadCount - items[index].unreadCount) := by
  rw [unreadSum, unreadSum, totalWeight, totalWeight, List.map_set, List.sum_set',
    dif_pos (by simpa using hindex), List.getElem_map]
  omega

/-! ## Upserts -/

theorem applyUpsert_cases (state : InboxDomainState ρ) (item : InboxItem ρ) (marker : JsString) :
    ((applyUpsert state item marker).state = state ∧
        (applyUpsert state item marker).transition.totalUnreadDelta = 0) ∨
      (∃ index, ∃ hindex : index < state.items.length,
        state.items.findIdx? (fun other => getInboxItemKey other = getInboxItemKey item) =
            some index ∧
          inboxItemMarker state.items[index] ≠ marker ∧
          applyUpsert state item marker =
            ⟨{ state with
                items := state.items.set index item
                totalUnreadCount := max 0
                  (state.totalUnreadCount + (item.unreadCount - state.items[index].unreadCount)) },
              ⟨.patch_item_upsert, 1, item.unreadCount - state.items[index].unreadCount, false⟩⟩) ∨
      (findItem state (getInboxItemKey item) = none ∧
        applyUpsert state item marker =
          ⟨{ state with
              items := item :: state.items
              totalCount := state.totalCount + 1
              totalUnreadCount := max 0 (state.totalUnreadCount + item.unreadCount) },
            ⟨.patch_item_upsert, 1, item.unreadCount, false⟩⟩) := by
  unfold applyUpsert
  split
  · next index hfound =>
      obtain ⟨hindex, -⟩ := existingIndex_spec hfound
      rw [List.getElem?_eq_getElem hindex]
      dsimp only
      split
      · exact .inl ⟨rfl, rfl⟩
      · next hmarker => exact .inr (.inl ⟨index, hindex, hfound, hmarker, rfl⟩)
  · next hmissing =>
      split
      · exact .inl ⟨rfl, rfl⟩
      · refine .inr (.inr ⟨findRow_eq_none.mpr fun other hother => ?_, rfl⟩)
        simpa using List.findIdx?_eq_none_iff.mp hmissing other hother

theorem Consistent.unread_index {state : InboxDomainState ρ} (h : Consistent state) {index : Nat}
    (hindex : index < state.items.length) :
    state.items[index].unreadCount ≤ state.totalUnreadCount := by
  have hmem := List.getElem_mem hindex
  exact h.unread_target (findRow_of_mem h.distinct hmem)

theorem Consistent.upsert {state : InboxDomainState ρ} (h : Consistent state) {item : InboxItem ρ}
    (hitem : 0 ≤ item.unreadCount) (marker : JsString) :
    Consistent (applyUpsert state item marker).state ∧
      (applyUpsert state item marker).state.totalUnreadCount =
        state.totalUnreadCount + (applyUpsert state item marker).transition.totalUnreadDelta := by
  obtain ⟨hsame, hdelta⟩ | ⟨index, hindex, hfound, -, heq⟩ | ⟨hmissing, heq⟩ :=
    applyUpsert_cases state item marker
  · rw [hsame, hdelta, add_zero]
    exact ⟨h, rfl⟩
  · obtain ⟨hindex', hkey⟩ := existingIndex_spec hfound
    have hprevious := h.unread_index hindex
    have htotal := h.unread_le
    have hexact : max 0 (state.totalUnreadCount +
        (item.unreadCount - state.items[index].unreadCount)) =
          state.totalUnreadCount + (item.unreadCount - state.items[index].unreadCount) := by
      omega
    rw [heq]
    refine ⟨⟨h.distinct.set hindex hkey, ?_, ?_, ?_⟩, hexact⟩
    · intro other hother
      obtain hother | rfl := List.mem_or_eq_of_mem_set hother
      · exact h.nonneg other hother
      · exact hitem
    · simpa using h.rows_le
    · change unreadSum (state.items.set index item) ≤ max 0 _
      rw [hexact, unreadSum_set hindex]
      omega
  · have hsum := unreadSum_nonneg h.nonneg
    have htotal := h.unread_le
    have hexact : max 0 (state.totalUnreadCount + item.unreadCount) =
        state.totalUnreadCount + item.unreadCount := by
      omega
    rw [heq]
    refine ⟨⟨?_, ?_, ?_, ?_⟩, hexact⟩
    · refine List.nodup_cons.mpr ⟨?_, h.distinct⟩
      simpa [findItem, findRow_eq_none] using hmissing
    · intro other hother
      obtain rfl | hother := List.mem_cons.mp hother
      · exact hitem
      · exact h.nonneg other hother
    · have hrows := h.rows_le
      change ((item :: state.items).length : Int) ≤ state.totalCount + 1
      rw [List.length_cons]
      omega
    · change item.unreadCount + unreadSum state.items ≤ max 0 _
      omega

theorem Consistent.upsert_present {state : InboxDomainState ρ} (h : Consistent state)
    {item : InboxItem ρ} (hitem : item ∈ state.items) :
    (applyUpsert state item (inboxItemMarker item)).state = state := by
  obtain ⟨hsame, -⟩ | ⟨index, hindex, hfound, hmarker, -⟩ | ⟨hmissing, -⟩ :=
    applyUpsert_cases state item (inboxItemMarker item)
  · exact hsame
  · obtain ⟨_, hkey⟩ := existingIndex_spec hfound
    have hrow : item = state.items[index] :=
      h.distinct.eq_of_key hitem (List.getElem_mem hindex) hkey
    exact absurd (congrArg inboxItemMarker hrow.symm) hmarker
  · exact absurd rfl (findRow_eq_none.mp hmissing item hitem)

theorem Consistent.upsert_again {state : InboxDomainState ρ} (h : Consistent state)
    {item : InboxItem ρ} (hitem : 0 ≤ item.unreadCount) :
    (applyUpsert (applyUpsert state item (inboxItemMarker item)).state item
        (inboxItemMarker item)).state =
      (applyUpsert state item (inboxItemMarker item)).state := by
  have hnext := (h.upsert hitem (inboxItemMarker item)).1
  obtain ⟨hsame, -⟩ | ⟨index, hindex, -, -, heq⟩ | ⟨-, heq⟩ :=
    applyUpsert_cases state item (inboxItemMarker item)
  · rw [hsame, hsame]
  · refine hnext.upsert_present ?_
    rw [heq]
    exact List.mem_set hindex item
  · refine hnext.upsert_present ?_
    rw [heq]
    exact List.mem_cons_self

/-! ## Reading and finishing rows -/

theorem Consistent.itemRead {state : InboxDomainState ρ} (h : Consistent state)
    (itemKey : JsString) :
    Consistent (applyItemRead state itemKey).state ∧
      (applyItemRead state itemKey).state.totalUnreadCount =
        state.totalUnreadCount + (applyItemRead state itemKey).transition.totalUnreadDelta := by
  unfold applyItemRead
  split
  · exact ⟨h, (add_zero _).symm⟩
  · next target htarget =>
      split
      · exact ⟨h, (add_zero _).symm⟩
      · have hunread := h.unread_target htarget
        have hexact : max 0 (state.totalUnreadCount + -target.unreadCount) =
            state.totalUnreadCount + -target.unreadCount := by
          omega
        have hrows := h.rows_le
        have htotal := h.unread_le
        refine ⟨?_, hexact⟩
        cases isUnreadInboxFilter state.filter with
        | true =>
            refine ⟨h.distinct.filter _, fun item hitem =>
              h.nonneg item (List.mem_filter.mp hitem).1, ?_, ?_⟩
            · change ((withoutKey state.items itemKey).length : Int) ≤ max 0 _
              rw [h.length_withoutKey htarget]
              omega
            · change unreadSum (withoutKey state.items itemKey) ≤ max 0 _
              rw [h.sum_withoutKey htarget]
              omega
        | false =>
            refine ⟨h.distinct.updateRow fun row hrow => by simpa using hrow, ?_, ?_, ?_⟩
            · intro item hitem
              obtain ⟨row, hrow, rfl⟩ := List.mem_map.mp hitem
              split
              · simp
              · exact h.nonneg row hrow
            · change ((updateRow _ _ _ state.items).length : Int) ≤ _
              rw [updateRow, List.length_map]
              exact hrows
            · change unreadSum (updateRow getInboxItemKey itemKey markItemRead state.items) ≤
                max 0 _
              rw [h.sum_markRead htarget]
              omega

theorem Consistent.allRead {state : InboxDomainState ρ} (h : Consistent state) :
    Consistent (applyAllRead state).state ∧
      (applyAllRead state).state.totalUnreadCount =
        state.totalUnreadCount + (applyAllRead state).transition.totalUnreadDelta := by
  unfold applyAllRead
  split
  · exact ⟨h, (add_zero _).symm⟩
  · refine ⟨?_, (add_neg_cancel _).symm⟩
    cases isUnreadInboxFilter state.filter with
    | true => exact ⟨List.nodup_nil, nofun, le_refl _, le_refl _⟩
    | false =>
        refine ⟨?_, ?_, ?_, ?_⟩
        · have hkeys : (state.items.map markItemRead).map getInboxItemKey =
              state.items.map getInboxItemKey := by
            simp [Function.comp_def]
          change ((state.items.map markItemRead).map getInboxItemKey).Nodup
          rw [hkeys]
          exact h.distinct
        · intro item hitem
          obtain ⟨row, -, rfl⟩ := List.mem_map.mp hitem
          simp
        · simpa using h.rows_le
        · change unreadSum (state.items.map markItemRead) ≤ 0
          simp [unreadSum, totalWeight, Function.comp_def]

theorem Consistent.itemDone {state : InboxDomainState ρ} (h : Consistent state)
    (itemKey : JsString) :
    Consistent (applyItemDone state itemKey).state ∧
      (applyItemDone state itemKey).state.totalUnreadCount =
        state.totalUnreadCount + (applyItemDone state itemKey).transition.totalUnreadDelta := by
  unfold applyItemDone
  split
  · exact ⟨h, (add_zero _).symm⟩
  · next target htarget =>
      have hunread := h.unread_target htarget
      have hrows := h.rows_le
      have htotal := h.unread_le
      have hexact : max 0 (state.totalUnreadCount - target.unreadCount) =
          state.totalUnreadCount + -target.unreadCount := by
        omega
      refine ⟨⟨h.distinct.filter _, fun item hitem => h.nonneg item (List.mem_filter.mp hitem).1,
        ?_, ?_⟩, hexact⟩
      · change ((withoutKey state.items itemKey).length : Int) ≤ max 0 _
        rw [h.length_withoutKey htarget]
        omega
      · change unreadSum (withoutKey state.items itemKey) ≤ max 0 _
        rw [h.sum_withoutKey htarget]
        omega

theorem itemRead_again (state : InboxDomainState ρ) (itemKey : JsString) :
    (applyItemRead (applyItemRead state itemKey).state itemKey).state =
      (applyItemRead state itemKey).state := by
  rw [applyItemRead.eq_def state]
  split
  · next hmissing => simp [noop, applyItemRead, hmissing]
  · next target htarget =>
      split
      · next hread => simp [noop, applyItemRead, htarget, hread]
      · cases hfilter : isUnreadInboxFilter state.filter with
        | true =>
            have hgone : findRow getInboxItemKey itemKey (withoutKey state.items itemKey) = none :=
              findItem_withoutKey state.items
            simp [applyItemRead, findItem, hgone, noop]
        | false =>
            have hread : findRow getInboxItemKey itemKey
                (updateRow getInboxItemKey itemKey markItemRead state.items) =
                  some (markItemRead target) := by
              rw [findRow_updateRow itemKey fun row hrow => by simpa using hrow, if_pos rfl]
              exact congrArg (Option.map markItemRead) htarget
            simp [applyItemRead, findItem, hread, noop]

theorem allRead_again (state : InboxDomainState ρ) :
    (applyAllRead (applyAllRead state).state).state = (applyAllRead state).state := by
  rw [applyAllRead.eq_def state]
  split
  · next hzero => rw [noop, applyAllRead, if_pos hzero, noop]
  · rw [applyAllRead, if_pos rfl, noop]

theorem itemDone_again (state : InboxDomainState ρ) (itemKey : JsString) :
    (applyItemDone (applyItemDone state itemKey).state itemKey).state =
      (applyItemDone state itemKey).state := by
  rw [applyItemDone.eq_def state]
  split
  · next hmissing => simp [noop, applyItemDone, hmissing]
  · have hgone : findRow getInboxItemKey itemKey (withoutKey state.items itemKey) = none :=
      findItem_withoutKey state.items
    simp [applyItemDone, findItem, hgone, noop]

/-! ## Every event -/

theorem Consistent.step {state : InboxDomainState ρ} (h : Consistent state) {event : InboxEvent ρ}
    (hevent : Sound state event) :
    Consistent (inboxStep state event) ∧
      (inboxStep state event).totalUnreadCount =
        state.totalUnreadCount + inboxDelta state event := by
  cases event with
  | hydrate filter reset items hasMore totalCount totalUnreadCount =>
      simp only [inboxStep, inboxDelta, applyInboxEvent]
      split
      · exact ⟨h, (add_zero _).symm⟩
      · next hfilter =>
          refine ⟨consistent_withServerTotals state hasMore (distinctKeys_firstRows [] _)
            (h.soundItems_mergedWindow reset hevent.1) (hevent.2 (not_not.mp hfilter)), ?_⟩
          exact (add_sub_cancel _ _).symm
  | patch patch =>
      cases patch with
      | item_upsert item marker => exact h.upsert hevent.1 marker
      | item_read itemKey => exact h.itemRead itemKey
      | all_read => exact h.allRead
      | item_done itemKey => exact h.itemDone itemKey
  | reconcile filter items hasMore totalCount totalUnreadCount =>
      simp only [inboxStep, inboxDelta, applyInboxEvent]
      split
      · exact ⟨h, (add_zero _).symm⟩
      · next hfilter =>
          refine ⟨consistent_withServerTotals state hasMore (distinctKeys_firstRows [] _)
            hevent.1.dedupeByKey (hevent.2 (not_not.mp hfilter)), ?_⟩
          exact (add_sub_cancel _ _).symm
  | filter filter =>
      simp only [inboxStep, inboxDelta, applyInboxEvent]
      split
      · exact ⟨h, (add_zero _).symm⟩
      · exact ⟨⟨List.nodup_nil, nofun, le_refl _, le_refl _⟩, (add_neg_cancel _).symm⟩

theorem mergedWindow_again (state : InboxDomainState ρ) (reset : Bool) (items : List (InboxItem ρ))
    (hasMore : Bool) (totalCount totalUnreadCount : Option Int) :
    mergedWindow (withServerTotals state (mergedWindow state reset items) hasMore totalCount
      totalUnreadCount) reset items = mergedWindow state reset items := by
  cases reset with
  | true => rfl
  | false => exact dedupeByKey_append_again state.items items

theorem Consistent.step_again {state : InboxDomainState ρ} (h : Consistent state)
    {event : InboxEvent ρ} (hevent : Sound state event) :
    inboxStep (inboxStep state event) event = inboxStep state event := by
  cases event with
  | hydrate filter reset items hasMore totalCount totalUnreadCount =>
      by_cases hfilter : filter = state.filter
      · have hnext : inboxStep state
            (.hydrate filter reset items hasMore totalCount totalUnreadCount) =
              withServerTotals state (mergedWindow state reset items) hasMore totalCount
                totalUnreadCount := by
          simp [inboxStep, applyInboxEvent, hfilter]
        rw [hnext]
        have hsame : filter = (withServerTotals state (mergedWindow state reset items) hasMore
            totalCount totalUnreadCount).filter := hfilter
        simp only [inboxStep, applyInboxEvent, ne_eq, ← hsame, not_true, if_false,
          mergedWindow_again]
        rfl
      · simp [inboxStep, applyInboxEvent, hfilter, noop]
  | patch patch =>
      cases patch with
      | item_upsert item marker =>
          obtain ⟨hitem, rfl⟩ := hevent
          exact h.upsert_again hitem
      | item_read itemKey => exact itemRead_again state itemKey
      | all_read => exact allRead_again state
      | item_done itemKey => exact itemDone_again state itemKey
  | reconcile filter items hasMore totalCount totalUnreadCount =>
      by_cases hfilter : filter = state.filter
      · simp [inboxStep, applyInboxEvent, hfilter, withServerTotals]
      · simp [inboxStep, applyInboxEvent, hfilter, noop]
  | filter filter =>
      by_cases hfilter : filter = state.filter
      · simp [inboxStep, applyInboxEvent, hfilter, noop]
      · simp [inboxStep, applyInboxEvent, hfilter, noop]

theorem consistent_emptyInbox (filter : InboxFilter) (hasMore : Bool) :
    Consistent (emptyInbox filter hasMore : InboxDomainState ρ) :=
  ⟨List.nodup_nil, nofun, le_refl _, le_refl _⟩

theorem consistent_run {filter : InboxFilter} {hasMore : Bool} {events : List (InboxEvent ρ)}
    (h : Admitted inboxStep Sound (emptyInbox filter hasMore) events) :
    Consistent (run inboxStep (emptyInbox filter hasMore) events) :=
  h.invariant Consistent (fun _ _ hstate hevent => (hstate.step hevent).1)
    (consistent_emptyInbox filter hasMore)

/--
In every state that sound events lead to from the empty inbox, keys are unique and the totals
cover the rows; a further event does the same once as twice, and reports the change of the
unread total.
-/
theorem applyInboxEvent_idempotent_and_exact (filter : InboxFilter) (hasMore : Bool)
    (events : List (InboxEvent ρ))
    (hevents : Admitted inboxStep Sound (emptyInbox filter hasMore) events) :
    let state := run inboxStep (emptyInbox filter hasMore) events
    (state.items.map getInboxItemKey).Nodup ∧
      (state.items.length : Int) ≤ state.totalCount ∧
      (state.items.map (·.unreadCount)).sum ≤ state.totalUnreadCount ∧
      ∀ event, Sound state event →
        (applyInboxEvent (applyInboxEvent state event).state event).state =
            (applyInboxEvent state event).state ∧
          (applyInboxEvent state event).transition.totalUnreadDelta =
            (applyInboxEvent state event).state.totalUnreadCount - state.totalUnreadCount := by
  intro state
  have h : Consistent state := consistent_run hevents
  refine ⟨h.distinct, h.rows_le, h.unread_le, fun event hevent => ⟨h.step_again hevent, ?_⟩⟩
  have hdelta := (h.step hevent).2
  simp only [inboxStep, inboxDelta] at hdelta
  omega

section

private def general : InboxItem Unit := ⟨.channel (js "1") (js "m1"), 2, true, some (js "m1"), ()⟩

private def thread : InboxItem Unit := ⟨.thread (js "2") none 4, 3, false, some (js "m2"), ()⟩

private def pageEvents : List (InboxEvent Unit) :=
  [.hydrate .all true [general, general] true none (some 6),
    .patch (.item_upsert thread (js "2:4")),
    .patch (.item_read (js "channel:1"))]

/-- A page with a repeated row, then a new thread and a read channel. -/
theorem applyInboxEvent_idempotent_and_exact_page :
    let state := run inboxStep (emptyInbox .all true) pageEvents
    (state.items.map getInboxItemKey).Nodup ∧ (state.items.length : Int) ≤ state.totalCount ∧
      (state.items.map (·.unreadCount)).sum ≤ state.totalUnreadCount ∧
      (applyInboxEvent (applyInboxEvent state (.patch (.item_done (js "thread:2")))).state
        (.patch (.item_done (js "thread:2")))).state =
          (applyInboxEvent state (.patch (.item_done (js "thread:2")))).state ∧
      (applyInboxEvent state (.patch (.item_done (js "thread:2")))).transition.totalUnreadDelta =
        (applyInboxEvent state (.patch (.item_done (js "thread:2")))).state.totalUnreadCount -
          state.totalUnreadCount := by
  have hevents : Admitted inboxStep Sound (emptyInbox .all true) pageEvents := by
    refine ⟨⟨by simp [SoundItems, general], fun _ => ⟨by simp, ?_⟩⟩, ⟨by decide, by decide⟩,
      trivial,
      trivial⟩
    intro total htotal
    obtain rfl := Option.some_inj.mp htotal
    decide
  obtain ⟨hdistinct, hrows, hunread, hnext⟩ :=
    applyInboxEvent_idempotent_and_exact .all true pageEvents hevents
  exact ⟨hdistinct, hrows, hunread, hnext (.patch (.item_done (js "thread:2"))) trivial⟩

end

end Raft.InboxEvents
