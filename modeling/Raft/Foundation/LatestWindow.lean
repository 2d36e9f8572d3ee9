import Mathlib.Data.Finset.Card
import Mathlib.Data.List.Sort

/-!
# The latest keys of a stream

A window keeps the greatest keys of a stream in ascending order, up to a
capacity.  Its content depends on the set of keys seen only, so two windows
agree exactly when the greater stream's latest keys are in the smaller one.
-/

namespace Raft.Foundation

universe u

variable {κ : Type u} [LinearOrder κ] {capacity : Nat} {seen window : List κ}

def keepLast {α : Type u} (capacity : Nat) (items : List α) : List α :=
  items.drop (items.length - capacity)

theorem length_keepLast {α : Type u} (capacity : Nat) (items : List α) :
    (keepLast capacity items).length = min capacity items.length := by
  rw [keepLast, List.length_drop]
  omega

theorem map_keepLast {α β : Type u} (f : α → β) (capacity : Nat) (items : List α) :
    (keepLast capacity items).map f = keepLast capacity (items.map f) := by
  rw [keepLast, keepLast, List.map_drop, List.length_map]

theorem keepLast_eq_self {α : Type u} {capacity : Nat} {items : List α}
    (h : items.length ≤ capacity) :
    keepLast capacity items = items := by
  rw [keepLast, Nat.sub_eq_zero_of_le h, List.drop_zero]

/-- The key goes to its place, once, and the least key goes if there are too many. -/
def insertLatest (capacity : Nat) (window : List κ) (key : κ) : List κ :=
  keepLast capacity ((window.filter (· ≠ key) ++ [key]).insertionSort (· ≤ ·))

structure IsLatest (capacity : Nat) (seen window : List κ) : Prop where
  sorted : window.Pairwise (· < ·)
  length_le : window.length ≤ capacity
  arrived : ∀ key ∈ window, key ∈ seen
  latest : ∀ key ∈ seen, key ∈ window ∨ window.length = capacity ∧ ∀ kept ∈ window, key < kept

theorem isLatest_nil : IsLatest capacity ([] : List κ) [] where
  sorted := .nil
  length_le := Nat.zero_le _
  arrived _ h := h
  latest _ h := absurd h List.not_mem_nil

theorem mem_keepLast {items : List κ} (hsorted : items.Pairwise (· < ·)) {key : κ}
    (hkey : key ∈ items) :
    key ∈ keepLast capacity items ∨
      (keepLast capacity items).length = capacity ∧
        ∀ kept ∈ keepLast capacity items, key < kept := by
  have hsplit := List.take_append_drop (items.length - capacity) items
  rw [← hsplit] at hkey hsorted
  rcases List.mem_append.mp hkey with hdropped | hkept
  · refine .inr ⟨?_, fun kept hkept =>
      (List.pairwise_append.mp hsorted).2.2 key hdropped kept hkept⟩
    have hlength := List.length_pos_of_mem hdropped
    rw [List.length_take] at hlength
    rw [length_keepLast]
    omega
  · exact .inl hkept

theorem pairwise_insert (hsorted : window.Pairwise (· < ·)) (key : κ) :
    ((window.filter (· ≠ key) ++ [key]).insertionSort (· ≤ ·)).Pairwise (· < ·) := by
  have hnodup : (window.filter (· ≠ key) ++ [key]).Nodup := by
    rw [List.nodup_append]
    refine ⟨(hsorted.imp ne_of_lt).filter _, List.nodup_singleton key, ?_⟩
    rintro first hfirst second hsecond rfl
    simp_all
  have hperm := List.perm_insertionSort (· ≤ ·) (window.filter (· ≠ key) ++ [key])
  have hle := List.pairwise_insertionSort (· ≤ ·) (window.filter (· ≠ key) ++ [key])
  exact (hle.and (hperm.nodup_iff.mpr hnodup)).imp fun h => lt_of_le_of_ne h.1 h.2

theorem IsLatest.insert (h : IsLatest capacity seen window) (key : κ) :
    IsLatest capacity (seen ++ [key]) (insertLatest capacity window key) := by
  have hsorted := pairwise_insert h.sorted key
  have hmem : ∀ other, other ∈ (window.filter (· ≠ key) ++ [key]).insertionSort (· ≤ ·) ↔
      other ∈ window ∨ other = key := by
    intro other
    rw [List.mem_insertionSort]
    by_cases heq : other = key <;> simp [heq]
  have hlength : window.length ≤
      ((window.filter (· ≠ key) ++ [key]).insertionSort (· ≤ ·)).length := by
    have hsubset : window ⊆ (window.filter (· ≠ key) ++ [key]).insertionSort (· ≤ ·) :=
      fun other hother => (hmem other).mpr (.inl hother)
    exact (List.subperm_of_subset (h.sorted.imp ne_of_lt) hsubset).length_le
  refine ⟨hsorted.sublist (List.drop_sublist _ _), ?_, fun other hother => ?_,
    fun other hother => ?_⟩
  · rw [insertLatest, length_keepLast]
    exact min_le_left _ _
  · rcases (hmem other).mp ((List.drop_sublist _ _).subset hother) with hold | rfl
    · exact List.mem_append_left _ (h.arrived other hold)
    · exact List.mem_append_right _ List.mem_cons_self
  · by_cases hin : other ∈ window ∨ other = key
    · exact mem_keepLast hsorted ((hmem other).mpr hin)
    · rw [not_or] at hin
      have hold : other ∈ seen := by simpa [hin.2] using hother
      obtain ⟨hfull, hbelow⟩ := (h.latest other hold).resolve_left hin.1
      refine .inr ⟨?_, fun kept hkept => ?_⟩
      · rw [insertLatest, length_keepLast]
        omega
      · rcases (hmem kept).mp ((List.drop_sublist _ _).subset hkept) with hwas | rfl
        · exact hbelow kept hwas
        · -- The key is kept only in place of a lesser one, which the other is below.
          by_cases hwas : kept ∈ window
          · exact hbelow kept hwas
          have hmore : capacity <
              ((window.filter (· ≠ kept) ++ [kept]).insertionSort (· ≤ ·)).length := by
            rw [List.length_insertionSort, List.length_append, List.length_singleton,
              List.filter_eq_self.mpr fun old hold => by
                simp only [decide_eq_true_eq]
                rintro rfl
                exact hwas hold]
            omega
          have hdropped : 0 < ((window.filter (· ≠ kept) ++ [kept]).insertionSort
              (· ≤ ·)).length - capacity := by omega
          obtain ⟨least, hleast⟩ : ∃ least, least ∈
              ((window.filter (· ≠ kept) ++ [kept]).insertionSort (· ≤ ·)).take
                (((window.filter (· ≠ kept) ++ [kept]).insertionSort (· ≤ ·)).length -
                  capacity) := by
            refine List.exists_mem_of_length_pos ?_
            rw [List.length_take]
            omega
          rw [← List.take_append_drop (((window.filter (· ≠ kept) ++ [kept]).insertionSort
            (· ≤ ·)).length - capacity) ((window.filter (· ≠ kept) ++ [kept]).insertionSort
            (· ≤ ·))] at hsorted
          have hlt := (List.pairwise_append.mp hsorted).2.2 least hleast kept hkept
          have hleastIn : least ∈ window :=
            ((hmem least).mp (List.mem_of_mem_take hleast)).resolve_right hlt.ne
          exact (hbelow least hleastIn).trans hlt

/-! ## What the window depends on -/

def greaterCount (seen : List κ) (key : κ) : Nat := (seen.toFinset.filter (key < ·)).card

theorem IsLatest.mem_iff (h : IsLatest capacity seen window) {key : κ} :
    key ∈ window ↔ key ∈ seen ∧ greaterCount seen key < capacity := by
  have hcard : window.toFinset.card = window.length :=
    List.toFinset_card_of_nodup (h.sorted.imp ne_of_lt)
  constructor
  · intro hkey
    refine ⟨h.arrived key hkey, ?_⟩
    have hsubset : seen.toFinset.filter (key < ·) ⊆ window.toFinset.erase key := by
      intro other hother
      rw [Finset.mem_filter, List.mem_toFinset] at hother
      rw [Finset.mem_erase, List.mem_toFinset]
      refine ⟨hother.2.ne', (h.latest other hother.1).resolve_right fun hbelow => ?_⟩
      exact (hbelow.2 key hkey).asymm hother.2
    have hle := Finset.card_le_card hsubset
    rw [Finset.card_erase_of_mem (List.mem_toFinset.mpr hkey), hcard] at hle
    have hpos := List.length_pos_of_mem hkey
    have hcapacity := h.length_le
    rw [greaterCount]
    omega
  · rintro ⟨hseen, hcount⟩
    refine (h.latest key hseen).resolve_right fun ⟨hfull, hbelow⟩ => ?_
    have hsubset : window.toFinset ⊆ seen.toFinset.filter (key < ·) := by
      intro kept hkept
      rw [List.mem_toFinset] at hkept
      rw [Finset.mem_filter, List.mem_toFinset]
      exact ⟨h.arrived kept hkept, hbelow kept hkept⟩
    have hle := Finset.card_le_card hsubset
    rw [hcard, hfull] at hle
    exact absurd hcount (Nat.not_lt.mpr hle)

theorem IsLatest.eq_iff {fewer less : List κ} (h : IsLatest capacity seen window)
    (hfewer : IsLatest capacity fewer less) (hsubset : fewer ⊆ seen) :
    less = window ↔ ∀ key ∈ seen, greaterCount seen key < capacity → key ∈ fewer := by
  constructor
  · rintro rfl key hkey hcount
    exact hfewer.arrived key (h.mem_iff.mpr ⟨hkey, hcount⟩)
  · intro hlatest
    have hgreater : ∀ key, greaterCount fewer key ≤ greaterCount seen key := fun key =>
      Finset.card_le_card (Finset.filter_subset_filter _ fun other hother =>
        List.mem_toFinset.mpr (hsubset (List.mem_toFinset.mp hother)))
    refine List.Pairwise.eq_of_mem_iff hfewer.sorted h.sorted fun key => ?_
    rw [hfewer.mem_iff]
    constructor
    · rintro ⟨hkey, hcount⟩
      refine (h.latest key (hsubset hkey)).resolve_right fun ⟨hfull, hbelow⟩ => ?_
      have hless : window.toFinset ⊆ fewer.toFinset.filter (key < ·) := by
        intro kept hkept
        rw [List.mem_toFinset] at hkept
        obtain ⟨hseen, hkeptCount⟩ := h.mem_iff.mp hkept
        rw [Finset.mem_filter, List.mem_toFinset]
        exact ⟨hlatest kept hseen hkeptCount, hbelow kept hkept⟩
      have hle := Finset.card_le_card hless
      rw [List.toFinset_card_of_nodup (h.sorted.imp ne_of_lt), hfull] at hle
      exact absurd hcount (Nat.not_lt.mpr hle)
    · intro hkey
      obtain ⟨hseen, hcount⟩ := h.mem_iff.mp hkey
      exact ⟨hlatest key hseen hcount, (hgreater key).trans_lt hcount⟩

/-! ## Windows of a stable sort -/

section StableSort

variable {α : Type u} {r : α → α → Prop} [DecidableRel r]

theorem getLast?_filter_keepLast {p : α → Bool} {items : List α}
    (h : (keepLast capacity items).filter p ≠ []) :
    ((keepLast capacity items).filter p).getLast? = (items.filter p).getLast? := by
  conv_rhs => rw [← List.take_append_drop (items.length - capacity) items, List.filter_append]
  rw [List.getLast?_append, ← keepLast, Option.or_of_isSome]
  rw [List.getLast?_isSome]
  exact h

/-- The first item goes when enough items come after it that do not sort before it. -/
theorem notMem_keepLast_insertionSort_cons {item : α} {items : List α}
    (habove : ∀ other ∈ items, r item other) (hfull : capacity ≤ items.length)
    (hitem : item ∉ items) : item ∉ keepLast capacity ((item :: items).insertionSort r) := by
  rw [List.insertionSort_cons_of_forall_rel r habove, keepLast, List.length_cons,
    List.length_insertionSort, Nat.succ_sub hfull, List.drop_succ_cons]
  intro hmem
  exact hitem ((List.mem_insertionSort r).mp (List.mem_of_mem_drop hmem))

variable [IsTrans α r]

theorem filter_insertionSort (item : α) (items : List α) :
    (items.insertionSort r).filter (fun other => r item other && r other item) =
      items.filter fun other => r item other && r other item := by
  have hties : (items.filter fun other => r item other && r other item).Pairwise r := by
    rw [List.pairwise_iff_forall_sublist]
    intro first second hsublist
    have hfirst := List.of_mem_filter (hsublist.subset (List.mem_cons_self ..))
    have hsecond := List.of_mem_filter
      (hsublist.subset (List.mem_cons_of_mem _ (List.mem_cons_self ..)))
    simp only [Bool.and_eq_true, decide_eq_true_eq] at hfirst hsecond
    exact IsTrans.trans _ _ _ hfirst.2 hsecond.1
  have hsublist := List.sublist_insertionSort hties List.filter_sublist
  have hperm := (List.perm_insertionSort r items).filter fun other => r item other && r other item
  have hfilter := hsublist.filter fun other => r item other && r other item
  rw [List.filter_filter] at hfilter
  simp only [Bool.and_self] at hfilter
  exact (hfilter.eq_of_length hperm.length_eq.symm).symm

variable [Std.Total r]

/-- An item stays when there is room for all items that do not sort before it. -/
theorem mem_keepLast_insertionSort {items : List α} {item : α} (hitem : item ∈ items)
    (hroom : items.countP (r item ·) ≤ capacity) :
    item ∈ keepLast capacity (items.insertionSort r) := by
  have hsorted := List.pairwise_insertionSort r items
  have hcount := (List.perm_insertionSort r items).countP_eq (r item ·)
  have hmem := (List.mem_insertionSort r).mpr hitem
  have hsplit := List.take_append_drop ((items.insertionSort r).length - capacity)
    (items.insertionSort r)
  rw [← hsplit] at hmem hsorted hcount
  obtain hdropped | hkept := List.mem_append.mp hmem
  · have habove : ∀ kept ∈ keepLast capacity (items.insertionSort r), r item kept :=
      fun kept hkept => (List.pairwise_append.mp hsorted).2.2 item hdropped kept hkept
    have hfirst : 0 < ((items.insertionSort r).take
        ((items.insertionSort r).length - capacity)).countP (r item ·) :=
      List.countP_pos_iff.mpr ⟨item, hdropped, by simp [(Std.Total.total item item).elim id id]⟩
    have hlast : (keepLast capacity (items.insertionSort r)).countP (r item ·) =
        (keepLast capacity (items.insertionSort r)).length :=
      List.countP_eq_length.mpr fun kept hkept => by simpa using habove kept hkept
    have hlength := List.length_pos_of_mem hdropped
    rw [List.length_take] at hlength
    rw [length_keepLast] at hlast
    rw [List.countP_append, ← keepLast, hlast] at hcount
    omega
  · exact hkept

end StableSort

end Raft.Foundation
