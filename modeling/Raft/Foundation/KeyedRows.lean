import Mathlib.Algebra.BigOperators.Group.List.Basic
import Mathlib.Data.List.Nodup
import Mathlib.Data.List.Sort

/-!
# Rows with a primary key

A table as the list of its rows, read and updated by primary key.  When no two
rows share a key, an update moves at most one row between the classes that a
predicate counts.
-/

namespace Raft.Foundation

variable {κ α : Type*} [DecidableEq κ] (key : α → κ)

def DistinctKeys (rows : List α) : Prop := (rows.map key).Nodup

def findRow (k : κ) (rows : List α) : Option α := rows.find? fun row => key row = k

/-- `UPDATE … WHERE key = ?` -/
def updateRow (k : κ) (update : α → α) (rows : List α) : List α :=
  rows.map fun row => if key row = k then update row else row

variable {key} {k : κ} {update : α → α} {rows : List α} {row : α}

theorem findRow_mem (h : findRow key k rows = some row) : row ∈ rows := List.mem_of_find?_eq_some h

theorem findRow_key (h : findRow key k rows = some row) : key row = k := by
  simpa using List.find?_some h

theorem findRow_of_mem (hkeys : DistinctKeys key rows) (hmem : row ∈ rows) :
    findRow key (key row) rows = some row := by
  induction rows with
  | nil => cases hmem
  | cons head rows ih =>
      obtain ⟨hhead, hrest⟩ := List.nodup_cons.mp hkeys
      obtain rfl | hmem := List.mem_cons.mp hmem
      · simp [findRow]
      · have hne : key head ≠ key row := fun heq => hhead (heq ▸ List.mem_map_of_mem hmem)
        simpa [findRow, List.find?_cons, hne] using ih hrest hmem

omit [DecidableEq κ] in
theorem DistinctKeys.eq_of_key (hkeys : DistinctKeys key rows) {other : α} (hrow : row ∈ rows)
    (hother : other ∈ rows) (heq : key row = key other) : row = other :=
  List.inj_on_of_nodup_map hkeys hrow hother heq

theorem findRow_map {f : α → α} (hkeep : ∀ row, key (f row) = key row) :
    findRow key k (rows.map f) = (findRow key k rows).map f := by
  simp only [findRow, List.find?_map, Function.comp_def, hkeep]

theorem findRow_eq_none : findRow key k rows = none ↔ ∀ row ∈ rows, key row ≠ k := by
  simp [findRow]

theorem findRow_append_singleton (other : κ) (hfresh : findRow key (key row) rows = none) :
    findRow key other (rows ++ [row]) = if key row =
      other then some row else findRow key other rows := by
  by_cases heq : key row = other
  · subst heq
    simp only [findRow, List.find?_append] at hfresh ⊢
    simp [hfresh]
  · simp [findRow, List.find?_append, heq]

theorem map_key_updateRow (hkeep : ∀ row, key row = k → key (update row) = k) :
    (updateRow key k update rows).map key = rows.map key := by
  simp only [updateRow, List.map_map]
  refine List.map_congr_left fun row _ => ?_
  by_cases heq : key row = k
  · simp [heq, hkeep row heq]
  · simp [heq]

theorem DistinctKeys.updateRow (hkeys : DistinctKeys key rows)
    (hkeep : ∀ row, key row = k → key (update row) = k) :
    DistinctKeys key (updateRow key k update rows) := by
  rw [DistinctKeys, map_key_updateRow hkeep]
  exact hkeys

theorem DistinctKeys.append_singleton (hkeys : DistinctKeys key rows)
    (hfresh : findRow key (key row) rows = none) : DistinctKeys key (rows ++ [row]) := by
  have habsent : key row ∉ rows.map key := by simpa [findRow_eq_none] using hfresh
  rw [DistinctKeys, List.map_append, List.map_singleton]
  exact hkeys.append (List.nodup_singleton _) (by simpa using habsent)

theorem findRow_updateRow (other : κ) (hkeep : ∀ row, key row = k → key (update row) = k) :
    findRow key other (updateRow key k update rows) =
      if other = k then (findRow key k rows).map update else findRow key other rows := by
  induction rows with
  | nil => simp [findRow, updateRow]
  | cons row rows ih =>
      simp only [findRow, updateRow, List.map_cons, List.find?_cons] at ih ⊢
      by_cases hkey : key row = k
      · by_cases hother : other = k
        · simp [hkey, hkeep row hkey, hother]
        · have hne : k ≠ other := fun heq => hother heq.symm
          simp only [hkey, if_true, hkeep row hkey, hne, decide_false, hother, if_false] at ih ⊢
          exact ih
      · by_cases hsame : key row = other
        · have hother : other ≠ k := fun heq => hkey (hsame.trans heq)
          simp [hsame, hother]
        · simp only [hkey, if_false, hsame, decide_false] at ih ⊢
          exact ih

theorem updateRow_of_forall_ne (update : α → α) (habsent : ∀ row ∈ rows, key row ≠ k) :
    updateRow key k update rows = rows := by
  rw [updateRow, List.map_congr_left (g := id)]
  · exact List.map_id _
  · intro row hrow
    simp [habsent row hrow]

theorem countP_updateRow (p : α → Bool) (update : α → α) (hkeys : DistinctKeys key rows)
    (hrow : findRow key k rows = some row) :
    (updateRow key k update rows).countP p + (if p row then 1 else 0) =
      rows.countP p + (if p (update row) then 1 else 0) := by
  induction rows with
  | nil => cases hrow
  | cons head rows ih =>
      obtain ⟨hhead, hrest⟩ := List.nodup_cons.mp hkeys
      by_cases hkey : key head = k
      · have heq : head = row := by simpa [findRow, List.find?_cons, hkey] using hrow
        have habsent : ∀ other ∈ rows, key other ≠ k := fun other hmem hother =>
          hhead (hkey ▸ hother ▸ List.mem_map_of_mem hmem)
        have htail := updateRow_of_forall_ne update habsent
        subst heq
        simp only [updateRow, List.map_cons, hkey, if_true, List.countP_cons] at htail ⊢
        rw [htail]
        omega
      · have htail : findRow key k rows = some row := by
          simpa [findRow, List.find?_cons, hkey] using hrow
        have hcount := ih hrest htail
        simp only [updateRow, List.map_cons, hkey, if_false, List.countP_cons] at hcount ⊢
        omega

/-! ## One row taken out -/

theorem perm_cons_otherRows (hkeys : DistinctKeys key rows) (hrow : findRow key k rows = some row) :
    rows.Perm (row :: rows.filter fun other => key other ≠ k) := by
  induction rows with
  | nil => cases hrow
  | cons head rows ih =>
      obtain ⟨hhead, hrest⟩ := List.nodup_cons.mp hkeys
      by_cases hkey : key head = k
      · have heq : head = row := by simpa [findRow, List.find?_cons, hkey] using hrow
        have hothers : rows.filter (fun other => key other ≠ k) = rows :=
          List.filter_eq_self.mpr fun other hmem => by
            have hother : key other ≠ k := fun hother =>
              hhead (hkey.trans hother.symm ▸ List.mem_map_of_mem hmem)
            simpa using hother
        rw [List.filter_cons_of_neg (by simpa using hkey), hothers, heq]
      · have htail : findRow key k rows = some row := by
          simpa [findRow, List.find?_cons, hkey] using hrow
        rw [List.filter_cons_of_pos (by simpa using hkey)]
        exact ((ih hrest htail).cons head).trans (List.Perm.swap row head _)

omit [DecidableEq κ] in
theorem DistinctKeys.filter (hkeys : DistinctKeys key rows) (p : α → Bool) :
    DistinctKeys key (rows.filter p) :=
  List.Nodup.sublist (List.filter_sublist.map key) hkeys

omit [DecidableEq κ] in
theorem DistinctKeys.set {index : Nat} (hkeys : DistinctKeys key rows)
    (hindex : index < rows.length)
    (hsame : key row = key rows[index]) : DistinctKeys key (rows.set index row) := by
  have hkeep : (rows.set index row).map key = rows.map key := by
    rw [List.map_set, hsame, ← List.getElem_map (f := key) (h := by simpa using hindex),
      List.set_getElem_self]
  rw [DistinctKeys, hkeep]
  exact hkeys

section

variable {M : Type*} [AddCommMonoid M] (weight : α → M)

def totalWeight (rows : List α) : M := (rows.map weight).sum

theorem totalWeight_otherRows (hkeys : DistinctKeys key rows)
    (hrow : findRow key k rows = some row) :
    totalWeight weight rows =
      weight row + totalWeight weight (rows.filter fun other => key other ≠ k) := by
  rw [totalWeight, ((perm_cons_otherRows hkeys hrow).map weight).sum_eq, List.map_cons,
    List.sum_cons,
    totalWeight]

theorem length_otherRows (hkeys : DistinctKeys key rows) (hrow : findRow key k rows = some row) :
    rows.length = (rows.filter fun other => key other ≠ k).length + 1 := by
  rw [(perm_cons_otherRows hkeys hrow).length_eq, List.length_cons]

theorem totalWeight_updateRow (update : α → α) (hkeys : DistinctKeys key rows)
    (hrow : findRow key k rows = some row) :
    totalWeight weight (updateRow key k update rows) =
      weight (update row) + totalWeight weight (rows.filter fun other => key other ≠ k) := by
  have hperm := (perm_cons_otherRows hkeys hrow).map
    fun row => if key row = k then update row else row
  have hothers : updateRow key k update (rows.filter fun other => key other ≠ k) =
      rows.filter fun other => key other ≠ k :=
    updateRow_of_forall_ne update fun other hmem => by simpa using (List.mem_filter.mp hmem).2
  rw [List.map_cons, if_pos (findRow_key hrow)] at hperm
  rw [totalWeight, updateRow, (hperm.map weight).sum_eq, List.map_cons, List.sum_cons]
  rw [updateRow] at hothers
  rw [hothers, totalWeight]

end

/-! ## The first row of every key -/

variable (key) in
/-- The rows whose key neither was seen before nor stands on an earlier row. -/
def firstRows (seen : List κ) : List α → List α
  | [] => []
  | row :: rows =>
      if key row ∈ seen then firstRows seen rows else row :: firstRows (key row :: seen) rows

theorem mem_of_mem_firstRows {seen : List κ} (h : row ∈ firstRows key seen rows) :
    row ∈ rows ∧ key row ∉ seen := by
  induction rows generalizing seen with
  | nil => cases h
  | cons head rows ih =>
      rw [firstRows] at h
      split at h
      · exact ⟨List.mem_cons_of_mem head (ih h).1, (ih h).2⟩
      · next hfresh =>
          obtain rfl | h := List.mem_cons.mp h
          · exact ⟨List.mem_cons_self, hfresh⟩
          · exact ⟨List.mem_cons_of_mem head (ih h).1, fun hseen =>
              (ih h).2 (List.mem_cons_of_mem _ hseen)⟩

theorem distinctKeys_firstRows (seen : List κ) (rows : List α) :
    DistinctKeys key (firstRows key seen rows) := by
  induction rows generalizing seen with
  | nil => exact List.nodup_nil
  | cons head rows ih =>
      rw [firstRows]
      split
      · exact ih seen
      · refine List.nodup_cons.mpr ⟨?_, ih _⟩
        intro hmem
        obtain ⟨row, hrow, heq⟩ := List.mem_map.mp hmem
        exact (mem_of_mem_firstRows hrow).2 (heq ▸ List.mem_cons_self)

theorem key_mem_firstRows {seen : List κ} (hrow : row ∈ rows) :
    key row ∈ seen ∨ ∃ first ∈ firstRows key seen rows, key first = key row := by
  induction rows generalizing seen with
  | nil => cases hrow
  | cons head rows ih =>
      rw [firstRows]
      obtain rfl | hrow := List.mem_cons.mp hrow
      · split
        · next hseen => exact .inl hseen
        · exact .inr ⟨row, List.mem_cons_self, rfl⟩
      · split
        · exact ih hrow
        · obtain hseen | ⟨first, hfirst, heq⟩ := @ih (key head :: seen) hrow
          · obtain heq | hseen := List.mem_cons.mp hseen
            · exact .inr ⟨head, List.mem_cons_self, heq.symm⟩
            · exact .inl hseen
          · exact .inr ⟨first, List.mem_cons_of_mem head hfirst, heq⟩

theorem firstRows_append_of_seen {seen : List κ} {first second : List α}
    (hkeys : DistinctKeys key first) (hfresh : ∀ row ∈ first, key row ∉ seen)
    (hseen : ∀ row ∈ second, key row ∈ seen ∨ ∃ other ∈ first, key other = key row) :
    firstRows key seen (first ++ second) = first := by
  induction first generalizing seen with
  | nil =>
      induction second with
      | nil => rfl
      | cons head second ih =>
          have hhead : key head ∈ seen := by simpa using hseen head List.mem_cons_self
          rw [List.nil_append, firstRows, if_pos hhead]
          exact ih fun row hrow => hseen row (List.mem_cons_of_mem head hrow)
  | cons head first ih =>
      obtain ⟨hhead, hrest⟩ := List.nodup_cons.mp hkeys
      rw [List.cons_append, firstRows, if_neg (hfresh head List.mem_cons_self), ih hrest]
      · intro row hrow hmem
        obtain heq | hmem := List.mem_cons.mp hmem
        · exact hhead (heq ▸ List.mem_map_of_mem hrow)
        · exact hfresh row (List.mem_cons_of_mem head hrow) hmem
      · intro row hrow
        obtain hmem | ⟨other, hother, heq⟩ := hseen row hrow
        · exact .inl (List.mem_cons_of_mem _ hmem)
        · obtain rfl | hother := List.mem_cons.mp hother
          · exact .inl (heq ▸ List.mem_cons_self)
          · exact .inr ⟨other, hother, heq⟩

/-! ## Rows in the order of their keys -/

section

variable {κ α : Type*} [LinearOrder κ] (key : α → κ) {rows : List α}

def sortRows (rows : List α) : List α :=
  rows.insertionSort fun first second => key first ≤ key second

theorem perm_sortRows (rows : List α) : (sortRows key rows).Perm rows :=
  List.perm_insertionSort _ rows

@[simp] theorem mem_sortRows {row : α} : row ∈ sortRows key rows ↔ row ∈ rows :=
  (perm_sortRows key rows).mem_iff

theorem pairwise_sortRows (rows : List α) :
    (sortRows key rows).Pairwise fun first second => key first ≤ key second := by
  have : Std.Total fun first second : α => key first ≤ key second := ⟨fun _ _ => le_total _ _⟩
  have : IsTrans α fun first second => key first ≤ key second := ⟨fun _ _ _ => le_trans⟩
  exact List.pairwise_insertionSort _ rows

theorem insertionSort_eq_sortRows {le : α → α → Prop} [DecidableRel le]
    (hle : ∀ first ∈ rows, ∀ second ∈ rows, le first second ↔ key first ≤ key second) :
    rows.insertionSort le = sortRows key rows := by
  have hmap := List.map_insertionSort le (fun first second => key first ≤ key second) id rows hle
  simpa [sortRows] using hmap

variable {key}

theorem DistinctKeys.sortRows_eq (hkeys : DistinctKeys key rows) {others : List α}
    (hperm : rows.Perm others) : sortRows key rows = sortRows key others := by
  have hothers := (perm_sortRows key rows).trans (hperm.trans (perm_sortRows key others).symm)
  refine hothers.eq_of_pairwise ?_ (pairwise_sortRows key rows) (pairwise_sortRows key others)
  intro first second hfirst hsecond hle hge
  have hsecond' : second ∈ rows := hperm.mem_iff.mpr ((mem_sortRows key).mp hsecond)
  exact hkeys.eq_of_key ((mem_sortRows key).mp hfirst) hsecond' (le_antisymm hle hge)

theorem DistinctKeys.keys_sortRows (hkeys : DistinctKeys key rows) :
    ((sortRows key rows).map key).Pairwise (· < ·) := by
  have hnodup : ((sortRows key rows).map key).Nodup :=
    ((perm_sortRows key rows).map key).nodup_iff.mpr hkeys
  have hle : ((sortRows key rows).map key).Pairwise (· ≤ ·) :=
    List.pairwise_map.mpr (pairwise_sortRows key rows)
  exact (hle.and hnodup).imp fun h => lt_of_le_of_ne h.1 h.2

end

end Raft.Foundation
