import Mathlib.Algebra.BigOperators.Group.List.Lemmas
import Mathlib.Algebra.GroupWithZero.Nat
import Mathlib.Data.List.Sort
import Raft.Foundation.Grouping

/-!
# Cumulative counts

A list of values is summarized by its distinct values in ascending order, each
with the number of values that reach it.  The summary is strictly decreasing in
its counts, and it tells for every threshold how many values reach that.
-/

namespace Raft.Foundation

universe u

variable {β : Type u} [LinearOrder β]

def tally (values : List β) : InsertionMap β Nat :=
  groupFold id (fun count _ => count.getD 0 + 1) .empty values

def cumulate : (cumulative : Nat) → List (β × Nat) → List (β × Nat)
  | _, [] => []
  | cumulative, (value, count) :: rows =>
      (value, cumulative + count) :: cumulate (cumulative + count) rows

structure CountsAtLeast (values : List β) (rows : List (β × Nat)) : Prop where
  ascending : rows.Pairwise fun first second => first.1 < second.1
  count : ∀ row ∈ rows, row.2 = values.countP (row.1 ≤ ·)
  covers : ∀ value ∈ values, ∃ row ∈ rows, row.1 = value
  occurs : ∀ row ∈ rows, row.1 ∈ values

namespace CountsAtLeast

variable {values : List β} {rows : List (β × Nat)}

theorem countP_lt {first second : β} (hmem : first ∈ values) (hlt : first < second) :
    values.countP (second ≤ ·) < values.countP (first ≤ ·) := by
  induction values with
  | nil => cases hmem
  | cons value values ih =>
      have hmono : values.countP (second ≤ ·) ≤ values.countP (first ≤ ·) :=
        List.countP_mono_left fun value _ hvalue =>
          decide_eq_true (hlt.le.trans (of_decide_eq_true hvalue))
      rcases List.mem_cons.mp hmem with rfl | hmem
      · rw [List.countP_cons_of_neg (by simpa using hlt), List.countP_cons_of_pos (by simp)]
        omega
      · have hrest := ih hmem
        rw [List.countP_cons, List.countP_cons]
        by_cases hsecond : second ≤ value
        · simp [hsecond, hlt.le.trans hsecond, hrest]
        · simp only [hsecond, decide_false, Bool.false_eq_true, if_false]
          omega

theorem decreasing (h : CountsAtLeast values rows) :
    rows.Pairwise fun first second => second.2 < first.2 := by
  refine h.ascending.imp_of_mem fun {first second} hfirst hsecond hlt => ?_
  rw [h.count first hfirst, h.count second hsecond]
  exact countP_lt (h.occurs first hfirst) hlt

theorem lookup (h : CountsAtLeast values rows) (threshold : β) :
    ((rows.find? fun row => threshold ≤ row.1).map Prod.snd).getD 0 =
      values.countP (threshold ≤ ·) := by
  cases hfind : rows.find? fun row => threshold ≤ row.1 with
  | none =>
      rw [List.find?_eq_none] at hfind
      refine (List.countP_eq_zero.mpr fun value hvalue => ?_).symm
      obtain ⟨row, hrow, rfl⟩ := h.covers value hvalue
      exact hfind row hrow
  | some row =>
      obtain ⟨hreach, before, after, hrows, hbefore⟩ := List.find?_eq_some_iff_append.mp hfind
      have hrow : row ∈ rows := by simp [hrows]
      rw [Option.map_some, Option.getD_some, h.count row hrow]
      -- No value lies between the threshold and the row.
      refine List.countP_congr fun value hvalue => ?_
      simp only [decide_eq_true_eq] at hreach ⊢
      refine ⟨hreach.trans, fun hthreshold => ?_⟩
      obtain ⟨other, hother, rfl⟩ := h.covers value hvalue
      have hascending := h.ascending
      rw [hrows, List.pairwise_append, List.pairwise_cons] at hascending
      rw [hrows, List.mem_append, List.mem_cons] at hother
      rcases hother with hother | rfl | hother
      · have hshort := hbefore other hother
        simp only [Bool.not_eq_true', decide_eq_false_iff_not] at hshort
        exact absurd hthreshold hshort
      · exact le_refl _
      · exact (hascending.2.1.1 other hother).le

end CountsAtLeast

/-! ## Building the summary -/

theorem get_tally (values : List β) (value : β) :
    (tally values).get value =
      if value ∈ values then some (values.count value) else none := by
  have hfold : ∀ (same : List β) (group : Option Nat),
      same.foldl (fun group _ => some (group.getD 0 + 1)) group =
        if same = [] then group else some (group.getD 0 + same.length) := by
    intro same
    induction same with
    | nil => simp
    | cons first same ih =>
        intro group
        rw [List.foldl_cons, ih, if_neg (List.cons_ne_nil _ _)]
        split
        · next hnil => simp [hnil]
        · simp only [Option.getD_some, List.length_cons, Option.some_inj]
          omega
  rw [tally, get_groupFold, InsertionMap.get_empty]
  refine (hfold _ none).trans ?_
  have hcount : (values.filter fun item => id item = value).length = values.count value := by
    rw [List.count, List.countP_eq_length_filter]
    rfl
  rw [hcount]
  by_cases hmem : value ∈ values
  · rw [if_pos hmem, if_neg]
    · simp
    · rw [List.filter_eq_nil_iff]
      exact fun hnone => hnone value hmem (by simp)
  · rw [if_neg hmem, if_pos]
    rw [List.filter_eq_nil_iff]
    rintro item hitem hsame
    obtain rfl : item = value := of_decide_eq_true hsame
    exact hmem hitem

theorem mem_keys_tally (values : List β) (value : β) :
    value ∈ (tally values).keys ↔ value ∈ values := by
  rw [InsertionMap.mem_keys_iff, get_tally]
  by_cases hmem : value ∈ values <;> simp [hmem]

theorem sum_tally (values : List β) (p : β → Bool) :
    (((tally values).entries.filter fun entry => p entry.1).map Prod.snd).sum =
      values.countP p := by
  have hentries : (tally values).entries =
      (tally values).keys.map fun value => (value, values.count value) := by
    rw [InsertionMap.keys, List.map_map]
    refine (List.map_id _).symm.trans (List.map_congr_left fun entry hentry => ?_)
    have hget := ((tally values).mem_entries_iff entry.1 entry.2).mp hentry
    rw [get_tally] at hget
    split at hget
    · exact Prod.ext rfl (Option.some_inj.mp hget).symm
    · cases hget
  have hperm : (tally values).keys.Perm values.dedup := by
    refine (List.perm_ext_iff_of_nodup (tally values).nodup values.nodup_dedup).mpr fun value => ?_
    rw [List.mem_dedup]
    exact mem_keys_tally values value
  rw [hentries, List.filter_map, List.map_map]
  calc (((tally values).keys.filter p).map fun value => values.count value).sum
      = ((values.dedup.filter p).map fun value => values.count value).sum :=
        ((hperm.filter p).map _).sum_eq
    _ = values.countP p := List.sum_map_count_dedup_filter_eq_countP p values

omit [LinearOrder β] in
theorem map_fst_cumulate (cumulative : Nat) (rows : List (β × Nat)) :
    (cumulate cumulative rows).map Prod.fst = rows.map Prod.fst := by
  induction rows generalizing cumulative with
  | nil => rfl
  | cons row rows ih =>
      obtain ⟨value, count⟩ := row
      rw [cumulate, List.map_cons, ih, List.map_cons]

theorem count_cumulate {rows : List (β × Nat)}
    (hrows : rows.Pairwise fun first second => second.1 < first.1) (cumulative : Nat) :
    ∀ row ∈ cumulate cumulative rows,
      row.2 = cumulative + ((rows.filter fun other => row.1 ≤ other.1).map Prod.snd).sum := by
  induction rows generalizing cumulative with
  | nil => exact fun row hrow => absurd hrow List.not_mem_nil
  | cons first rows ih =>
      obtain ⟨value, count⟩ := first
      obtain ⟨hfirst, hrest⟩ := List.pairwise_cons.mp hrows
      intro row hrow
      rcases List.mem_cons.mp hrow with rfl | hrow
      · have hnone : (rows.filter fun other => value ≤ other.1) = [] := by
          rw [List.filter_eq_nil_iff]
          exact fun other hother => by simpa using hfirst other hother
        simp [hnone]
      · have hlater : row.1 ∈ rows.map Prod.fst := by
          rw [← map_fst_cumulate (cumulative + count)]
          exact List.mem_map_of_mem hrow
        obtain ⟨other, hother, hsame⟩ := List.mem_map.mp hlater
        have hle : row.1 ≤ value := hsame ▸ (hfirst other hother).le
        rw [ih hrest _ row hrow, List.filter_cons_of_pos (by simpa using hle), List.map_cons,
          List.sum_cons, Nat.add_assoc]

/-- The tally in descending order, added up and turned round. -/
theorem countsAtLeast_cumulate (values : List β) :
    CountsAtLeast values (cumulate 0 ((tally values).entries.insertionSort
      fun left right => right.1 ≤ left.1)).reverse := by
  let sorted := (tally values).entries.insertionSort fun left right => right.1 ≤ left.1
  have hperm : sorted.Perm (tally values).entries := List.perm_insertionSort _ _
  have hdistinct : sorted.Pairwise fun first second => first.1 ≠ second.1 :=
    List.pairwise_map.mp ((hperm.map Prod.fst).nodup_iff.mpr (tally values).nodup)
  have hsorted : sorted.Pairwise fun first second => second.1 ≤ first.1 :=
    List.pairwise_insertionSort _ _
  have hdescending : sorted.Pairwise fun first second => second.1 < first.1 :=
    (hsorted.and hdistinct).imp fun h => lt_of_le_of_ne h.1 h.2.symm
  have hmem : ∀ value, value ∈ (cumulate 0 sorted).map Prod.fst ↔ value ∈ values := by
    intro value
    rw [map_fst_cumulate, (hperm.map Prod.fst).mem_iff]
    exact mem_keys_tally values value
  refine ⟨?_, fun row hrow => ?_, fun value hvalue => ?_, fun row hrow => ?_⟩
  · rw [List.pairwise_reverse, ← List.pairwise_map (R := fun first second => second < first),
      map_fst_cumulate, List.pairwise_map]
    exact hdescending
  · rw [count_cumulate hdescending 0 row (List.mem_reverse.mp hrow), Nat.zero_add,
      ((hperm.filter _).map Prod.snd).sum_eq]
    exact sum_tally values fun other => row.1 ≤ other
  · obtain ⟨row, hrow, rfl⟩ := List.mem_map.mp ((hmem value).mpr hvalue)
    exact ⟨row, List.mem_reverse.mpr hrow, rfl⟩
  · exact (hmem row.1).mp (List.mem_map_of_mem (List.mem_reverse.mp hrow))

end Raft.Foundation
