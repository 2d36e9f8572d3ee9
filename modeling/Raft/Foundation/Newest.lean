import Mathlib.Data.Finset.Sort

/-!
# The greatest elements of a finite set

`newest n s` keeps the `n` greatest elements of `s`: those below fewer than `n`
others.  It is what a sorted list keeps when all but its last `n` places are
dropped, and cutting a part before a union does not change what the whole keeps.
-/

namespace Raft.Foundation

variable {α : Type*} [LinearOrder α] {n : Nat} {s t : Finset α} {a : α}

def newest (n : Nat) (s : Finset α) : Finset α :=
  s.filter fun a => (s.filter fun b => a < b).card < n

theorem mem_newest : a ∈ newest n s ↔ a ∈ s ∧ (s.filter fun b => a < b).card < n := by
  rw [newest, Finset.mem_filter]

theorem newest_subset : newest n s ⊆ s := Finset.filter_subset _ _

theorem newest_of_card_le (h : s.card ≤ n) : newest n s = s := by
  refine Finset.filter_true_of_mem fun a ha => lt_of_lt_of_le ?_ h
  exact Finset.card_lt_card (Finset.filter_ssubset.mpr ⟨a, ha, lt_irrefl a⟩)

/-- An element below all others stays only while there is room for everything. -/
theorem newest_insert_min (hmin : ∀ b ∈ s, a < b) :
    newest n (insert a s) = if s.card < n then insert a s else newest n s := by
  have ha : a ∉ s := fun hmem => lt_irrefl a (hmin a hmem)
  split
  · next hroom =>
      exact newest_of_card_le (by rwa [Finset.card_insert_of_notMem ha])
  · next hfull =>
      ext b
      simp only [mem_newest, Finset.mem_insert]
      constructor
      · rintro ⟨rfl | hb, hcard⟩
        · rw [Finset.filter_insert, if_neg (lt_irrefl _), Finset.filter_true_of_mem hmin] at hcard
          exact absurd hcard hfull
        · rw [Finset.filter_insert, if_neg (hmin b hb).not_gt] at hcard
          exact ⟨hb, hcard⟩
      · rintro ⟨hb, hcard⟩
        rw [Finset.filter_insert, if_neg (hmin b hb).not_gt]
        exact ⟨Or.inr hb, hcard⟩

theorem card_newest : (newest n s).card = min n s.card := by
  induction s using Finset.induction_on_min with
  | empty => simp [newest]
  | insert a s hmin ih =>
      have ha : a ∉ s := fun hmem => lt_irrefl a (hmin a hmem)
      rw [newest_insert_min hmin, Finset.card_insert_of_notMem ha]
      split
      · next hroom =>
          rw [Finset.card_insert_of_notMem ha]
          omega
      · next hfull =>
          rw [ih]
          omega

theorem sort_newest : (newest n s).sort (· ≤ ·) = (s.sort (· ≤ ·)).drop (s.card - n) := by
  induction s using Finset.induction_on_min with
  | empty => simp [newest]
  | insert a s hmin ih =>
      have ha : a ∉ s := fun hmem => lt_irrefl a (hmin a hmem)
      have hsort : (insert a s).sort (· ≤ ·) = a :: s.sort (· ≤ ·) :=
        Finset.sort_insert _ (fun b hb => (hmin b hb).le) ha
      rw [newest_insert_min hmin, Finset.card_insert_of_notMem ha]
      split
      · next hroom => rw [show s.card + 1 - n = 0 by omega, List.drop_zero]
      · next hfull =>
          rw [ih, hsort, show s.card + 1 - n = s.card - n + 1 by omega, List.drop_succ_cons]

theorem sort_eq_nil_iff : s.sort (· ≤ ·) = [] ↔ s = ∅ := by
  rw [← List.length_eq_zero_iff, Finset.length_sort, Finset.card_eq_zero]

theorem filter_sort (p : α → Bool) :
    (s.sort (· ≤ ·)).filter p = (s.filter fun a => p a = true).sort (· ≤ ·) := by
  have hnodup : ((s.sort (· ≤ ·)).filter p).Nodup := (Finset.sort_nodup _ _).filter _
  have hsorted := (List.toFinset_sort (· ≤ ·) hnodup).mpr ((Finset.pairwise_sort s _).filter _)
  rw [← hsorted, List.toFinset_filter, Finset.sort_toFinset]

theorem sort_reverse : (s.sort (· ≤ ·)).reverse = s.sort (· ≥ ·) := by
  have hdescending : ((s.sort (· ≤ ·)).reverse).Pairwise (· ≥ ·) :=
    List.pairwise_reverse.mpr (Finset.pairwise_sort _ _)
  refine List.Perm.eq_of_pairwise (fun _ _ _ _ h h' => le_antisymm h' h) hdescending
    (Finset.pairwise_sort _ _) ?_
  · exact (List.reverse_perm _).trans
      ((Finset.sort_perm_toList _ _).trans (Finset.sort_perm_toList _ _).symm)

theorem take_sort_newest : ((s.sort (· ≥ ·)).take n).toFinset = newest n s := by
  rw [← sort_reverse, List.take_reverse, Finset.length_sort, ← sort_newest,
    List.toFinset_reverse, Finset.sort_toFinset]

theorem newest_upward (ha : a ∈ newest n s) {b : α} (hb : b ∈ s) (hle : a ≤ b) :
    b ∈ newest n s := by
  rw [mem_newest] at ha ⊢
  refine ⟨hb, lt_of_le_of_lt (Finset.card_le_card ?_) ha.2⟩
  exact Finset.monotone_filter_right _ fun c _ hc => lt_of_le_of_lt hle hc

theorem newest_union_newest : newest n (s ∪ newest n t) = newest n (s ∪ t) := by
  have hsubset : s ∪ newest n t ⊆ s ∪ t := Finset.union_subset_union_right newest_subset
  ext a
  rw [mem_newest, mem_newest]
  constructor
  · rintro ⟨ha, hcard⟩
    refine ⟨hsubset ha, ?_⟩
    by_cases hcut : ∀ b ∈ t, a < b → b ∈ newest n t
    · refine lt_of_le_of_lt (Finset.card_le_card fun b hb => ?_) hcard
      obtain ⟨hmem, hlt⟩ := Finset.mem_filter.mp hb
      refine Finset.mem_filter.mpr ⟨?_, hlt⟩
      exact Finset.mem_union.mpr ((Finset.mem_union.mp hmem).imp_right fun ht => hcut b ht hlt)
    · push Not at hcut
      obtain ⟨b, ht, hlt, hdropped⟩ := hcut
      have hlarge : n < t.card := by
        by_contra hsmall
        exact hdropped (by rwa [newest_of_card_le (by omega)])
      have habove : newest n t ⊆ (s ∪ newest n t).filter fun c => a < c := fun c hc =>
        Finset.mem_filter.mpr ⟨Finset.mem_union_right _ hc,
          hlt.trans (lt_of_not_ge fun hle => hdropped (newest_upward hc ht hle))⟩
      have hcount := Finset.card_le_card habove
      rw [card_newest] at hcount
      omega
  · rintro ⟨ha, hcard⟩
    have hcut : ((s ∪ newest n t).filter fun b => a < b).card < n :=
      lt_of_le_of_lt (Finset.card_le_card (Finset.filter_subset_filter _ hsubset)) hcard
    refine ⟨?_, hcut⟩
    rcases Finset.mem_union.mp ha with hs | ht
    · exact Finset.mem_union_left _ hs
    · refine Finset.mem_union_right _ (mem_newest.mpr ⟨ht, lt_of_le_of_lt ?_ hcard⟩)
      exact Finset.card_le_card (Finset.filter_subset_filter _ Finset.subset_union_right)

theorem newest_eq_empty_iff (hn : 0 < n) : newest n s = ∅ ↔ s = ∅ := by
  rw [← Finset.card_eq_zero, card_newest, ← Finset.card_eq_zero (s := s)]
  omega

theorem filter_newest {p : α → Prop} [DecidablePred p] (hp : ∀ a b, a ≤ b → p a → p b) :
    (newest n s).filter p = newest n (s.filter p) := by
  ext a
  rw [Finset.mem_filter, mem_newest, mem_newest, Finset.mem_filter]
  have habove : p a → (s.filter p).filter (a < ·) = s.filter (a < ·) := by
    intro ha
    rw [Finset.filter_filter]
    exact Finset.filter_congr fun b _ => ⟨fun h => h.2, fun h => ⟨hp a b h.le ha, h⟩⟩
  constructor
  · rintro ⟨⟨hs, hcard⟩, ha⟩
    exact ⟨⟨hs, ha⟩, by rwa [habove ha]⟩
  · rintro ⟨⟨hs, ha⟩, hcard⟩
    exact ⟨⟨hs, by rwa [habove ha] at hcard⟩, ha⟩

/-- An element is among the newest of a set, or has enough above it there, exactly when that holds
of the whole set. -/
theorem mem_newest_or_card_le :
    (a ∈ newest n s ∨ n ≤ ((newest n s).filter (a < ·)).card) ↔
      (a ∈ s ∨ n ≤ (s.filter (a < ·)).card) := by
  have habove : (newest n s).filter (a < ·) = newest n (s.filter (a < ·)) :=
    filter_newest fun _ _ hle hlt => lt_of_lt_of_le hlt hle
  rw [habove, card_newest, mem_newest]
  constructor
  · rintro (⟨ha, -⟩ | hcard)
    · exact Or.inl ha
    · exact Or.inr (le_min_iff.mp hcard).2
  · rintro (ha | hcard)
    · by_cases hroom : (s.filter (a < ·)).card < n
      · exact Or.inl ⟨ha, hroom⟩
      · exact Or.inr (le_min (le_refl n) (not_lt.mp hroom))
    · exact Or.inr (le_min (le_refl n) hcard)

end Raft.Foundation
