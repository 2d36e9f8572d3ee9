import Mathlib.Data.Finset.Basic
import Raft.Foundation.InsertionMap

/-!
# Indexes by group

Beside a map stands an index that lists, for every group, the keys whose values
are in it.  An index has no empty lists.  Removing a key from both, adding one
to both and dropping a whole group keep the two in step.
-/

namespace Raft.Foundation

universe u v w

variable {κ : Type u} {γ : Type u} {α : Type v} [DecidableEq κ] [DecidableEq γ]

def members (index : InsertionMap γ (Finset κ)) (group : γ) : Finset κ :=
  (index.get group).getD ∅

/-- The key is taken from a group, and the group goes when it was the last one. -/
def unlist (index : InsertionMap γ (Finset κ)) (group : γ) (key : κ) :
    InsertionMap γ (Finset κ) :=
  if (members index group).erase key = ∅ then index.delete group
  else index.set group ((members index group).erase key)

def enlist (index : InsertionMap γ (Finset κ)) (group : γ) (key : κ) : InsertionMap γ (Finset κ) :=
  index.set group (insert key (members index group))

structure Indexes (groupOf : α → γ) (map : InsertionMap κ α) (index : InsertionMap γ (Finset κ)) :
    Prop where
  mem_members : ∀ group key,
    key ∈ members index group ↔ ∃ value, map.get key = some value ∧ groupOf value = group
  nonempty : ∀ group, index.get group ≠ some ∅

omit [DecidableEq κ] in
theorem members_delete (index : InsertionMap γ (Finset κ)) (group other : γ) :
    members (index.delete group) other = if other = group then ∅ else members index other := by
  rw [members, InsertionMap.get_delete]
  split <;> rfl

omit [DecidableEq κ] in
theorem members_set (index : InsertionMap γ (Finset κ)) (group other : γ) (keys : Finset κ) :
    members (index.set group keys) other = if other = group then keys else members index other := by
  rw [members, InsertionMap.get_set]
  split <;> rfl

theorem members_unlist (index : InsertionMap γ (Finset κ)) (group other : γ) (key : κ) :
    members (unlist index group key) other =
      if other = group then (members index group).erase key else members index other := by
  rw [unlist]
  split
  · next hempty => rw [members_delete, hempty]
  · rw [members_set]

theorem get_unlist_ne_empty {index : InsertionMap γ (Finset κ)}
    (hindex : ∀ group, index.get group ≠ some ∅) (group other : γ) (key : κ) :
    (unlist index group key).get other ≠ some ∅ := by
  rw [unlist]
  split
  · rw [InsertionMap.get_delete]
    split
    · simp
    · exact hindex other
  · next hrest =>
      rw [InsertionMap.get_set]
      split
      · exact fun h => hrest (Option.some_inj.mp h)
      · exact hindex other

section

variable {groupOf : α → γ} {map : InsertionMap κ α} {index : InsertionMap γ (Finset κ)}

theorem indexes_empty : Indexes groupOf (.empty : InsertionMap κ α) .empty :=
  ⟨by simp [members], by simp⟩

theorem Indexes.delete_absent (h : Indexes groupOf map index) {key : κ}
    (habsent : map.get key = none) : Indexes groupOf (map.delete key) index := by
  refine ⟨fun group other => ?_, h.nonempty⟩
  rw [h.mem_members, InsertionMap.get_delete]
  by_cases hother : other = key
  · simp [hother, habsent]
  · rw [if_neg hother]

theorem Indexes.delete (h : Indexes groupOf map index) {key : κ} {value : α}
    (hvalue : map.get key = some value) :
    Indexes groupOf (map.delete key) (unlist index (groupOf value) key) := by
  refine ⟨fun group other => ?_, fun group => get_unlist_ne_empty h.nonempty _ _ _⟩
  rw [members_unlist, InsertionMap.get_delete]
  by_cases hother : other = key
  · subst hother
    rw [if_pos rfl]
    by_cases hgroup : group = groupOf value
    · simp [hgroup]
    · rw [if_neg hgroup, h.mem_members, hvalue]
      simp [eq_comm, hgroup]
  · rw [if_neg hother, ← h.mem_members]
    by_cases hgroup : group = groupOf value
    · rw [if_pos hgroup, Finset.mem_erase, hgroup]
      exact and_iff_right hother
    · rw [if_neg hgroup]

theorem Indexes.set {key : κ} (h : Indexes groupOf (map.delete key) index) (value : α) :
    Indexes groupOf (map.set key value) (enlist index (groupOf value) key) := by
  refine ⟨fun group other => ?_, fun group => ?_⟩
  · have hmembers := h.mem_members group other
    rw [InsertionMap.get_delete] at hmembers
    rw [enlist, members_set, InsertionMap.get_set]
    by_cases hother : other = key
    · subst hother
      rw [if_pos rfl] at hmembers ⊢
      by_cases hgroup : group = groupOf value
      · simp [hgroup]
      · simp [hgroup, hmembers, eq_comm]
    · rw [if_neg hother] at hmembers ⊢
      rw [← hmembers]
      by_cases hgroup : group = groupOf value
      · rw [if_pos hgroup, Finset.mem_insert, hgroup]
        exact or_iff_right hother
      · rw [if_neg hgroup]
  · rw [enlist, InsertionMap.get_set]
    split
    · exact fun hempty => Finset.insert_ne_empty _ _ (Option.some_inj.mp hempty)
    · exact h.nonempty group

theorem Indexes.deleteGroup (h : Indexes groupOf map index) (group : γ) :
    Indexes groupOf (map.filterKeys fun key => key ∉ members index group)
      (index.delete group) := by
  have hget : ∀ key, (map.filterKeys fun key => key ∉ members index group).get key =
      if key ∈ members index group then none else map.get key := by
    intro key
    rw [InsertionMap.get_filterKeys]
    by_cases hlisted : key ∈ members index group <;> simp [hlisted]
  refine ⟨fun other key => ?_, fun other => ?_⟩
  · rw [members_delete, hget]
    have hother := h.mem_members other key
    by_cases hlisted : key ∈ members index group
    · obtain ⟨value, hvalue, hgroup⟩ := (h.mem_members group key).mp hlisted
      rw [if_pos hlisted]
      by_cases heq : other = group
      · simp [heq]
      · rw [if_neg heq, hother, hvalue]
        simp [hgroup, Ne.symm heq]
    · rw [if_neg hlisted, ← hother]
      by_cases heq : other = group
      · rw [if_pos heq, heq]
        exact iff_of_false (Finset.notMem_empty key) hlisted
      · rw [if_neg heq]
  · rw [InsertionMap.get_delete]
    split
    · simp
    · exact h.nonempty other

end

end Raft.Foundation
