import Raft.Foundation.InsertionMap

/-!
# Grouped maps

A map of maps is read and written through both keys; the inner map is created
at the first write.  A list folded into a map group by group leaves at each key
the fold of the items with that key.
-/

namespace Raft.Foundation

universe u v w

section Nested

variable {κ : Type u} {μ : Type v} {α : Type w} [DecidableEq κ] [DecidableEq μ]

abbrev NestedMap (κ : Type u) (μ : Type v) (α : Type w) [DecidableEq κ] [DecidableEq μ] :=
  InsertionMap κ (InsertionMap μ α)

namespace NestedMap

def find (map : NestedMap κ μ α) (outer : κ) (inner : μ) : Option α :=
  (map.get outer).bind fun group => group.get inner

def put (map : NestedMap κ μ α) (outer : κ) (inner : μ) (value : α) : NestedMap κ μ α :=
  InsertionMap.set map outer (((map.get outer).getD .empty).set inner value)

theorem find_put (map : NestedMap κ μ α) (outer other : κ) (inner key : μ) (value : α) :
    (map.put outer inner value).find other key =
      if other = outer ∧ key = inner then some value else map.find other key := by
  rw [find, put, InsertionMap.get_set]
  by_cases houter : other = outer
  · subst houter
    rw [if_pos rfl, Option.bind_some, InsertionMap.get_set, find]
    by_cases hinner : key = inner
    · simp [hinner]
    · cases map.get other <;> simp [hinner]
  · simp [houter, find]

theorem find_delete (map : NestedMap κ μ α) (outer other : κ) (key : μ) :
    NestedMap.find (InsertionMap.delete map outer) other key =
      if other = outer then none else map.find other key := by
  rw [find, InsertionMap.get_delete]
  split <;> rfl

end NestedMap

end Nested

section Groups

variable {κ : Type u} {α : Type v} {β : Type w} [DecidableEq κ]

def groupFold (key : α → κ) (add : Option β → α → β) (groups : InsertionMap κ β)
    (items : List α) : InsertionMap κ β :=
  items.foldl (fun groups item => groups.set (key item) (add (groups.get (key item)) item)) groups

theorem get_groupFold (key : α → κ) (add : Option β → α → β) (groups : InsertionMap κ β)
    (items : List α) (wanted : κ) :
    (groupFold key add groups items).get wanted =
      (items.filter fun item => key item = wanted).foldl (fun group item => some (add group item))
        (groups.get wanted) := by
  induction items generalizing groups with
  | nil => rfl
  | cons item items ih =>
      rw [groupFold, List.foldl_cons]
      refine (ih _).trans ?_
      by_cases hkey : key item = wanted
      · subst hkey
        simp
      · have hne : ¬ wanted = key item := fun h => hkey h.symm
        simp [hkey, InsertionMap.get_set, hne]

end Groups

end Raft.Foundation
