import Mathlib.Data.List.Nodup
import Mathlib.Data.List.Perm.Basic

/-!
# Insertion-ordered maps

The keyed collection of JavaScript's `Map`: setting a present key keeps its
position and replaces its value, setting a new key appends it, and iteration
follows the order of first insertion.  Keys are unique by construction.
-/

namespace Raft.Foundation

universe u v

structure InsertionMap (κ : Type u) (α : Type v) where
  entries : List (κ × α)
  nodup : (entries.map Prod.fst).Nodup

namespace InsertionMap

variable {κ : Type u} {α : Type v}

def empty : InsertionMap κ α := ⟨[], List.nodup_nil⟩

def keys (map : InsertionMap κ α) : List κ := map.entries.map Prod.fst

def values (map : InsertionMap κ α) : List α := map.entries.map Prod.snd

@[simp] theorem values_empty : (empty : InsertionMap κ α).values = [] := rfl

variable [DecidableEq κ]

def get (map : InsertionMap κ α) (key : κ) : Option α :=
  (map.entries.find? fun entry => entry.1 = key).map Prod.snd

def replaceEntries (key : κ) (value : α) (entries : List (κ × α)) : List (κ × α) :=
  entries.map fun entry => if entry.1 = key then (key, value) else entry

theorem replaceEntries_keys (key : κ) (value : α) (entries : List (κ × α)) :
    (replaceEntries key value entries).map Prod.fst = entries.map Prod.fst := by
  rw [replaceEntries, List.map_map]
  apply List.map_congr_left
  intro entry _
  by_cases h : entry.1 = key <;> simp [h]

def set (map : InsertionMap κ α) (key : κ) (value : α) : InsertionMap κ α :=
  if h : key ∈ map.keys then
    ⟨replaceEntries key value map.entries, by
      rw [replaceEntries_keys]
      exact map.nodup⟩
  else
    ⟨map.entries ++ [(key, value)], by
      rw [List.map_append, List.nodup_append]
      refine ⟨map.nodup, by simp, ?_⟩
      intro present hpresent added hadded heq
      simp only [List.map_cons, List.map_nil, List.mem_singleton] at hadded
      subst hadded heq
      exact h hpresent⟩

def delete (map : InsertionMap κ α) (key : κ) : InsertionMap κ α :=
  ⟨map.entries.filter fun entry => entry.1 ≠ key,
    map.nodup.sublist (List.filter_sublist.map Prod.fst)⟩

def filter (map : InsertionMap κ α) (keep : α → Bool) : InsertionMap κ α :=
  ⟨map.entries.filter fun entry => keep entry.2,
    map.nodup.sublist (List.filter_sublist.map Prod.fst)⟩

def filterKeys (map : InsertionMap κ α) (keep : κ → Bool) : InsertionMap κ α :=
  ⟨map.entries.filter fun entry => keep entry.1,
    map.nodup.sublist (List.filter_sublist.map Prod.fst)⟩

/-! ## Lookup -/

theorem mem_entries_iff (map : InsertionMap κ α) (key : κ) (value : α) :
    (key, value) ∈ map.entries ↔ map.get key = some value := by
  obtain ⟨entries, nodup⟩ := map
  simp only [get]
  induction entries with
  | nil => simp
  | cons entry entries ih =>
      obtain ⟨head, headValue⟩ := entry
      simp only [List.map_cons, List.nodup_cons] at nodup
      by_cases h : head = key
      · subst h
        have habsent : ∀ other, (head, other) ∉ entries := fun other hmem =>
          nodup.1 (List.mem_map.mpr ⟨_, hmem, rfl⟩)
        simp [habsent, eq_comm]
      · have hkey : key ≠ head := fun heq => h heq.symm
        rw [List.find?_cons_of_neg (by simpa using h), ← ih nodup.2]
        simp [hkey]

omit [DecidableEq κ] in
theorem eq_of_mem_entries (map : InsertionMap κ α) {first second : κ × α}
    (hfirst : first ∈ map.entries) (hsecond : second ∈ map.entries) (h : first.1 = second.1) :
    first = second :=
  List.inj_on_of_nodup_map map.nodup hfirst hsecond h

theorem perm_entries {first second : InsertionMap κ α}
    (h : ∀ key, first.get key = second.get key) : first.entries.Perm second.entries := by
  refine (List.perm_ext_iff_of_nodup first.nodup.of_map second.nodup.of_map).mpr fun entry => ?_
  rw [mem_entries_iff, mem_entries_iff, h]

theorem mem_values_iff (map : InsertionMap κ α) (value : α) :
    value ∈ map.values ↔ ∃ key, map.get key = some value := by
  constructor
  · intro h
    obtain ⟨⟨key, _⟩, hmem, rfl⟩ := List.mem_map.mp h
    exact ⟨key, (map.mem_entries_iff key _).mp hmem⟩
  · rintro ⟨key, hget⟩
    exact List.mem_map.mpr ⟨(key, value), (map.mem_entries_iff key value).mpr hget, rfl⟩

theorem mem_keys_iff (map : InsertionMap κ α) (key : κ) :
    key ∈ map.keys ↔ ∃ value, map.get key = some value := by
  constructor
  · intro h
    obtain ⟨⟨_, value⟩, hmem, rfl⟩ := List.mem_map.mp h
    exact ⟨value, (map.mem_entries_iff _ value).mp hmem⟩
  · rintro ⟨value, hget⟩
    exact List.mem_map.mpr ⟨(key, value), (map.mem_entries_iff key value).mpr hget, rfl⟩

theorem get_eq_none_iff (map : InsertionMap κ α) (key : κ) :
    map.get key = none ↔ key ∉ map.keys := by
  rw [mem_keys_iff, Option.eq_none_iff_forall_ne_some, not_exists]

@[simp] theorem get_empty (key : κ) : (empty : InsertionMap κ α).get key = none := rfl

theorem get_set (map : InsertionMap κ α) (key other : κ) (value : α) :
    (map.set key value).get other = if other = key then some value else map.get other := by
  apply Option.ext
  intro found
  rw [← mem_entries_iff]
  by_cases hmem : key ∈ map.keys
  · simp only [set, hmem, ↓reduceDIte, replaceEntries, List.mem_map, Prod.exists]
    by_cases hother : other = key
    · subst hother
      obtain ⟨old, hold⟩ := (map.mem_keys_iff other).mp hmem
      rw [if_pos rfl]
      constructor
      · rintro ⟨entryKey, entryValue, hentry, heq⟩
        by_cases hkey : entryKey = other
        · simp only [hkey, ↓reduceIte, Prod.mk.injEq, true_and] at heq
          rw [heq]
        · simp only [hkey, ↓reduceIte, Prod.mk.injEq, false_and] at heq
      · intro heq
        cases heq
        exact ⟨other, old, (map.mem_entries_iff other old).mpr hold, by simp⟩
    · rw [if_neg hother, ← mem_entries_iff]
      constructor
      · rintro ⟨entryKey, entryValue, hentry, heq⟩
        by_cases hkey : entryKey = key
        · rw [if_pos hkey, Prod.mk.injEq] at heq
          exact absurd heq.1.symm hother
        · rw [if_neg hkey] at heq
          rwa [← heq]
      · intro hentry
        exact ⟨other, found, hentry, by simp [hother]⟩
  · simp only [set, hmem, ↓reduceDIte, List.mem_append, List.mem_singleton, Prod.mk.injEq,
      mem_entries_iff]
    by_cases hother : other = key
    · subst hother
      rw [(map.get_eq_none_iff other).mpr hmem]
      simp [eq_comm]
    · simp [hother]

@[simp] theorem get_set_self (map : InsertionMap κ α) (key : κ) (value : α) :
    (map.set key value).get key = some value := by
  rw [get_set, if_pos rfl]

theorem get_set_of_ne (map : InsertionMap κ α) {key other : κ} (value : α)
    (h : other ≠ key) : (map.set key value).get other = map.get other := by
  rw [get_set, if_neg h]

theorem get_delete (map : InsertionMap κ α) (key other : κ) :
    (map.delete key).get other = if other = key then none else map.get other := by
  apply Option.ext
  intro found
  rw [← mem_entries_iff]
  simp only [delete, List.mem_filter, mem_entries_iff, decide_eq_true_eq]
  by_cases h : other = key <;> simp [h]

@[simp] theorem get_delete_self (map : InsertionMap κ α) (key : κ) :
    (map.delete key).get key = none := by
  rw [get_delete, if_pos rfl]

theorem get_delete_of_ne (map : InsertionMap κ α) {key other : κ} (h : other ≠ key) :
    (map.delete key).get other = map.get other := by
  rw [get_delete, if_neg h]

theorem get_filter (map : InsertionMap κ α) (keep : α → Bool) (key : κ) :
    (map.filter keep).get key = (map.get key).filter keep := by
  apply Option.ext
  intro found
  rw [← mem_entries_iff, filter, List.mem_filter, mem_entries_iff, Option.filter_eq_some_iff]

theorem get_filterKeys (map : InsertionMap κ α) (keep : κ → Bool) (key : κ) :
    (map.filterKeys keep).get key = if keep key = true then map.get key else none := by
  apply Option.ext
  intro found
  rw [← mem_entries_iff, filterKeys, List.mem_filter, mem_entries_iff]
  by_cases h : keep key = true <;> simp [h]

/-! ## Many entries -/

theorem keys_set (map : InsertionMap κ α) (key : κ) (value : α) :
    (map.set key value).keys = if key ∈ map.keys then map.keys else map.keys ++ [key] := by
  by_cases hmem : key ∈ map.keys
  · rw [if_pos hmem, set, dif_pos hmem]
    exact replaceEntries_keys key value map.entries
  · rw [if_neg hmem, set, dif_neg hmem]
    exact List.map_append

theorem mem_keys_set (map : InsertionMap κ α) (key other : κ) (value : α) :
    other ∈ (map.set key value).keys ↔ other = key ∨ other ∈ map.keys := by
  rw [keys_set]
  split
  · next hmem =>
      constructor
      · exact .inr
      · rintro (rfl | hother)
        · exact hmem
        · exact hother
  · rw [List.mem_append, List.mem_singleton, or_comm]

theorem mem_keys_delete (map : InsertionMap κ α) (key other : κ) :
    other ∈ (map.delete key).keys ↔ other ≠ key ∧ other ∈ map.keys := by
  simp only [mem_keys_iff, get_delete]
  by_cases h : other = key <;> simp [h]

/-- Maps with the same order of keys that answer every lookup alike are one. -/
theorem ext_get {first second : InsertionMap κ α} (hkeys : first.keys = second.keys)
    (hget : ∀ key, first.get key = second.get key) : first = second := by
  have hlength : first.entries.length = second.entries.length := by
    simpa [keys] using congrArg List.length hkeys
  have hentries : first.entries = second.entries := by
    refine List.ext_getElem hlength fun index hfirst hsecond => ?_
    have hkey : first.entries[index].1 = second.entries[index].1 := by
      have hmapped := List.getElem_of_eq hkeys
        (show index < first.keys.length by simpa [keys] using hfirst)
      simpa [keys] using hmapped
    have hvalue := (first.mem_entries_iff _ _).mp (List.getElem_mem hfirst)
    rw [hget, ← mem_entries_iff] at hvalue
    exact second.eq_of_mem_entries hvalue (List.getElem_mem hsecond) hkey
  cases first
  cases second
  cases hentries
  rfl

theorem set_get_self {map : InsertionMap κ α} {key : κ} {value : α}
    (h : map.get key = some value) : map.set key value = map := by
  refine ext_get ?_ fun other => ?_
  · rw [keys_set, if_pos ((map.mem_keys_iff key).mpr ⟨value, h⟩)]
  · rw [get_set]
    split
    · next hother => rw [hother, h]
    · rfl

def setAll (map : InsertionMap κ α) (entries : List (κ × α)) : InsertionMap κ α :=
  entries.foldl (fun map entry => map.set entry.1 entry.2) map

theorem setAll_cons (map : InsertionMap κ α) (entry : κ × α) (entries : List (κ × α)) :
    map.setAll (entry :: entries) = (map.set entry.1 entry.2).setAll entries := rfl

theorem get_setAll_of_notMem {map : InsertionMap κ α} {entries : List (κ × α)} {key : κ}
    (h : key ∉ entries.map Prod.fst) : (map.setAll entries).get key = map.get key := by
  induction entries generalizing map with
  | nil => rfl
  | cons entry entries ih =>
      obtain ⟨hne, hrest⟩ := not_or.mp (List.mem_cons.not.mp h)
      rw [setAll_cons, ih hrest, get_set_of_ne _ _ hne]

theorem get_setAll_of_mem {map : InsertionMap κ α} {entries : List (κ × α)}
    (hnodup : (entries.map Prod.fst).Nodup) {key : κ} {value : α} (h : (key, value) ∈ entries) :
    (map.setAll entries).get key = some value := by
  induction entries generalizing map with
  | nil => cases h
  | cons entry entries ih =>
      rw [List.map_cons, List.nodup_cons] at hnodup
      rw [setAll_cons]
      rcases List.mem_cons.mp h with rfl | htail
      · rw [get_setAll_of_notMem hnodup.1, get_set_self]
      · exact ih hnodup.2 htail

theorem setAll_eq_self {map : InsertionMap κ α} {entries : List (κ × α)}
    (h : ∀ entry ∈ entries, map.get entry.1 = some entry.2) : map.setAll entries = map := by
  induction entries with
  | nil => rfl
  | cons entry entries ih =>
      rw [setAll_cons, set_get_self (h entry List.mem_cons_self)]
      exact ih fun other hother => h other (List.mem_cons_of_mem _ hother)

/-! ## Mapped values -/

section MapValues

variable {β : Type v}

def mapValues (f : α → β) (map : InsertionMap κ α) : InsertionMap κ β :=
  ⟨map.entries.map fun entry => (entry.1, f entry.2), by
    rw [List.map_map]
    exact map.nodup⟩

omit [DecidableEq κ] in
theorem ext_entries {first second : InsertionMap κ α} (h : first.entries = second.entries) :
    first = second := by
  cases first
  cases second
  cases h
  rfl

omit [DecidableEq κ] in
theorem keys_mapValues (f : α → β) (map : InsertionMap κ α) :
    (map.mapValues f).keys = map.keys := by
  rw [keys, mapValues, List.map_map]
  rfl

omit [DecidableEq κ] in
theorem values_mapValues (f : α → β) (map : InsertionMap κ α) :
    (map.mapValues f).values = map.values.map f := by
  rw [values, values, mapValues, List.map_map, List.map_map]
  rfl

theorem get_mapValues (f : α → β) (map : InsertionMap κ α) (key : κ) :
    (map.mapValues f).get key = (map.get key).map f := by
  rw [get, get, mapValues, List.find?_map, Option.map_map, Option.map_map]
  rfl

theorem set_mapValues (f : α → β) (map : InsertionMap κ α) (key : κ) (value : α) :
    (map.mapValues f).set key (f value) = (map.set key value).mapValues f := by
  apply ext_entries
  by_cases h : key ∈ map.keys
  · rw [set, dif_pos (by rwa [keys_mapValues]), set, dif_pos h]
    simp only [mapValues, replaceEntries, List.map_map]
    apply List.map_congr_left
    intro entry _
    by_cases hentry : entry.1 = key <;> simp [hentry]
  · rw [set, dif_neg (by rwa [keys_mapValues]), set, dif_neg h]
    simp [mapValues]

theorem delete_mapValues (f : α → β) (map : InsertionMap κ α) (key : κ) :
    (map.mapValues f).delete key = (map.delete key).mapValues f := by
  apply ext_entries
  simp only [delete, mapValues, List.filter_map]
  rfl

end MapValues

end InsertionMap

end Raft.Foundation
