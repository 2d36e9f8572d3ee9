import Mathlib.Data.List.Dedup
import Raft.Foundation.GroupIndex
import Raft.Foundation.Run
import Raft.ReactionReadModels.Store

/-!
# The reaction actor cache

The cache, its order and its index by parent scope describe the same entries
after every operation.  The keys seeded along a run are a ghost: with the
earlier occurrences of a key dropped they are in order of last seeding.
-/

namespace Raft.ReactionReadModels

open Raft.Foundation

def entryParent (entry : ReactionActorsCacheEntry) : JsString :=
  parentIndexKey entry.principalId entry.discussion.parentScopeKey

def seededKeys (stagedBatch : List StagedLegacyReactionIngress) : List JsString :=
  stagedBatch.flatMap fun staged => staged.normalized.readCacheSeed.map fun seed =>
    actorCacheKey staged.principalId (seedDiscussion seed)

def noteSeeded (capacity : Nat) (state : ReactionReadModelData) (seeded : List JsString)
    (operation : Operation) : List JsString :=
  match operation with
  | .applyStagedLegacyIngressBatch stagedBatch =>
      match applyStagedLegacyIngressBatch capacity stagedBatch state with
      | .ok _ => seeded ++ seededKeys stagedBatch
      | .error _ => seeded
  | _ => seeded

def cacheRun (capacity : Nat) (operations : List Operation) :
    ReactionReadModelData × List JsString :=
  run (instrument (step capacity) (noteSeeded capacity)) (emptyData, []) operations

/-! ## The cache, its order and its index -/

structure Consistent (seeded : List JsString) (state : ReactionReadModelData) : Prop where
  indexes : Indexes entryParent state.actorCache state.parentIndex
  listed : ∀ key, key ∈ state.cacheOrder ↔ key ∈ state.actorCache.keys
  lastSeeded : state.cacheOrder.Sublist seeded.dedup
  key_ne_nil : ∀ key ∈ seeded, key ≠ []

theorem dedup_concat (seeded : List JsString) (key : JsString) :
    (seeded ++ [key]).dedup = seeded.dedup.filter (· ≠ key) ++ [key] := by
  induction seeded with
  | nil => simp
  | cons first seeded ih =>
      rw [List.cons_append]
      by_cases hlater : first ∈ seeded
      · rw [List.dedup_cons_of_mem (List.mem_append_left _ hlater), List.dedup_cons_of_mem hlater,
          ih]
      · rw [List.dedup_cons_of_notMem hlater]
        by_cases hkey : first = key
        · subst hkey
          rw [List.dedup_cons_of_mem (by simp), ih, List.filter_cons_of_neg (by simp)]
        · rw [List.dedup_cons_of_notMem (by simp [hlater, hkey]), ih,
            List.filter_cons_of_pos (by simpa using hkey), List.cons_append]

section

variable {seeded : List JsString} {state next : ReactionReadModelData}

theorem consistent_empty (seeded : List JsString) (hkeys : ∀ key ∈ seeded, key ≠ []) :
    Consistent seeded emptyData :=
  ⟨indexes_empty, by simp [emptyData, InsertionMap.empty, InsertionMap.keys],
    List.nil_sublist _, hkeys⟩

theorem Consistent.of_eq (h : Consistent seeded state) (hcache : next.actorCache = state.actorCache)
    (horder : next.cacheOrder = state.cacheOrder)
    (hindex : next.parentIndex = state.parentIndex) : Consistent seeded next := by
  obtain ⟨hindexes, hlisted, hlast, hkeys⟩ := h
  exact ⟨by rwa [hcache, hindex], by rwa [hcache, horder], by rwa [horder], hkeys⟩

theorem Consistent.nodup (h : Consistent seeded state) : state.cacheOrder.Nodup :=
  (List.nodup_dedup seeded).sublist h.lastSeeded

theorem indexes_removeFromParentIndex
    (h : Indexes entryParent state.actorCache state.parentIndex) (key : JsString) :
    Indexes entryParent (state.actorCache.delete key)
      (removeFromParentIndex state.parentIndex (state.actorCache.get key) key) := by
  cases hentry : state.actorCache.get key with
  | none => exact h.delete_absent hentry
  | some entry => exact h.delete hentry

theorem Consistent.seedActors (h : Consistent seeded state) (principalId : JsString)
    (seed : ReactionActorsReadCacheSeed) :
    Consistent (seeded ++ [actorCacheKey principalId (seedDiscussion seed)])
      (seedActors principalId state seed) := by
  refine ⟨?_, fun key => ?_, ?_, ?_⟩
  · exact (indexes_removeFromParentIndex h.indexes _).set _
  · rw [ReactionReadModels.seedActors, InsertionMap.mem_keys_set, ← h.listed]
    by_cases hkey : key = actorCacheKey principalId (seedDiscussion seed)
    · simp [hkey]
    · simp [hkey]
  · rw [dedup_concat]
    exact (h.lastSeeded.filter _).append (List.Sublist.refl _)
  · rw [List.forall_mem_append, List.forall_mem_singleton]
    exact ⟨h.key_ne_nil, jsonStrings_ne_nil _⟩

theorem Consistent.foldl_seedActors (h : Consistent seeded state) (principalId : JsString)
    (seeds : List ReactionActorsReadCacheSeed) :
    Consistent (seeded ++ seeds.map fun seed => actorCacheKey principalId (seedDiscussion seed))
      (seeds.foldl (ReactionReadModels.seedActors principalId) state) := by
  induction seeds generalizing seeded state with
  | nil => simpa using h
  | cons seed seeds ih =>
      have hrest := ih (h.seedActors principalId seed)
      rwa [List.append_assoc] at hrest

theorem Consistent.applyStaged (h : Consistent seeded state)
    (staged : StagedLegacyReactionIngress) :
    Consistent (seeded ++ seededKeys [staged]) (applyStaged staged.principalId state staged) := by
  have hkeys : seededKeys [staged] = staged.normalized.readCacheSeed.map fun seed =>
      actorCacheKey staged.principalId (seedDiscussion seed) := by
    simp [seededKeys]
  rw [hkeys]
  refine Consistent.foldl_seedActors ?_ _ _
  cases staged.normalized.viewerOverlay with
  | none => exact h.of_eq rfl rfl rfl
  | some snapshot =>
      rw [Option.elim_some, applyRosterOverlay]
      split <;> exact h.of_eq rfl rfl rfl

theorem Consistent.foldl_applyStaged (h : Consistent seeded state) {principalId : JsString}
    {stagedBatch : List StagedLegacyReactionIngress}
    (hprincipal : ∀ staged ∈ stagedBatch, staged.principalId = principalId) :
    Consistent (seeded ++ seededKeys stagedBatch)
      (stagedBatch.foldl (ReactionReadModels.applyStaged principalId) state) := by
  induction stagedBatch generalizing seeded state with
  | nil => simpa [seededKeys] using h
  | cons staged stagedBatch ih =>
      obtain ⟨rfl, hothers⟩ := List.forall_mem_cons.mp hprincipal
      have hrest := ih (h.applyStaged staged) hothers
      rwa [List.append_assoc, show seededKeys [staged] ++ seededKeys stagedBatch =
        seededKeys (staged :: stagedBatch) by simp [seededKeys]] at hrest

theorem consistent_evict (capacity : Nat) {cacheOrder : List JsString}
    (h : Consistent seeded { state with cacheOrder }) :
    Consistent seeded (evict capacity cacheOrder state) ∧
      (evict capacity cacheOrder state).cacheOrder.length ≤ capacity := by
  induction cacheOrder generalizing state with
  | nil => exact ⟨h, Nat.zero_le _⟩
  | cons evictedKey rest ih =>
      have hkey : evictedKey ≠ [] :=
        h.key_ne_nil evictedKey (List.mem_dedup.mp (h.lastSeeded.subset List.mem_cons_self))
      rw [evict, if_neg hkey]
      split
      · next hbound => exact ⟨h, hbound⟩
      · refine ih ⟨indexes_removeFromParentIndex h.indexes evictedKey, fun key => ?_,
          (List.sublist_cons_self _ _).trans h.lastSeeded, h.key_ne_nil⟩
        have hlisted := h.listed key
        have hfresh := (List.nodup_cons.mp h.nodup).1
        simp only [List.mem_cons] at hlisted
        rw [InsertionMap.mem_keys_delete, ← hlisted]
        constructor
        · intro hrest
          refine ⟨?_, .inr hrest⟩
          rintro rfl
          exact hfresh hrest
        · rintro ⟨hne, heq | hrest⟩
          · exact absurd heq hne
          · exact hrest

theorem Consistent.clearParentScope (h : Consistent seeded state) (principalId : JsString)
    (parentScopeKey : SyncScopeKey) :
    Consistent seeded (clearParentScope principalId parentScopeKey state) := by
  rw [ReactionReadModels.clearParentScope]
  split
  · exact h
  · next indexed hindexed =>
      have hmembers : members state.parentIndex (parentIndexKey principalId parentScopeKey) =
          indexed := by
        rw [members, hindexed, Option.getD_some]
      have hgroup := h.indexes.deleteGroup (parentIndexKey principalId parentScopeKey)
      rw [hmembers] at hgroup
      refine ⟨hgroup, fun key => ?_, List.filter_sublist.trans h.lastSeeded, h.key_ne_nil⟩
      have hlisted := h.listed key
      rw [InsertionMap.mem_keys_iff] at hlisted
      rw [List.mem_filter, hlisted, InsertionMap.mem_keys_iff, InsertionMap.get_filterKeys]
      by_cases hkey : key ∈ indexed <;> simp [hkey]

end

/-! ## Runs -/

def Bounded (capacity : Nat) (ended : ReactionReadModelData × List JsString) : Prop :=
  Consistent ended.2 ended.1 ∧ ended.1.cacheOrder.length ≤ capacity

theorem Bounded.of_eq {capacity : Nat} {state next : ReactionReadModelData}
    {seeded : List JsString} (h : Bounded capacity (state, seeded))
    (hcache : next.actorCache = state.actorCache) (horder : next.cacheOrder = state.cacheOrder)
    (hindex : next.parentIndex = state.parentIndex) : Bounded capacity (next, seeded) :=
  ⟨h.1.of_eq hcache horder hindex, by rw [horder]; exact h.2⟩

theorem Bounded.empty {capacity : Nat} {state : ReactionReadModelData} {seeded : List JsString}
    (h : Bounded capacity (state, seeded)) : Bounded capacity (emptyData, seeded) :=
  ⟨consistent_empty seeded h.1.key_ne_nil, Nat.zero_le _⟩

theorem Bounded.batch {capacity : Nat} {state : ReactionReadModelData} {seeded : List JsString}
    (h : Bounded capacity (state, seeded)) (stagedBatch : List StagedLegacyReactionIngress) :
    Bounded capacity
      (step capacity state (.applyStagedLegacyIngressBatch stagedBatch),
        noteSeeded capacity state seeded (.applyStagedLegacyIngressBatch stagedBatch)) := by
  rw [step, noteSeeded]
  cases hresult : applyStagedLegacyIngressBatch capacity stagedBatch state with
  | error message => exact h
  | ok next =>
      rcases applyBatch_cases hresult with ⟨rfl, rfl⟩ | ⟨principalId, -, hprincipal, rfl⟩
      · simpa [seededKeys, Except.toOption] using h
      · have hstart : Consistent seeded { state with normalizationViolations := [] } :=
          h.1.of_eq rfl rfl rfl
        exact consistent_evict capacity (hstart.foldl_applyStaged hprincipal)

theorem Bounded.clearParentScope {capacity : Nat} {state : ReactionReadModelData}
    {seeded : List JsString} (h : Bounded capacity (state, seeded)) (principalId : JsString)
    (parentScopeKey : SyncScopeKey) :
    Bounded capacity (clearParentScope principalId parentScopeKey state, seeded) := by
  refine ⟨h.1.clearParentScope principalId parentScopeKey, ?_⟩
  rw [ReactionReadModels.clearParentScope]
  split
  · exact h.2
  · exact (List.length_filter_le _ _).trans h.2

theorem Bounded.step {capacity : Nat} {state : ReactionReadModelData} {seeded : List JsString}
    (h : Bounded capacity (state, seeded)) (operation : Operation) :
    Bounded capacity
      (step capacity state operation, noteSeeded capacity state seeded operation) := by
  cases operation with
  | activatePrincipal principalId =>
      rw [ReactionReadModels.step, activatePrincipal]
      split
      · exact h
      · exact h.empty.of_eq rfl rfl rfl
  | applyStagedLegacyIngressBatch stagedBatch => exact h.batch stagedBatch
  | applyViewerOverlaySnapshot principalId snapshot =>
      rw [ReactionReadModels.step, applyViewerOverlaySnapshot]
      split <;> exact h.of_eq rfl rfl rfl
  | applyVersionedViewerOverlaySnapshot principalId raw =>
      simp only [ReactionReadModels.step, applyVersionedViewerOverlaySnapshot]
      repeat' split
      all_goals exact h.of_eq rfl rfl rfl
  | applyViewerReactionPatch principalId serverId messageId emoji reactedByMe =>
      rw [ReactionReadModels.step, applyViewerReactionPatch]
      split <;> exact h.of_eq rfl rfl rfl
  | clearViewerReactionPatch principalId serverId messageId emoji =>
      rw [ReactionReadModels.step, clearViewerReactionPatch]
      split <;> exact h.of_eq rfl rfl rfl
  | clearParentScope principalId parentScopeKey =>
      exact h.clearParentScope principalId parentScopeKey
  | reset => exact h.empty

theorem bounded_cacheRun (capacity : Nat) (operations : List Operation) :
    Bounded capacity (cacheRun capacity operations) :=
  run_invariant (Bounded capacity) operations
    (fun ended operation h => @Bounded.step capacity ended.1 ended.2 h operation)
    ⟨consistent_empty [] (by simp), Nat.zero_le _⟩

theorem get_clearParentScope {seeded : List JsString} {state : ReactionReadModelData}
    (h : Consistent seeded state) (principalId : JsString) (parentScopeKey : SyncScopeKey)
    (key : JsString) :
    (clearParentScope principalId parentScopeKey state).actorCache.get key =
      (state.actorCache.get key).filter fun entry =>
        ¬ (entry.principalId = principalId ∧
          entry.discussion.parentScopeKey = parentScopeKey) := by
  have hlisted : key ∈ members state.parentIndex (parentIndexKey principalId parentScopeKey) ↔
      ∃ entry, state.actorCache.get key = some entry ∧ entry.principalId = principalId ∧
        entry.discussion.parentScopeKey = parentScopeKey := by
    simp only [h.indexes.mem_members, entryParent, parentIndexKey_inj]
  have hcache : (clearParentScope principalId parentScopeKey state).actorCache.get key =
      if key ∈ members state.parentIndex (parentIndexKey principalId parentScopeKey) then none
      else state.actorCache.get key := by
    rw [clearParentScope]
    cases hindexed : state.parentIndex.get (parentIndexKey principalId parentScopeKey) with
    | none => simp [members, hindexed]
    | some indexed =>
        simp only [members, hindexed, InsertionMap.get_filterKeys, Option.getD_some]
        by_cases hmem : key ∈ indexed <;> simp [hmem]
  rw [hcache]
  cases hentry : state.actorCache.get key with
  | none => simp
  | some entry =>
      simp only [hentry, Option.some_inj, exists_eq_left'] at hlisted
      by_cases hmem : key ∈ members state.parentIndex (parentIndexKey principalId parentScopeKey)
      · rw [if_pos hmem, Option.filter_some, if_neg (by simpa using hlisted.mp hmem)]
      · rw [if_neg hmem, Option.filter_some,
          if_pos (decide_eq_true (hlisted.not.mp hmem))]

/-- In every reachable state the order lists the cached keys once, within the capacity and by
last seeding; the index is that of the cached entries; and clearing a parent scope removes the
entries seeded under it. -/
theorem actorCache_indexed (capacity : Nat) (operations : List Operation) :
    let state := (cacheRun capacity operations).1
    let seeded := (cacheRun capacity operations).2
    (state.cacheOrder.Nodup ∧ (∀ key, key ∈ state.cacheOrder ↔ key ∈ state.actorCache.keys)) ∧
      state.cacheOrder.length ≤ capacity ∧ state.cacheOrder.Sublist seeded.dedup ∧
      (∀ key entry, state.actorCache.get key = some entry →
        ∀ parentKey, key ∈ (state.parentIndex.get parentKey).getD ∅ ↔
          parentKey = parentIndexKey entry.principalId entry.discussion.parentScopeKey) ∧
      (∀ parentKey indexed, state.parentIndex.get parentKey = some indexed →
        indexed ≠ ∅ ∧ ∀ key ∈ indexed, key ∈ state.actorCache.keys) ∧
      ∀ principalId parentScopeKey key,
        (clearParentScope principalId parentScopeKey state).actorCache.get key =
          (state.actorCache.get key).filter fun entry =>
            ¬ (entry.principalId = principalId ∧
              entry.discussion.parentScopeKey = parentScopeKey) := by
  obtain ⟨hconsistent, hbound⟩ := bounded_cacheRun capacity operations
  refine ⟨⟨hconsistent.nodup, hconsistent.listed⟩, hbound, hconsistent.lastSeeded, ?_, ?_,
    fun principalId parentScopeKey key =>
      get_clearParentScope hconsistent principalId parentScopeKey key⟩
  · intro key entry hentry parentKey
    have hmem := hconsistent.indexes.mem_members parentKey key
    rw [hentry] at hmem
    simpa [members, entryParent, eq_comm] using hmem
  · intro parentKey indexed hindexed
    constructor
    · rintro rfl
      exact hconsistent.indexes.nonempty parentKey hindexed
    · intro key hkey
      have hmem := hconsistent.indexes.mem_members parentKey key
      rw [members, hindexed, Option.getD_some] at hmem
      obtain ⟨entry, hentry, -⟩ := hmem.mp hkey
      exact (InsertionMap.mem_keys_iff _ _).mpr ⟨entry, hentry⟩

end Raft.ReactionReadModels
