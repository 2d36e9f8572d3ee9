import Raft.SeenPolicy.FrontierWrites

/-!
# Restoring a frontier

A snapshot keeps each record under the key it was booked at, and restoring
books it at the key which that spelling resolves to.  The two agree as long as
no record with evidence lies under a spelling that is an alias of another.
-/

namespace Raft.SeenPolicy

open Raft.Foundation

/-! ## Calls -/

inductive FrontierCall where
  | setContext (contextId : Option JsString)
  | recordUpTo (view : Option (Option JsString)) (target : JsString) (seq : JsNumber)
  | recordExact (view : Option (Option JsString)) (target : JsString) (seqs : List JsNumber)
  | recordAlias (requested canonical : JsString)
  | absorb (snapshot : SeenFrontierSnapshot)

namespace SeenFrontier

def fromSnapshot (snapshot : SeenFrontierSnapshot) : SeenFrontier := fresh.absorb snapshot

variable (frontier : SeenFrontier)

/-- `inContext` with the context of a call, where it has one; `undefined` returns the frontier. -/
def view : Option (Option JsString) → SeenFrontier
  | none => frontier
  | some contextId => frontier.inContext contextId

/-- A call on the frontier or on a view of it; views share the records. -/
def call : FrontierCall → SeenFrontier
  | .setContext contextId => frontier.setContext contextId
  | .recordUpTo view target seq =>
      { frontier with core := ((frontier.view view).recordUpTo target seq).core }
  | .recordExact view target seqs =>
      { frontier with core := ((frontier.view view).recordExact target seqs).core }
  | .recordAlias requested canonical => frontier.recordAlias requested canonical
  | .absorb snapshot => frontier.absorb snapshot

/-- The restored frontier attests what the frontier does, for every spelling and in every
context. -/
def Restores : Prop :=
  ∀ queried target, ((fromSnapshot frontier.snapshot).view queried).attestation target =
    (frontier.view queried).attestation target

end SeenFrontier

/-! ## Restoring one record -/

namespace TargetState

def Vacant (state : TargetState) : Prop := state.upTo = none ∧ state.exact = ∅

instance (state : TargetState) : Decidable state.Vacant :=
  inferInstanceAs (Decidable (state.upTo = none ∧ state.exact = ∅))

def Tagged (state : TargetState) : Prop :=
  state.upToContext ≠ some [] ∧ state.exactContext ≠ some []

variable {state : TargetState}

theorem attest_of_vacant (h : state.Vacant) (context : Option JsString) :
    state.attest context = ⟨none, []⟩ := by
  rw [attest, h.1, h.2]
  simp

theorem ops_of_vacant (h : state.Vacant) : state.snapshot.ops = [] := by
  rw [snapshot, TargetSnapshot.ops, h.1, h.2]
  rfl

theorem filterMap_seqNumber (seqs : List ℕ+) :
    seqs.filterMap (fun seq => (seqNumber seq).positiveInteger) = seqs := by
  simp [seqNumber, JsNumber.positiveInteger_ofNat]

theorem ops_snapshot (h : state.Tagged) :
    state.snapshot.ops =
      (state.upTo.map fun seq => RecordOp.upTo seq state.upToContext).toList ++
        if state.exact = ∅ then []
        else [.exact (state.exact.sort (· ≤ ·)) state.exactContext] := by
  have hupTo := contextOrNull_eq h.1
  have hexact := contextOrNull_eq h.2
  rw [snapshot, TargetSnapshot.ops]
  cases state.upTo with
  | none =>
      by_cases hempty : state.exact = ∅
      · simp [hempty]
      · simp [hempty, hexact, filterMap_seqNumber]
  | some upTo =>
      have hseq : (seqNumber upTo).positiveInteger = some upTo :=
        JsNumber.positiveInteger_ofNat upTo
      by_cases hempty : state.exact = ∅
      · simp [hempty, hupTo, hseq]
      · simp [hempty, hupTo, hexact, hseq, filterMap_seqNumber]

theorem fresh_bookUpTo (seq : ℕ+) (context : Option JsString) :
    fresh.bookUpTo seq context = ⟨some seq, context, ∅, context⟩ := by
  simp [fresh, bookUpTo]

theorem attest_restored (hkept : state.Kept) (htagged : state.Tagged)
    (context : Option JsString) :
    (run RecordOp.apply fresh state.snapshot.ops).attest context = state.attest context := by
  have hbooked (prior : TargetState) (hprior : prior.exact = ∅) (hmark : ∀ seq ∈ state.exact,
      above (if prior.upToContext = state.exactContext then prior.upTo else none) seq = true) :
      prior.bookExact (state.exact.sort (· ≤ ·)) state.exactContext =
        ⟨prior.upTo, prior.upToContext, state.exact, state.exactContext⟩ := by
    refine TargetState.ext rfl rfl ?_ rfl
    rw [exact_bookExact, hprior, ite_self, Finset.empty_union, List.toFinset_filter,
      Finset.sort_toFinset, Finset.filter_true_of_mem hmark, newest_of_card_le hkept.bounded]
  rw [ops_snapshot htagged]
  cases hupTo : state.upTo with
  | none =>
      by_cases hempty : state.exact = ∅
      · rw [if_pos hempty, attest_of_vacant ⟨hupTo, hempty⟩]
        exact attest_of_vacant ⟨rfl, rfl⟩ context
      · rw [if_neg hempty]
        simp only [Option.map_none, Option.toList_none, List.nil_append, run_cons, run_nil,
          RecordOp.apply]
        rw [hbooked fresh rfl fun seq _ => by rw [fresh, ite_self]; rfl]
        rw [attest, attest, hupTo, fresh, ite_self, ite_self]
  | some upTo =>
      by_cases hempty : state.exact = ∅
      · rw [if_pos hempty]
        simp only [Option.map_some, Option.toList_some, List.append_nil, run_cons, run_nil,
          RecordOp.apply, fresh_bookUpTo]
        simp [attest, hupTo, hempty]
      · rw [if_neg hempty]
        simp only [Option.map_some, Option.toList_some, List.cons_append, List.nil_append, run_cons,
          run_nil, RecordOp.apply, fresh_bookUpTo]
        rw [hbooked _ rfl fun seq hseq => ?_]
        · simp [attest, hupTo]
        · split
          · next hcontext => exact hupTo ▸ hkept.retired hcontext.symm seq hseq
          · rfl

end TargetState

/-! ## Restoring the records -/

section Snapshots

open SeenFrontier

variable {frontier : SeenFrontier}

theorem get_targets_snapshot (key : JsString) :
    frontier.snapshot.targets.get key =
      if key = js "__proto__" then none
      else (frontier.core.targets.get key).map TargetState.snapshot := by
  set entries := (frontier.core.targets.entries.filter fun entry =>
    entry.1 ≠ js "__proto__").map fun entry => (entry.1, entry.2.snapshot) with hentries
  have htargets : frontier.snapshot.targets = InsertionMap.empty.setAll entries := by
    rw [hentries, InsertionMap.setAll, List.foldl_map, List.foldl_filter]
    simp only [snapshot, assignOwn, decide_not, Bool.not_eq_true', decide_eq_false_iff_not,
      ite_not]
  have hkeys : entries.map Prod.fst = (frontier.core.targets.entries.filter fun entry =>
      entry.1 ≠ js "__proto__").map Prod.fst := by
    rw [hentries, List.map_map]
    rfl
  have hnodup : (entries.map Prod.fst).Nodup := by
    rw [hkeys]
    exact frontier.core.targets.nodup.sublist (List.filter_sublist.map Prod.fst)
  have habsent (h : ∀ state, (key, state) ∈ frontier.core.targets.entries →
      key = js "__proto__") : frontier.snapshot.targets.get key = none := by
    rw [htargets, InsertionMap.get_setAll_of_notMem]
    · rfl
    · rw [hkeys]
      intro hmem
      obtain ⟨⟨_, state⟩, hentry, rfl⟩ := List.mem_map.mp hmem
      obtain ⟨hmem, hne⟩ := List.mem_filter.mp hentry
      exact of_decide_eq_true hne (h state hmem)
  by_cases hproto : key = js "__proto__"
  · rw [if_pos hproto, habsent fun _ _ => hproto]
  · rw [if_neg hproto]
    cases hget : frontier.core.targets.get key with
    | none =>
        refine habsent fun state hmem => ?_
        rw [InsertionMap.mem_entries_iff, hget] at hmem
        cases hmem
    | some state =>
        rw [htargets, Option.map_some]
        refine InsertionMap.get_setAll_of_mem hnodup (List.mem_map.mpr ⟨(key, state), ?_, rfl⟩)
        exact List.mem_filter.mpr ⟨(InsertionMap.mem_entries_iff _ _ _).mpr hget,
          by simpa using hproto⟩

variable {aliases : InsertionMap JsString JsString}

def entryWrites (aliases : InsertionMap JsString JsString) (entry : JsString × TargetSnapshot) :
    List (JsString × RecordOp) :=
  entry.2.ops.map fun op => ((aliases.get entry.1).getD entry.1, op)

theorem opsFor_append (key : JsString) (first second : List (JsString × RecordOp)) :
    opsFor key (first ++ second) = opsFor key first ++ opsFor key second :=
  List.filterMap_append

theorem opsFor_entryWrites {entry : JsString × TargetSnapshot}
    (hown : entry.2.ops ≠ [] → aliases.get entry.1 = none) (key : JsString) :
    opsFor key (entryWrites aliases entry) = if entry.1 = key then entry.2.ops else [] := by
  by_cases hops : entry.2.ops = []
  · simp [entryWrites, opsFor, hops]
  · rw [entryWrites, opsFor, hown hops, Option.getD_none, List.filterMap_map]
    by_cases hkey : entry.1 = key
    · simp [hkey]
    · simp [hkey]

theorem opsFor_flatMap {entries : List (JsString × TargetSnapshot)}
    (hown : ∀ entry ∈ entries, entry.2.ops ≠ [] → aliases.get entry.1 = none) (key : JsString) :
    opsFor key (entries.flatMap (entryWrites aliases)) =
      entries.flatMap fun entry => if entry.1 = key then entry.2.ops else [] := by
  induction entries with
  | nil => rfl
  | cons entry entries ih =>
      rw [List.flatMap_cons, opsFor_append, opsFor_entryWrites (hown entry List.mem_cons_self),
        ih fun other hother => hown other (List.mem_cons_of_mem _ hother), List.flatMap_cons]

theorem flatMap_of_notMem {entries : List (JsString × TargetSnapshot)} {key : JsString}
    (h : key ∉ entries.map Prod.fst) :
    (entries.flatMap fun entry => if entry.1 = key then entry.2.ops else []) = [] := by
  refine List.flatMap_eq_nil_iff.mpr fun entry hentry => if_neg ?_
  rintro rfl
  exact h (List.mem_map_of_mem hentry)

theorem flatMap_of_mem {entries : List (JsString × TargetSnapshot)} {key : JsString}
    {snapshot : TargetSnapshot} (hnodup : (entries.map Prod.fst).Nodup)
    (h : (key, snapshot) ∈ entries) :
    (entries.flatMap fun entry => if entry.1 = key then entry.2.ops else []) = snapshot.ops := by
  induction entries with
  | nil => cases h
  | cons entry entries ih =>
      rw [List.map_cons, List.nodup_cons] at hnodup
      rw [List.flatMap_cons]
      rcases List.mem_cons.mp h with rfl | htail
      · rw [if_pos rfl, flatMap_of_notMem hnodup.1, List.append_nil]
      · have hne : entry.1 ≠ key := fun heq =>
          hnodup.1 (List.mem_map.mpr ⟨_, htail, heq.symm⟩)
        rw [if_neg hne, List.nil_append, ih hnodup.2 htail]

end Snapshots

/-! ## Restorable frontiers -/

/-- No record with evidence lies under an alias or where a snapshot cannot list it. -/
structure SeenFrontier.Restorable (frontier : SeenFrontier) : Prop where
  unbound : frontier.bound = none
  context : frontier.core.context ≠ some []
  aliases : ∀ requested canonical, frontier.core.aliases.get requested = some canonical →
    SeenFrontier.IsAlias (requested, canonical)
  kept : ∀ key, (frontier.state key).Kept
  tagged : ∀ key, (frontier.state key).Tagged
  owned : ∀ key, ¬ (frontier.state key).Vacant →
    frontier.core.aliases.get key = none ∧ key ≠ js "__proto__"

namespace SeenFrontier

variable {frontier : SeenFrontier}

theorem attestation_eq (frontier : SeenFrontier) (target : JsString) :
    frontier.attestation target =
      (frontier.state (frontier.canonical target)).attest frontier.contextId := by
  rw [attestation, state]
  cases frontier.core.targets.get (frontier.canonical target) with
  | none => exact (TargetState.attest_of_vacant ⟨rfl, rfl⟩ _).symm
  | some state => rfl

theorem get_aliasesOver_snapshot (h : frontier.Restorable) (requested : JsString) :
    (frontier.snapshot.aliasesOver .empty).get requested =
      frontier.core.aliases.get requested := by
  have hall : ((ownEntries frontier.core.aliases).filter fun entry => IsAlias entry) =
      ownEntries frontier.core.aliases := by
    refine List.filter_eq_self.mpr fun entry hentry => decide_eq_true ?_
    exact h.aliases _ _ ((InsertionMap.mem_entries_iff _ _ _).mp (mem_ownEntries.mp hentry))
  have haliases : frontier.snapshot.aliases = frontier.core.aliases := rfl
  rw [SeenFrontierSnapshot.aliasesOver, haliases, hall]
  cases hget : frontier.core.aliases.get requested with
  | none =>
      rw [InsertionMap.get_setAll_of_notMem]
      · rfl
      · rw [((ownEntries_perm _).map Prod.fst).mem_iff]
        exact (InsertionMap.get_eq_none_iff _ _).mp hget
  | some canonical =>
      exact InsertionMap.get_setAll_of_mem (nodup_ownEntries _)
        (mem_ownEntries.mpr ((InsertionMap.mem_entries_iff _ _ _).mpr hget))

theorem opsFor_writes_snapshot (h : frontier.Restorable) (key : JsString) :
    opsFor key (frontier.snapshot.writes (frontier.snapshot.aliasesOver .empty)) =
      (frontier.state key).snapshot.ops := by
  have hwrites : frontier.snapshot.writes (frontier.snapshot.aliasesOver .empty) =
      (ownEntries frontier.snapshot.targets).flatMap
        (entryWrites (frontier.snapshot.aliasesOver .empty)) := rfl
  have hlisted {entry : JsString × TargetSnapshot}
      (hentry : entry ∈ ownEntries frontier.snapshot.targets) :
      entry.2 = (frontier.state entry.1).snapshot := by
    have hget := (InsertionMap.mem_entries_iff _ _ _).mp (mem_ownEntries.mp hentry)
    rw [get_targets_snapshot] at hget
    split at hget
    · cases hget
    · obtain ⟨state, hstate, hsnapshot⟩ := Option.map_eq_some_iff.mp hget
      rw [← hsnapshot, SeenFrontier.state, hstate, Option.getD_some]
  rw [hwrites, opsFor_flatMap fun entry hentry hops => ?_]
  · by_cases hmem : key ∈ (ownEntries frontier.snapshot.targets).map Prod.fst
    · obtain ⟨entry, hentry, rfl⟩ := List.mem_map.mp hmem
      rw [flatMap_of_mem (nodup_ownEntries _) hentry, hlisted hentry]
    · rw [flatMap_of_notMem hmem, TargetState.ops_of_vacant]
      by_contra hvacant
      rw [((ownEntries_perm _).map Prod.fst).mem_iff] at hmem
      have hget := (InsertionMap.get_eq_none_iff _ _).mpr hmem
      rw [get_targets_snapshot, if_neg (h.owned key hvacant).2, Option.map_eq_none_iff] at hget
      rw [SeenFrontier.state, hget] at hvacant
      exact hvacant ⟨rfl, rfl⟩
  · rw [get_aliasesOver_snapshot h]
    refine (h.owned entry.1 fun hvacant => hops ?_).1
    rw [hlisted hentry, TargetState.ops_of_vacant hvacant]

theorem restores_of_restorable (h : frontier.Restorable) : frontier.Restores := by
  intro queried target
  have habsorb := @absorb_eq fresh frontier.snapshot
  have hnone : fresh.core.context = none := rfl
  simp only [hnone, if_true] at habsorb
  obtain ⟨hbooked, -, hbound⟩ := @run_writeOp_frame
    (fresh.withAliases (frontier.snapshot.aliasesOver fresh.core.aliases))
    (frontier.snapshot.writes (frontier.snapshot.aliasesOver fresh.core.aliases))
  have haliases (requested : JsString) :
      (fromSnapshot frontier.snapshot).core.aliases.get requested =
        frontier.core.aliases.get requested := by
    rw [fromSnapshot, habsorb]
    exact (congrArg (InsertionMap.get · requested) hbooked).trans
      (get_aliasesOver_snapshot h requested)
  have hcontext : (fromSnapshot frontier.snapshot).core.context = frontier.core.context := by
    rw [fromSnapshot, habsorb]
    exact contextOrNull_eq h.context
  have hfree : (fromSnapshot frontier.snapshot).bound = none := by
    rw [fromSnapshot, habsorb]
    exact hbound
  have hstate (key : JsString) : (fromSnapshot frontier.snapshot).state key =
      run RecordOp.apply TargetState.fresh (frontier.state key).snapshot.ops := by
    rw [fromSnapshot, habsorb, ← opsFor_writes_snapshot h]
    exact state_run_writeOp _
  rw [attestation_eq, attestation_eq]
  have hkey : ((fromSnapshot frontier.snapshot).view queried).canonical target =
      (frontier.view queried).canonical target := by
    cases queried <;> exact congrArg (Option.getD · target) (haliases target)
  have hasked : ((fromSnapshot frontier.snapshot).view queried).contextId =
      (frontier.view queried).contextId := by
    cases queried with
    | none => rw [view, view, contextId, contextId, hfree, h.unbound, hcontext]
    | some contextId => rfl
  have hanswers (key : JsString) (context : Option JsString) :
      ((fromSnapshot frontier.snapshot).state key).attest context =
        (frontier.state key).attest context := by
    rw [hstate]
    exact TargetState.attest_restored (h.kept key) (h.tagged key) context
  rw [hkey, hasked]
  cases queried <;> exact hanswers _ _

end SeenFrontier

/-! ## Calls that keep a frontier restorable -/

def FrontierCall.aliases : FrontierCall → List (JsString × JsString)
  | .recordAlias requested canonical => [(requested, canonical)]
  | .absorb snapshot => ownEntries snapshot.aliases
  | .setContext _ | .recordUpTo _ _ _ | .recordExact _ _ _ => []

def RecordOp.context : RecordOp → Option JsString
  | .upTo _ context | .exact _ context => context

namespace SeenFrontier

variable (frontier : SeenFrontier)

def aliasesAfter (call : FrontierCall) : InsertionMap JsString JsString :=
  frontier.core.aliases.setAll (call.aliases.filter fun entry => IsAlias entry)

/-- The bookings of a call, each under the key it goes to. -/
def callWrites : FrontierCall → List (JsString × RecordOp)
  | .recordUpTo view target seq =>
      (seq.positiveInteger.map fun seq =>
        (frontier.canonical target, RecordOp.upTo seq (frontier.view view).contextId)).toList
  | .recordExact view target seqs =>
      [(frontier.canonical target, .exact (seqs.filterMap JsNumber.positiveInteger)
        (frontier.view view).contextId)]
  | .absorb snapshot => snapshot.writes (snapshot.aliasesOver frontier.core.aliases)
  | .setContext _ | .recordAlias _ _ => []

/-- No spelling that holds evidence becomes an alias, and no evidence is booked under an alias or
where a snapshot cannot list it. -/
structure KeepsKeys (call : FrontierCall) : Prop where
  aliases : ∀ entry ∈ call.aliases, IsAlias entry → (frontier.state entry.1).Vacant
  owned : ∀ write ∈ frontier.callWrites call, write.2.Books →
    (frontier.aliasesAfter call).get write.1 = none ∧ write.1 ≠ js "__proto__"

def withContext (context : Option JsString) : SeenFrontier :=
  { frontier with core := { frontier.core with context := context } }

theorem contextOrNull_ne (context : Option JsString) : contextOrNull context ≠ some [] := by
  intro h
  exact absurd (Option.filter_eq_some_iff.mp h).2 (by simp)

theorem call_eq (hcontext : frontier.core.context ≠ some []) (call : FrontierCall) :
    ∃ context, context ≠ some [] ∧ frontier.call call =
      (run writeOp (frontier.withAliases (frontier.aliasesAfter call))
        (frontier.callWrites call)).withContext context := by
  have hkeep (writes : List (JsString × RecordOp))
      (aliases : InsertionMap JsString JsString) :
      run writeOp (frontier.withAliases aliases) writes =
        (run writeOp (frontier.withAliases aliases) writes).withContext frontier.core.context := by
    obtain ⟨-, hsame, -⟩ := @run_writeOp_frame (frontier.withAliases aliases) writes
    rw [withContext, show frontier.core.context = _ from hsame.symm]
  cases call with
  | setContext contextId => exact ⟨contextOrNull contextId, contextOrNull_ne _, rfl⟩
  | recordUpTo view target seq =>
      refine ⟨frontier.core.context, hcontext, ?_⟩
      cases view <;> cases hseq : seq.positiveInteger <;>
        simp only [SeenFrontier.call, SeenFrontier.view, recordUpTo, hseq, callWrites] <;> rfl
  | recordExact view target seqs =>
      refine ⟨frontier.core.context, hcontext, ?_⟩
      cases view <;> rfl
  | recordAlias requested canonical =>
      refine ⟨frontier.core.context, hcontext, ?_⟩
      have halias : frontier.call (.recordAlias requested canonical) =
          [(requested, canonical)].foldl
            (fun frontier entry => frontier.recordAlias entry.1 entry.2) frontier := rfl
      rw [halias, recordAliases_eq]
      rfl
  | absorb snapshot =>
      rw [SeenFrontier.call, absorb_eq]
      simp only
      split
      · exact ⟨contextOrNull snapshot.contextId, contextOrNull_ne _, rfl⟩
      · exact ⟨frontier.core.context, hcontext, hkeep _ _⟩

section Steps

variable {frontier : SeenFrontier} {call : FrontierCall}

theorem tagged_run {state : TargetState} {ops : List RecordOp} (h : state.Tagged)
    (hops : ∀ op ∈ ops, op.context ≠ some []) : (run RecordOp.apply state ops).Tagged := by
  induction ops generalizing state with
  | nil => exact h
  | cons op ops ih =>
      refine ih ?_ fun other hother => hops other (List.mem_cons_of_mem _ hother)
      have hop := hops op List.mem_cons_self
      cases op with
      | upTo seq context => exact ⟨hop, hop⟩
      | exact seqs context => exact ⟨h.1, hop⟩

theorem vacant_run {state : TargetState} {ops : List RecordOp} (h : state.Vacant)
    (hops : ∀ op ∈ ops, ¬ op.Books) : (run RecordOp.apply state ops).Vacant := by
  induction ops generalizing state with
  | nil => exact h
  | cons op ops ih =>
      refine ih ?_ fun other hother => hops other (List.mem_cons_of_mem _ hother)
      have hop := hops op List.mem_cons_self
      cases op with
      | upTo seq context => exact absurd trivial hop
      | exact seqs context =>
          have hseqs : seqs = [] := not_not.mp hop
          refine ⟨h.1, ?_⟩
          rw [RecordOp.apply, exact_bookExact, h.2, hseqs]
          simp [newest]

theorem mem_opsFor {key : JsString} {writes : List (JsString × RecordOp)} {op : RecordOp} :
    op ∈ opsFor key writes ↔ (key, op) ∈ writes := by
  rw [opsFor, List.mem_filterMap]
  constructor
  · rintro ⟨⟨other, found⟩, hmem, hop⟩
    split at hop
    · next hkey =>
        cases hop
        exact hkey ▸ hmem
    · cases hop
  · exact fun hmem => ⟨(key, op), hmem, if_pos rfl⟩

theorem view_contextId_ne (h : frontier.Restorable) (queried : Option (Option JsString)) :
    (frontier.view queried).contextId ≠ some [] := by
  cases queried with
  | none =>
      rw [view, contextId, h.unbound]
      exact h.context
  | some contextId => exact contextOrNull_ne contextId

theorem context_snapshot_ops {snapshot : TargetSnapshot} {op : RecordOp} (h : op ∈ snapshot.ops) :
    op.context ≠ some [] := by
  rcases List.mem_append.mp h with hupTo | hexact
  · obtain ⟨seq, -, rfl⟩ := Option.map_eq_some_iff.mp (Option.mem_toList.mp hupTo)
    exact contextOrNull_ne _
  · obtain ⟨seqs, -, rfl⟩ := Option.map_eq_some_iff.mp (Option.mem_toList.mp hexact)
    exact contextOrNull_ne _

theorem context_callWrites (h : frontier.Restorable) {write : JsString × RecordOp}
    (hwrite : write ∈ frontier.callWrites call) : write.2.context ≠ some [] := by
  cases call with
  | setContext contextId => cases hwrite
  | recordUpTo queried target seq =>
      obtain ⟨seq, -, rfl⟩ := Option.map_eq_some_iff.mp (Option.mem_toList.mp hwrite)
      exact view_contextId_ne h queried
  | recordExact queried target seqs =>
      rw [List.mem_singleton.mp hwrite]
      exact view_contextId_ne h queried
  | recordAlias requested canonical => cases hwrite
  | absorb snapshot =>
      obtain ⟨entry, -, hentry⟩ := List.mem_flatMap.mp hwrite
      obtain ⟨op, hop, rfl⟩ := List.mem_map.mp hentry
      exact context_snapshot_ops hop

theorem get_aliasesAfter_eq_some {requested canonical : JsString}
    (h : (frontier.aliasesAfter call).get requested = some canonical) :
    (IsAlias (requested, canonical) ∧ (requested, canonical) ∈ call.aliases) ∨
      frontier.core.aliases.get requested = some canonical := by
  rw [aliasesAfter] at h
  generalize hlisted : (call.aliases.filter fun entry => IsAlias entry) = listed at h
  have hmem {entry : JsString × JsString} (hentry : entry ∈ listed) :
      IsAlias entry ∧ entry ∈ call.aliases := by
    rw [← hlisted] at hentry
    exact ⟨of_decide_eq_true (List.mem_filter.mp hentry).2, (List.mem_filter.mp hentry).1⟩
  clear hlisted
  induction listed using List.reverseRecOn with
  | nil => exact Or.inr h
  | append_singleton listed last ih =>
      rw [InsertionMap.setAll, List.foldl_concat, InsertionMap.get_set] at h
      split at h
      · next hkey =>
          cases h
          rw [hkey]
          exact Or.inl (hmem (List.mem_append_right _ (List.mem_singleton_self _)))
      · exact ih h fun hentry => hmem (List.mem_append_left _ hentry)

theorem restorable_call (h : frontier.Restorable) (hcall : frontier.KeepsKeys call) :
    (frontier.call call).Restorable := by
  obtain ⟨context, hcontext, heq⟩ := call_eq frontier h.context call
  obtain ⟨haliases, -, hbound⟩ :=
    @run_writeOp_frame (frontier.withAliases (frontier.aliasesAfter call))
      (frontier.callWrites call)
  have hstate (key : JsString) : (frontier.call call).state key =
      run RecordOp.apply (frontier.state key) (opsFor key (frontier.callWrites call)) := by
    rw [heq]
    exact state_run_writeOp _
  have hafter : (frontier.call call).core.aliases = frontier.aliasesAfter call := by
    rw [heq]
    exact haliases
  refine ⟨?_, ?_, fun requested canonical hget => ?_, fun key => ?_, fun key => ?_,
    fun key hvacant => ?_⟩
  · rw [heq]
    exact hbound.trans h.unbound
  · rw [heq]
    exact hcontext
  · rw [hafter] at hget
    rcases get_aliasesAfter_eq_some hget with ⟨halias, -⟩ | hold
    · exact halias
    · exact h.aliases _ _ hold
  · rw [hstate]
    exact (h.kept key).run _
  · rw [hstate]
    exact tagged_run (h.tagged key) fun op hop => context_callWrites h (mem_opsFor.mp hop)
  · rw [hafter]
    by_cases hbefore : (frontier.state key).Vacant
    · rw [hstate] at hvacant
      by_cases hbooks : ∃ op ∈ opsFor key (frontier.callWrites call), op.Books
      · obtain ⟨op, hop, hbook⟩ := hbooks
        exact hcall.owned _ (mem_opsFor.mp hop) hbook
      · push Not at hbooks
        exact absurd (vacant_run hbefore hbooks) hvacant
    · refine ⟨Option.eq_none_iff_forall_ne_some.mpr fun canonical hget => ?_,
        (h.owned key hbefore).2⟩
      rcases get_aliasesAfter_eq_some hget with ⟨halias, hmem⟩ | hold
      · exact hbefore (hcall.aliases _ hmem halias)
      · rw [(h.owned key hbefore).1] at hold
        cases hold

end Steps

end SeenFrontier

/-! ## Runs -/

section Runs

open SeenFrontier

theorem restorable_fresh : SeenFrontier.fresh.Restorable where
  unbound := rfl
  context := nofun
  aliases := fun _ _ hget => by cases hget
  kept := fun _ => ⟨fun _ _ hseq => (Finset.notMem_empty _ hseq).elim, Nat.zero_le _⟩
  tagged := fun _ => ⟨nofun, nofun⟩
  owned := fun _ hvacant => absurd ⟨rfl, rfl⟩ hvacant

theorem kept_call {frontier : SeenFrontier} (hcontext : frontier.core.context ≠ some [])
    (hkept : ∀ key, (frontier.state key).Kept) (call : FrontierCall) :
    (frontier.call call).core.context ≠ some [] ∧
      ∀ key, ((frontier.call call).state key).Kept := by
  obtain ⟨context, hnext, heq⟩ := call_eq frontier hcontext call
  rw [heq]
  refine ⟨hnext, fun key => ?_⟩
  have hstate := @state_run_writeOp (frontier.withAliases (frontier.aliasesAfter call)) key
    (frontier.callWrites call)
  exact hstate ▸ (hkept key).run _

theorem kept_run (calls : List FrontierCall) :
    (run SeenFrontier.call .fresh calls).core.context ≠ some [] ∧
      ∀ key, ((run SeenFrontier.call .fresh calls).state key).Kept := by
  induction calls using List.reverseRecOn with
  | nil => exact ⟨restorable_fresh.context, restorable_fresh.kept⟩
  | append_singleton calls call ih =>
      rw [run_concat]
      exact kept_call ih.1 ih.2 call

/-- A run that keeps evidence out from under aliases reaches frontiers that their snapshots
restore, and in every run absorbing a snapshot again changes nothing. -/
theorem snapshot_restores (calls : List FrontierCall) :
    (Admitted SeenFrontier.call KeepsKeys .fresh calls →
      ∀ before, before <+: calls → (run SeenFrontier.call .fresh before).Restores) ∧
    ∀ snapshot, ((run SeenFrontier.call .fresh calls).absorb snapshot).absorb snapshot =
      (run SeenFrontier.call .fresh calls).absorb snapshot := by
  refine ⟨fun hcalls before hstart => restores_of_restorable ?_, fun snapshot =>
    absorb_absorb snapshot (kept_run calls).2⟩
  have hbefore := hcalls.of_initial hstart
  clear hcalls hstart
  induction before using List.reverseRecOn with
  | nil => exact restorable_fresh
  | append_singleton before call ih =>
      obtain ⟨hrun, hcall⟩ := admitted_concat.mp hbefore
      rw [run_concat]
      exact restorable_call (ih hrun) hcall

def aliasedEarly : List FrontierCall :=
  [.setContext (some (js "A")), .recordAlias (js "#A") (js "#a"),
    .recordUpTo none (js "#A") (.ofNat 5),
    .recordExact (some (some (js "B"))) (js "#a") [.ofNat 9, .ofNat 7]]

theorem snapshot_restores_aliasedEarly :
    (run SeenFrontier.call .fresh aliasedEarly).Restores := by
  have hcalls : Admitted SeenFrontier.call KeepsKeys .fresh aliasedEarly :=
    ⟨⟨by decide, by decide⟩, ⟨by decide, by decide⟩, ⟨by decide, by decide⟩,
      ⟨by decide, by decide⟩, trivial⟩
  exact (snapshot_restores aliasedEarly).1 hcalls _ (List.prefix_refl _)

/-- Evidence is booked for a spelling before the spelling becomes an alias. -/
def aliasedLate : List FrontierCall :=
  [.recordUpTo none (js "#A") (.ofNat 5), .recordAlias (js "#A") (js "#a")]

/-- The frontier attests no mark for the canonical spelling, and the restored one the mark 5. -/
theorem aliased_late_not_restored :
    ((run SeenFrontier.call .fresh aliasedLate).attestation (js "#a")).seenUpToSeq = none ∧
      ((fromSnapshot (run SeenFrontier.call .fresh aliasedLate).snapshot).attestation
        (js "#a")).seenUpToSeq = some 5 ∧
      ¬ (run SeenFrontier.call .fresh aliasedLate).Restores := by
  have hbefore :
      ((run SeenFrontier.call .fresh aliasedLate).attestation (js "#a")).seenUpToSeq = none := by
    decide
  have hafter : ((fromSnapshot (run SeenFrontier.call .fresh aliasedLate).snapshot).attestation
      (js "#a")).seenUpToSeq = some 5 := by
    decide
  refine ⟨hbefore, hafter, fun hrestores => ?_⟩
  have hsame := congrArg SeenAttestation.seenUpToSeq (hrestores none (js "#a"))
  rw [view, view, hbefore, hafter] at hsame
  exact absurd hsame (by decide)

end Runs

end Raft.SeenPolicy
