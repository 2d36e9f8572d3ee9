import Raft.Foundation.ScopedRegister
import Raft.SeenPolicy.FrontierSnapshot
import Raft.SeenPolicy.Mirror

/-!
# What a snapshot writes

Absorbing a snapshot writes its aliases and then books each record under the
key its target has by then.  A record is what two scoped registers show of
themselves, one for the mark and one for the exact seqs, so booking the same
list again changes nothing.
-/

namespace Raft.SeenPolicy

open Raft.Foundation

/-! ## Bookings of one record -/

inductive RecordOp where
  | upTo (seq : ℕ+) (context : Option JsString)
  | exact (seqs : List ℕ+) (context : Option JsString)

namespace RecordOp

def apply (state : TargetState) : RecordOp → TargetState
  | .upTo seq context => state.bookUpTo seq context
  | .exact seqs context => state.bookExact seqs context

def Books : RecordOp → Prop
  | .upTo _ _ => True
  | .exact seqs _ => seqs ≠ []

instance decidableBooks (op : RecordOp) : Decidable op.Books :=
  match op with
  | .upTo _ _ => isTrue trivial
  | .exact seqs _ => inferInstanceAs (Decidable (seqs ≠ []))

abbrev UpToRegister := ScopedRegister (Option ℕ+) (Option JsString)

abbrev ExactRegister := ScopedRegister (Finset ℕ+) (Option JsString)

def upToOffers : RecordOp → List (Option ℕ+ × Option JsString)
  | .upTo seq context => [(some seq, context)]
  | .exact _ _ => []

def exactOffer : RecordOp → Finset ℕ+ × Option JsString
  | .upTo _ context => (∅, context)
  | .exact seqs context => (seqs.toFinset, context)

/-- The record shows the newest exact seqs above the mark of their context. -/
def shown (upTo : UpToRegister) (exact : ExactRegister) : TargetState where
  upTo := upTo.value
  upToContext := upTo.scope
  exact := newest MAX_EXACT_SEQS_PER_TARGET (exact.value.filter fun seq =>
    TargetState.above (if upTo.scope = exact.scope then upTo.value else none) seq)
  exactContext := exact.scope

def offerUpTo (register : UpToRegister) (offered : Option ℕ+ × Option JsString) : UpToRegister :=
  register.offer (Option.merge max) offered

def offerExact (register : ExactRegister) (offered : Finset ℕ+ × Option JsString) :
    ExactRegister :=
  register.offer (fun held added => held ∪ added) offered

section Shown

variable {upTo : UpToRegister} {exact : ExactRegister}

theorem above_mono {first second : ℕ+} (hle : first ≤ second) (mark : Option ℕ+)
    (h : TargetState.above mark first = true) : TargetState.above mark second = true := by
  cases mark with
  | none => rfl
  | some mark =>
      simp only [TargetState.above, Option.all_some, decide_eq_true_eq] at h ⊢
      exact lt_of_lt_of_le h hle

theorem upTo_bookUpTo (state : TargetState) (seq : ℕ+) (context : Option JsString) :
    (state.bookUpTo seq context).upTo =
      (offerUpTo ⟨state.upTo, state.upToContext⟩ (some seq, context)).value := by
  rw [offerUpTo, ScopedRegister.offer, TargetState.bookUpTo]
  cases hupTo : state.upTo with
  | none => simp
  | some mark =>
      by_cases hcontext : state.upToContext = context
      · by_cases hgreater : seq > mark
        · simp [hcontext, hgreater, max_eq_right hgreater.le]
        · simp [hcontext, hgreater, max_eq_left (not_lt.mp hgreater)]
      · simp [hcontext]

theorem upTo_le_upTo_bookUpTo (state : TargetState) (seq : ℕ+) (context : Option JsString)
    (hcontext : state.upToContext = context) {other : ℕ+}
    (h : TargetState.above (state.bookUpTo seq context).upTo other = true) :
    TargetState.above state.upTo other = true := by
  rw [upTo_bookUpTo, offerUpTo, ScopedRegister.offer, if_pos hcontext] at h
  cases hupTo : state.upTo with
  | none => rfl
  | some mark =>
      rw [hupTo] at h
      simp only [Option.merge_some_some, TargetState.above, Option.all_some,
        decide_eq_true_eq] at h ⊢
      exact (max_lt_iff.mp h).1

theorem exact_bookUpTo (state : TargetState) (seq : ℕ+) (context : Option JsString) :
    (state.bookUpTo seq context).exact =
      (if state.exactContext ≠ context then ∅ else state.exact).filter fun other =>
        TargetState.above (state.bookUpTo seq context).upTo other := by
  rw [TargetState.bookUpTo]
  simp only [TargetState.above, Option.all_some, gt_iff_lt, decide_eq_true_eq, not_le]
  congr 1
  by_cases hcontext : state.exactContext = context
  · simp [hcontext]
  · by_cases hempty : state.exact = ∅
    · simp [hempty]
    · simp [hcontext, Finset.card_pos, Finset.nonempty_iff_ne_empty, hempty]

theorem shown_bookUpTo (seq : ℕ+) (context : Option JsString) :
    (shown upTo exact).bookUpTo seq context =
      shown (offerUpTo upTo (some seq, context)) (offerExact exact (∅, context)) := by
  have hupTo : ((shown upTo exact).bookUpTo seq context).upTo =
      (offerUpTo upTo (some seq, context)).value := upTo_bookUpTo _ _ _
  refine TargetState.ext hupTo rfl ?_ rfl
  have hshown : (shown (offerUpTo upTo (some seq, context)) (offerExact exact (∅, context))).exact =
      newest MAX_EXACT_SEQS_PER_TARGET ((if exact.scope = context then exact.value else ∅).filter
        fun other => TargetState.above (offerUpTo upTo (some seq, context)).value other) := by
    simp [shown, offerUpTo, offerExact, ScopedRegister.offer]
  rw [exact_bookUpTo, hshown, hupTo]
  by_cases hscope : exact.scope = context
  · have hcontext : (shown upTo exact).exactContext = context := hscope
    rw [if_neg (not_not.mpr hcontext), if_pos hscope, shown,
      filter_newest fun _ _ hle => above_mono hle _, Finset.filter_filter]
    congr 1
    refine Finset.filter_congr fun other _ => and_iff_right_of_imp fun habove => ?_
    split
    · next hupToScope =>
        rw [← hupTo] at habove
        exact upTo_le_upTo_bookUpTo (shown upTo exact) seq context (hupToScope.trans hscope) habove
    · rfl
  · have hcontext : (shown upTo exact).exactContext ≠ context := hscope
    rw [if_pos hcontext, if_neg hscope]
    simp [newest]

theorem shown_bookExact (seqs : List ℕ+) (context : Option JsString) :
    (shown upTo exact).bookExact seqs context =
      shown upTo (offerExact exact (seqs.toFinset, context)) := by
  refine TargetState.ext rfl rfl ?_ rfl
  have hshown : (shown upTo (offerExact exact (seqs.toFinset, context))).exact =
      newest MAX_EXACT_SEQS_PER_TARGET
        (((if exact.scope = context then exact.value else ∅) ∪ seqs.toFinset).filter fun other =>
          TargetState.above (if upTo.scope = context then upTo.value else none) other) := by
    by_cases hscope : exact.scope = context
    · simp [shown, offerExact, ScopedRegister.offer, hscope]
    · simp [shown, offerExact, ScopedRegister.offer, hscope]
  rw [exact_bookExact, hshown, Finset.filter_union, List.toFinset_filter]
  by_cases hscope : exact.scope = context
  · have hcontext : (shown upTo exact).exactContext = context := hscope
    rw [if_neg (not_not.mpr hcontext), if_pos hscope, shown, Finset.union_comm, hscope,
      newest_union_newest, Finset.union_comm]
  · have hcontext : (shown upTo exact).exactContext ≠ context := hscope
    rw [if_pos hcontext, if_neg hscope, Finset.filter_empty]
    rfl

theorem apply_shown (op : RecordOp) :
    op.apply (shown upTo exact) =
      shown (run offerUpTo upTo op.upToOffers) (offerExact exact op.exactOffer) := by
  cases op with
  | upTo seq context => exact shown_bookUpTo seq context
  | exact seqs context => exact shown_bookExact seqs context

theorem run_apply_shown (ops : List RecordOp) :
    run RecordOp.apply (shown upTo exact) ops =
      shown (run offerUpTo upTo (ops.flatMap upToOffers))
        (run offerExact exact (ops.map exactOffer)) := by
  induction ops generalizing upTo exact with
  | nil => rfl
  | cons op ops ih =>
      rw [run_cons, apply_shown, ih, List.flatMap_cons, run_append, List.map_cons, run_cons]

end Shown

end RecordOp

/-! ## Records -/

structure TargetState.Kept (state : TargetState) : Prop where
  retired : state.exactContext = state.upToContext →
    ∀ seq ∈ state.exact, TargetState.above state.upTo seq = true
  bounded : state.exact.card ≤ MAX_EXACT_SEQS_PER_TARGET

section Records

open RecordOp

variable {state : TargetState}

theorem TargetState.Kept.eq_shown (h : state.Kept) :
    state = shown ⟨state.upTo, state.upToContext⟩ ⟨state.exact, state.exactContext⟩ := by
  have hfilter : (state.exact.filter fun seq => TargetState.above
      (if state.upToContext = state.exactContext then state.upTo else none) seq) = state.exact := by
    refine Finset.filter_true_of_mem fun seq hseq => ?_
    split
    · next hcontext => exact h.retired hcontext.symm seq hseq
    · rfl
  rw [shown]
  simp only [hfilter, newest_of_card_le h.bounded]

theorem kept_shown (upTo : UpToRegister) (exact : ExactRegister) : (shown upTo exact).Kept := by
  refine ⟨fun hcontext seq hseq => ?_, card_newest.trans_le (min_le_left _ _)⟩
  have habove := (Finset.mem_filter.mp (newest_subset hseq)).2
  have hscope : upTo.scope = exact.scope := hcontext.symm
  rwa [if_pos hscope] at habove

theorem TargetState.Kept.run (h : state.Kept) (ops : List RecordOp) :
    (Foundation.run RecordOp.apply state ops).Kept := by
  rw [h.eq_shown, run_apply_shown]
  exact kept_shown _ _

theorem TargetState.Kept.run_run (h : state.Kept) (ops : List RecordOp) :
    Foundation.run RecordOp.apply (Foundation.run RecordOp.apply state ops) ops =
      Foundation.run RecordOp.apply state ops := by
  have hupTo := ScopedRegister.run_offer_run_offer (Option.merge max)
    (⟨state.upTo, state.upToContext⟩ : UpToRegister) (ops.flatMap upToOffers)
  have hexact := ScopedRegister.run_offer_run_offer (fun held added : Finset ℕ+ => held ∪ added)
    (⟨state.exact, state.exactContext⟩ : ExactRegister) (ops.map exactOffer)
  rw [h.eq_shown, run_apply_shown, run_apply_shown]
  exact congrArg₂ shown hupTo hexact

end Records

/-! ## Writes to a frontier -/

def TargetSnapshot.ops (snapshot : TargetSnapshot) : List RecordOp :=
  ((snapshot.upTo.bind JsNumber.positiveInteger).map fun seq =>
      RecordOp.upTo seq (contextOrNull snapshot.upToContextId)).toList ++
    (snapshot.exact.map fun seqs =>
      RecordOp.exact (seqs.filterMap JsNumber.positiveInteger)
        (contextOrNull snapshot.exactContextId)).toList

namespace SeenFrontier

def writeOp (frontier : SeenFrontier) (write : JsString × RecordOp) : SeenFrontier :=
  frontier.setState write.1 (write.2.apply (frontier.state write.1))

def opsFor (key : JsString) (writes : List (JsString × RecordOp)) : List RecordOp :=
  writes.filterMap fun write => if write.1 = key then some write.2 else none

section Writes

variable {frontier : SeenFrontier} {key : JsString}

theorem state_writeOp (write : JsString × RecordOp) :
    (frontier.writeOp write).state key =
      if key = write.1 then write.2.apply (frontier.state key) else frontier.state key := by
  rw [state, writeOp, setState]
  by_cases hkey : key = write.1
  · simp [hkey]
  · simp [hkey, InsertionMap.get_set_of_ne _ _ hkey, state]

theorem state_run_writeOp (writes : List (JsString × RecordOp)) :
    (run writeOp frontier writes).state key =
      run RecordOp.apply (frontier.state key) (opsFor key writes) := by
  induction writes generalizing frontier with
  | nil => rfl
  | cons write writes ih =>
      rw [run_cons, ih, state_writeOp]
      by_cases hkey : key = write.1
      · simp [opsFor, hkey]
      · simp [opsFor, hkey, Ne.symm hkey]

theorem run_writeOp_frame (writes : List (JsString × RecordOp)) :
    (run writeOp frontier writes).core.aliases = frontier.core.aliases ∧
      (run writeOp frontier writes).core.context = frontier.core.context ∧
      (run writeOp frontier writes).bound = frontier.bound := by
  induction writes generalizing frontier with
  | nil => exact ⟨rfl, rfl, rfl⟩
  | cons write writes ih => exact ih

theorem mem_keys_run_writeOp (writes : List (JsString × RecordOp)) :
    key ∈ (run writeOp frontier writes).core.targets.keys ↔
      key ∈ frontier.core.targets.keys ∨ key ∈ writes.map Prod.fst := by
  induction writes generalizing frontier with
  | nil => simp
  | cons write writes ih =>
      rw [run_cons, ih, writeOp, setState, InsertionMap.keys_set, List.map_cons, List.mem_cons]
      split
      · next hmem =>
          constructor
          · exact Or.imp_right Or.inr
          · rintro (hkey | rfl | hkey)
            · exact Or.inl hkey
            · exact Or.inl hmem
            · exact Or.inr hkey
      · rw [List.mem_append, List.mem_singleton, or_assoc]

theorem keys_run_writeOp {writes : List (JsString × RecordOp)}
    (h : ∀ write ∈ writes, write.1 ∈ frontier.core.targets.keys) :
    (run writeOp frontier writes).core.targets.keys = frontier.core.targets.keys := by
  induction writes generalizing frontier with
  | nil => rfl
  | cons write writes ih =>
      have hkeys : (frontier.writeOp write).core.targets.keys = frontier.core.targets.keys := by
        rw [writeOp, setState, InsertionMap.keys_set, if_pos (h write List.mem_cons_self)]
      rw [run_cons, ih fun other hother => hkeys ▸ h other (List.mem_cons_of_mem _ hother), hkeys]

theorem get_targets_of_state {first second : SeenFrontier}
    (hkeys : first.core.targets.keys = second.core.targets.keys)
    (hstate : first.state key = second.state key) :
    first.core.targets.get key = second.core.targets.get key := by
  by_cases hmem : key ∈ first.core.targets.keys
  · obtain ⟨found, hfound⟩ := (InsertionMap.mem_keys_iff _ _).mp hmem
    obtain ⟨other, hother⟩ := (InsertionMap.mem_keys_iff _ _).mp (hkeys ▸ hmem)
    simp only [state, hfound, hother, Option.getD_some] at hstate
    rw [hfound, hother, hstate]
  · rw [(InsertionMap.get_eq_none_iff _ _).mpr hmem,
      (InsertionMap.get_eq_none_iff _ _).mpr (hkeys ▸ hmem)]

theorem run_writeOp_run_writeOp (hkept : ∀ key, (frontier.state key).Kept)
    (writes : List (JsString × RecordOp)) :
    run writeOp (run writeOp frontier writes) writes = run writeOp frontier writes := by
  have hkeys : (run writeOp (run writeOp frontier writes) writes).core.targets.keys =
      (run writeOp frontier writes).core.targets.keys :=
    keys_run_writeOp fun write hwrite =>
      (mem_keys_run_writeOp writes).mpr (Or.inr (List.mem_map_of_mem hwrite))
  have htargets : (run writeOp (run writeOp frontier writes) writes).core.targets =
      (run writeOp frontier writes).core.targets := by
    refine InsertionMap.ext_get hkeys fun key => get_targets_of_state hkeys ?_
    rw [state_run_writeOp, state_run_writeOp, (hkept key).run_run]
  obtain ⟨haliases, hcontext, hbound⟩ := @run_writeOp_frame (run writeOp frontier writes) writes
  revert htargets haliases hcontext hbound
  generalize run writeOp (run writeOp frontier writes) writes = again
  generalize run writeOp frontier writes = once
  obtain ⟨⟨_, _, _⟩, _⟩ := again
  rintro rfl rfl rfl rfl
  rfl

end Writes

/-! ## Absorbing -/

section Absorbing

variable (frontier : SeenFrontier)

def setContext (contextId : Option JsString) : SeenFrontier :=
  { frontier with core := { frontier.core with context := contextOrNull contextId } }

def IsAlias (entry : JsString × JsString) : Prop :=
  entry.1 ≠ [] ∧ entry.2 ≠ [] ∧ entry.1 ≠ entry.2

instance (entry : JsString × JsString) : Decidable (IsAlias entry) :=
  inferInstanceAs (Decidable (entry.1 ≠ [] ∧ entry.2 ≠ [] ∧ entry.1 ≠ entry.2))

def withAliases (aliases : InsertionMap JsString JsString) : SeenFrontier :=
  { frontier with core := { frontier.core with aliases := aliases } }

theorem recordAlias_eq (entry : JsString × JsString) :
    frontier.recordAlias entry.1 entry.2 =
      if IsAlias entry then frontier.withAliases (frontier.core.aliases.set entry.1 entry.2)
      else frontier := rfl

theorem recordAliases_eq (entries : List (JsString × JsString)) :
    entries.foldl (fun frontier entry => frontier.recordAlias entry.1 entry.2) frontier =
      frontier.withAliases
        (frontier.core.aliases.setAll (entries.filter fun entry => IsAlias entry)) := by
  induction entries generalizing frontier with
  | nil => rfl
  | cons entry entries ih =>
      rw [List.foldl_cons, ih, recordAlias_eq]
      by_cases halias : IsAlias entry
      · rw [if_pos halias, List.filter_cons_of_pos (by simpa using halias),
          InsertionMap.setAll_cons]
        rfl
      · rw [if_neg halias, List.filter_cons_of_neg (by simpa using halias)]

theorem absorbTarget_eq (target : JsString) (snapshot : TargetSnapshot) :
    frontier.absorbTarget target snapshot =
      run writeOp frontier (snapshot.ops.map fun op => (frontier.canonical target, op)) := by
  rw [absorbTarget, TargetSnapshot.ops]
  cases hupTo : snapshot.upTo with
  | none => cases snapshot.exact <;> rfl
  | some upTo =>
      simp only [bookUpTo, Option.bind_some]
      cases upTo.positiveInteger with
      | none => cases snapshot.exact <;> rfl
      | some seq => cases snapshot.exact <;> rfl

end Absorbing

end SeenFrontier

/-- The bookings of a snapshot, each under the key its target has by these aliases. -/
def SeenFrontierSnapshot.writes (snapshot : SeenFrontierSnapshot)
    (aliases : InsertionMap JsString JsString) : List (JsString × RecordOp) :=
  (ownEntries snapshot.targets).flatMap fun entry =>
    entry.2.ops.map fun op => ((aliases.get entry.1).getD entry.1, op)

def SeenFrontierSnapshot.aliasesOver (snapshot : SeenFrontierSnapshot)
    (aliases : InsertionMap JsString JsString) : InsertionMap JsString JsString :=
  aliases.setAll ((ownEntries snapshot.aliases).filter fun entry => SeenFrontier.IsAlias entry)

namespace SeenFrontier

section Absorbed

variable {frontier : SeenFrontier} (snapshot : SeenFrontierSnapshot)

theorem absorbTargets_eq (entries : List (JsString × TargetSnapshot)) :
    entries.foldl (fun frontier entry => frontier.absorbTarget entry.1 entry.2) frontier =
      run writeOp frontier (entries.flatMap fun entry =>
        entry.2.ops.map fun op => ((frontier.core.aliases.get entry.1).getD entry.1, op)) := by
  induction entries generalizing frontier with
  | nil => rfl
  | cons entry entries ih =>
      rw [List.foldl_cons, absorbTarget_eq, ih, List.flatMap_cons, run_append,
        (run_writeOp_frame _).1]
      rfl

/-- Aliases first, then the bookings, then the context where the frontier has none. -/
theorem absorb_eq :
    frontier.absorb snapshot =
      let aliases := snapshot.aliasesOver frontier.core.aliases
      let booked := run writeOp (frontier.withAliases aliases) (snapshot.writes aliases)
      if frontier.core.context = none then booked.setContext snapshot.contextId else booked := by
  rw [absorb, recordAliases_eq, absorbTargets_eq, ← SeenFrontierSnapshot.aliasesOver]
  simp only [(run_writeOp_frame _).2.1]
  rfl

theorem aliasesOver_aliasesOver (aliases : InsertionMap JsString JsString) :
    snapshot.aliasesOver (snapshot.aliasesOver aliases) = snapshot.aliasesOver aliases := by
  have hnodup : (((ownEntries snapshot.aliases).filter fun entry =>
      IsAlias entry).map Prod.fst).Nodup :=
    (nodup_ownEntries snapshot.aliases).sublist (List.filter_sublist.map Prod.fst)
  exact InsertionMap.setAll_eq_self fun entry hentry =>
    InsertionMap.get_setAll_of_mem hnodup hentry

omit snapshot in
theorem run_writeOp_setContext (contextId : Option JsString)
    (writes : List (JsString × RecordOp)) :
    run writeOp (frontier.setContext contextId) writes =
      (run writeOp frontier writes).setContext contextId := by
  induction writes generalizing frontier with
  | nil => rfl
  | cons write writes ih => exact @ih (frontier.writeOp write)

theorem absorb_of_absorbed
    (haliases : snapshot.aliasesOver frontier.core.aliases = frontier.core.aliases)
    (hbooked : run writeOp frontier (snapshot.writes frontier.core.aliases) = frontier) :
    frontier.absorb snapshot =
      if frontier.core.context = none then frontier.setContext snapshot.contextId
      else frontier := by
  have hwith : frontier.withAliases frontier.core.aliases = frontier := rfl
  rw [absorb_eq]
  simp only [haliases, hwith, hbooked]

theorem absorb_absorb (hkept : ∀ key, (frontier.state key).Kept) :
    (frontier.absorb snapshot).absorb snapshot = frontier.absorb snapshot := by
  obtain ⟨booked, hbooked⟩ : ∃ booked, booked = run writeOp
      (frontier.withAliases (snapshot.aliasesOver frontier.core.aliases))
      (snapshot.writes (snapshot.aliasesOver frontier.core.aliases)) := ⟨_, rfl⟩
  have habsorb : frontier.absorb snapshot =
      if frontier.core.context = none then booked.setContext snapshot.contextId else booked := by
    rw [hbooked]
    exact absorb_eq snapshot
  obtain ⟨hkeptAliases, hcontext, -⟩ := @run_writeOp_frame
    (frontier.withAliases (snapshot.aliasesOver frontier.core.aliases))
    (snapshot.writes (snapshot.aliasesOver frontier.core.aliases))
  rw [← hbooked] at hkeptAliases hcontext
  have haliases : booked.core.aliases = snapshot.aliasesOver frontier.core.aliases := hkeptAliases
  have hover : snapshot.aliasesOver booked.core.aliases = booked.core.aliases := by
    rw [haliases, aliasesOver_aliasesOver]
  have hagain : run writeOp booked (snapshot.writes booked.core.aliases) = booked := by
    rw [haliases, hbooked]
    have hkeptOver : ∀ key, ((frontier.withAliases
        (snapshot.aliasesOver frontier.core.aliases)).state key).Kept := hkept
    exact run_writeOp_run_writeOp hkeptOver _
  rw [habsorb]
  by_cases hnone : frontier.core.context = none
  · have hagainContext : run writeOp (booked.setContext snapshot.contextId)
        (snapshot.writes booked.core.aliases) = booked.setContext snapshot.contextId :=
      (run_writeOp_setContext _ _).trans (congrArg (setContext · _) hagain)
    rw [if_pos hnone, @absorb_of_absorbed (booked.setContext _) snapshot hover hagainContext]
    split
    all_goals rfl
  · rw [if_neg hnone, absorb_of_absorbed snapshot hover hagain, if_neg]
    rw [hcontext]
    exact hnone

end Absorbed

end SeenFrontier

end Raft.SeenPolicy
