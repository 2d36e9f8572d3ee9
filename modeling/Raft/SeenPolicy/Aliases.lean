import Raft.Foundation.Pointers
import Raft.SeenPolicy.ConsumedSeqs

/-!
# Canonical keys

The walk along the aliases stops before it would repeat a spelling.  Without a
cycle it ends at a spelling that points nowhere, which is the same for every
spelling that leads there; on a cycle the end depends on the start.
-/

namespace Raft.SeenPolicy

open Raft.Foundation

/-! ## Spellings -/

theorem isTrusted_of_canonicalize {target normalized : JsString}
    (h : canonicalizeConsumedTarget target = some normalized) :
    isTrustedCanonicalTarget normalized = true := by
  rw [canonicalizeConsumedTarget] at h
  simp only at h
  split at h
  · cases h
  · generalize (if startsWithIgnoringCase (js "dm:@") target = true then
      js "dm:@" ++ List.drop 4 target else target) = spelling at h
    split at h
    · cases h
    · split at h
      · cases h
        assumption
      · cases h

namespace MemoryStore

variable {aliases : InsertionMap JsString JsString} {seen : List JsString}
  {current spelling canonical : JsString}

/-! ## Walks -/

def TrustedAliases (aliases : InsertionMap JsString JsString) : Prop :=
  ∀ spelling canonical, aliases.get spelling = some canonical →
    isTrustedCanonicalTarget canonical = true

theorem leads_followAliases (aliases : InsertionMap JsString JsString) (seen : List JsString)
    (current : JsString) : Leads aliases.get current (followAliases aliases seen current) := by
  fun_induction followAliases aliases seen current with
  | case1 seen current hget => exact .refl
  | case2 seen current canonical hget hstop => exact .refl
  | case3 seen current canonical hget hgo ih => exact .head hget ih

theorem followAliases_mem (aliases : InsertionMap JsString JsString) (seen : List JsString)
    (current : JsString) :
    followAliases aliases seen current = current ∨ followAliases aliases seen current ∉ seen := by
  fun_induction followAliases aliases seen current with
  | case1 seen current hget => exact Or.inl rfl
  | case2 seen current canonical hget hstop => exact Or.inl rfl
  | case3 seen current canonical hget hgo ih =>
      rcases ih with heq | hnot
      · rw [heq]
        exact Or.inr (not_or.mp hgo).1
      · exact Or.inr fun hmem => hnot (List.mem_cons_of_mem _ hmem)

theorem get_followAliases (htrusted : TrustedAliases aliases) (hacyclic : Acyclic aliases.get)
    (hseen : ∀ spelling ∈ seen, Leads aliases.get spelling current) :
    aliases.get (followAliases aliases seen current) = none := by
  fun_induction followAliases aliases seen current with
  | case1 seen current hget => exact hget
  | case2 seen current canonical hget hstop =>
      rcases hstop with hmem | huntrusted
      · exact absurd (hseen canonical hmem) (hacyclic current canonical hget)
      · rw [htrusted current canonical hget] at huntrusted
        cases huntrusted
  | case3 seen current canonical hget hgo ih =>
      refine ih (List.forall_mem_cons.mpr ⟨.refl, fun spelling hmem => ?_⟩)
      exact (hseen spelling hmem).tail hget

/-- On the cycle that a new alias closes, the walk from its target ends where it starts. -/
theorem followAliases_cycle {old : InsertionMap JsString JsString}
    (htrusted : TrustedAliases aliases) (hacyclic : Acyclic old.get)
    (hget : aliases.get = Function.update old.get spelling (some canonical))
    (hseen : ∀ other ∈ seen, Leads old.get other current) (hcanonical : canonical ∈ seen)
    (hback : Leads old.get current spelling) :
    followAliases aliases seen current = spelling := by
  fun_induction followAliases aliases seen current with
  | case1 seen current hnone =>
      by_cases hcurrent : current = spelling
      · exact hcurrent
      · rw [hget, Function.update_of_ne hcurrent] at hnone
        exact (hback.eq_of_end hnone).symm
  | case2 seen current target hsome hstop =>
      by_cases hcurrent : current = spelling
      · exact hcurrent
      · rw [htrusted current target hsome] at hstop
        rw [hget, Function.update_of_ne hcurrent] at hsome
        have hmem : target ∈ seen := hstop.resolve_right (by simp)
        exact absurd (hseen target hmem) (hacyclic current target hsome)
  | case3 seen current target hsome hgo ih =>
      by_cases hcurrent : current = spelling
      · subst hcurrent
        rw [hget, Function.update_self] at hsome
        cases hsome
        exact absurd (Or.inl hcanonical) hgo
      · rw [hget, Function.update_of_ne hcurrent] at hsome
        refine ih ?_ (List.mem_cons_of_mem _ hcanonical) ?_
        · exact List.forall_mem_cons.mpr ⟨.refl, fun other hmem => (hseen other hmem).tail hsome⟩
        · rcases Relation.ReflTransGen.cases_head hback with heq | ⟨middle, hpoints, hrest⟩
          · exact absurd heq hcurrent
          · rw [PointsTo, hsome] at hpoints
            cases hpoints
            exact hrest

/-! ## Stores -/

section Stores

variable {store : MemoryStore}

structure Sound (store : MemoryStore) : Prop where
  trusted : TrustedAliases store.aliases
  acyclic : Acyclic store.aliases.get

theorem sound_create (contextId : Option JsString) :
    Sound (createMemoryCommandStateStore contextId) := by
  constructor
  all_goals
    intro spelling canonical hget
    cases hget

/-- The call refuses its spellings, or they are one, or its target does not lead back. -/
def ClosesNoCycle (store : MemoryStore) (call : JsString × JsString) : Prop :=
  ∀ spelling canonical, canonicalizeConsumedTarget call.1 = some spelling →
    canonicalizeConsumedTarget call.2 = some canonical → spelling ≠ canonical →
      ¬ Leads store.aliases.get canonical spelling

def aliasStep (store : MemoryStore) (call : JsString × JsString) : MemoryStore :=
  store.recordTargetAlias call.1 call.2

def ResolvesOnce (store : MemoryStore) : Prop :=
  ∀ target, store.resolveCanonicalTarget (store.resolveCanonicalTarget target) =
    store.resolveCanonicalTarget target

def Meets (store : MemoryStore) (call : JsString × JsString) : Prop :=
  (canonicalizeConsumedTarget call.1).isSome → (canonicalizeConsumedTarget call.2).isSome →
    store.canonicalTargetKey call.1 = store.canonicalTargetKey call.2

theorem Sound.resolvesOnce (h : store.Sound) : store.ResolvesOnce := by
  intro target
  have hend : store.aliases.get (store.resolveCanonicalTarget target) = none :=
    get_followAliases h.trusted h.acyclic (by simp [Relation.ReflTransGen.refl])
  exact followAliases_of_none hend

theorem resolveCanonicalTarget_eq (h : store.Sound) {first second : JsString}
    (hleads : Leads store.aliases.get first second) :
    store.resolveCanonicalTarget first = store.resolveCanonicalTarget second := by
  have hend (target : JsString) :
      store.aliases.get (store.resolveCanonicalTarget target) = none :=
    get_followAliases h.trusted h.acyclic (by simp [Relation.ReflTransGen.refl])
  exact Leads.end_unique (leads_followAliases _ _ first)
    (hleads.trans (leads_followAliases _ _ second)) (hend first) (hend second)

theorem aliasStep_cases (store : MemoryStore) (call : JsString × JsString) :
    (∃ spelling canonical, canonicalizeConsumedTarget call.1 = some spelling ∧
        canonicalizeConsumedTarget call.2 = some canonical ∧ spelling ≠ canonical ∧
        (store.aliasStep call).aliases.get =
          Function.update store.aliases.get spelling (some canonical)) ∨
      (store.aliasStep call = store ∧ store.ClosesNoCycle call ∧
        ∀ store : MemoryStore, store.Meets call) := by
  obtain ⟨rawSpelling, canonicalTarget⟩ := call
  rw [aliasStep, recordTargetAlias]
  simp only [ClosesNoCycle, Meets, canonicalTargetKey]
  cases hspelling : canonicalizeConsumedTarget rawSpelling with
  | none => exact Or.inr ⟨rfl, fun _ _ h => (by cases h), fun _ h => (by cases h)⟩
  | some spelling =>
      cases hcanonical : canonicalizeConsumedTarget canonicalTarget with
      | none => exact Or.inr ⟨rfl, fun _ _ _ h => (by cases h), fun _ _ h => (by cases h)⟩
      | some canonical =>
          simp only
          by_cases heq : spelling = canonical
          · subst heq
            rw [if_pos rfl]
            refine Or.inr ⟨rfl, ?_, fun _ _ _ => rfl⟩
            rintro _ _ ⟨⟩ ⟨⟩ hne
            exact absurd rfl hne
          · refine Or.inl ⟨spelling, canonical, rfl, rfl, heq, ?_⟩
            rw [if_neg heq, bookTargetAlias, isTrusted_of_canonicalize hspelling,
              isTrusted_of_canonicalize hcanonical]
            funext key
            simp [heq, InsertionMap.get_set, Function.update_apply]

theorem trusted_aliasStep (h : TrustedAliases store.aliases) (call : JsString × JsString) :
    TrustedAliases (store.aliasStep call).aliases := by
  rcases aliasStep_cases store call with
    ⟨spelling, canonical, -, hcanonical, -, hget⟩ | ⟨hsame, -, -⟩
  · intro key target hkey
    rw [hget] at hkey
    by_cases heq : key = spelling
    · rw [heq, Function.update_self] at hkey
      cases hkey
      exact isTrusted_of_canonicalize hcanonical
    · rw [Function.update_of_ne heq] at hkey
      exact h key target hkey
  · rw [hsame]
    exact h

theorem Sound.aliasStep (h : store.Sound) {call : JsString × JsString}
    (hcall : store.ClosesNoCycle call) : (store.aliasStep call).Sound := by
  refine ⟨trusted_aliasStep h.trusted call, ?_⟩
  rcases aliasStep_cases store call with
    ⟨spelling, canonical, hspelling, hcanonical, hne, hget⟩ | ⟨hsame, -, -⟩
  · rw [hget]
    exact h.acyclic.update (hcall spelling canonical hspelling hcanonical hne)
  · rw [hsame]
    exact h.acyclic

theorem resolveCanonicalTarget_ne (htrusted : TrustedAliases store.aliases)
    (hget : store.aliases.get spelling = some canonical) (hne : spelling ≠ canonical) :
    store.resolveCanonicalTarget spelling ≠ spelling := by
  have hgo : ¬ (canonical ∈ [spelling] ∨ isTrustedCanonicalTarget canonical = false) := by
    rw [List.mem_singleton, htrusted spelling canonical hget]
    simpa using Ne.symm hne
  rw [resolveCanonicalTarget, followAliases_of_some hget, if_neg hgo]
  rcases followAliases_mem store.aliases [canonical, spelling] canonical with heq | hnot
  · rw [heq]
    exact Ne.symm hne
  · exact fun heq => hnot (by simp [heq])

theorem resolvesOnce_aliasStep_iff (h : store.Sound) (call : JsString × JsString) :
    (store.aliasStep call).ResolvesOnce ↔ store.ClosesNoCycle call := by
  constructor
  · rcases aliasStep_cases store call with
      ⟨spelling, canonical, hspelling, hcanonical, hne, hget⟩ | ⟨-, hcall, -⟩
    · intro honce other target hother htarget _ hback
      rw [hspelling] at hother
      rw [hcanonical] at htarget
      cases hother
      cases htarget
      set next := store.aliasStep call
      have hpoints : next.aliases.get spelling = some canonical := by
        rw [hget, Function.update_self]
      have hcycle : Leads next.aliases.get canonical spelling := by
        rw [hget]
        exact leads_to_update canonical hback
      have hend : next.aliases.get (next.resolveCanonicalTarget spelling) = none := by
        by_contra hsome
        obtain ⟨after, hafter⟩ := Option.ne_none_iff_exists'.mp hsome
        refine resolveCanonicalTarget_ne (trusted_aliasStep h.trusted call) hafter ?_
          (honce spelling)
        intro hself
        rw [← hself, hget] at hafter
        by_cases hstart : next.resolveCanonicalTarget spelling = spelling
        · rw [hstart, Function.update_self] at hafter
          exact hne (Option.some.inj hafter).symm
        · rw [Function.update_of_ne hstart] at hafter
          exact h.acyclic _ _ hafter .refl
      have hleads : Leads next.aliases.get spelling (next.resolveCanonicalTarget spelling) :=
        leads_followAliases _ _ spelling
      have heq := (Leads.back hpoints hcycle hleads).eq_of_end hend
      rw [← heq, hpoints] at hend
      cases hend
    · exact fun _ => hcall
  · exact fun hcall => (h.aliasStep hcall).resolvesOnce

theorem meets_aliasStep_iff (h : store.Sound) (call : JsString × JsString) :
    (store.aliasStep call).Meets call ↔ store.ClosesNoCycle call := by
  rcases aliasStep_cases store call with
    ⟨spelling, canonical, hspelling, hcanonical, hne, hget⟩ | ⟨-, hcall, hmeets⟩
  · have hpoints : (store.aliasStep call).aliases.get spelling = some canonical := by
      rw [hget, Function.update_self]
    have hmeets : (store.aliasStep call).Meets call ↔
        (store.aliasStep call).resolveCanonicalTarget spelling =
          (store.aliasStep call).resolveCanonicalTarget canonical := by
      simp only [Meets, canonicalTargetKey, hspelling, hcanonical, Option.isSome_some,
        true_implies]
    rw [hmeets]
    constructor
    · intro hkeys other target hother htarget _ hback
      rw [hspelling] at hother
      rw [hcanonical] at htarget
      cases hother
      cases htarget
      have htrusted := trusted_aliasStep h.trusted call
      have hcycle : (store.aliasStep call).resolveCanonicalTarget canonical = spelling :=
        followAliases_cycle htrusted h.acyclic hget (by simp [Relation.ReflTransGen.refl])
          (List.mem_singleton_self _) hback
      exact resolveCanonicalTarget_ne htrusted hpoints hne (hkeys.trans hcycle)
    · intro hcall
      exact resolveCanonicalTarget_eq (h.aliasStep hcall) (.single hpoints)
  · exact iff_of_true (hmeets _) hcall

end Stores

/-! ## Runs -/

/-- Along a run of recorded aliases, canonical keys stay canonical and the two spellings just
recorded meet, each exactly when no call closes a cycle. -/
theorem canonical_targets_iff (contextId : Option JsString) (calls : List (JsString × JsString)) :
    ((∀ before, before <+: calls →
        (run aliasStep (createMemoryCommandStateStore contextId) before).ResolvesOnce) ↔
      Admitted aliasStep ClosesNoCycle (createMemoryCommandStateStore contextId) calls) ∧
    ((∀ before call, before ++ [call] <+: calls →
        (run aliasStep (createMemoryCommandStateStore contextId) (before ++ [call])).Meets call) ↔
      Admitted aliasStep ClosesNoCycle (createMemoryCommandStateStore contextId) calls) := by
  have hsound := sound_create contextId
  have hkept (store : MemoryStore) (call : JsString × JsString) (h : store.Sound)
      (hcall : store.ClosesNoCycle call) : (store.aliasStep call).Sound := h.aliasStep hcall
  constructor
  · rw [← forall_step_iff_admitted Sound (fun store call => (store.aliasStep call).ResolvesOnce)
      calls (fun _ call h => resolvesOnce_aliasStep_iff h call) hkept hsound]
    simp only [← run_concat]
    constructor
    · exact fun hall before call hstart => hall (before ++ [call]) hstart
    · intro hall before hstart
      rcases List.eq_nil_or_concat before with rfl | ⟨before, call, rfl⟩
      · exact hsound.resolvesOnce
      · rw [List.concat_eq_append] at hstart ⊢
        exact hall before call hstart
  · rw [← forall_step_iff_admitted Sound (fun store call => (store.aliasStep call).Meets call)
      calls (fun _ call h => meets_aliasStep_iff h call) hkept hsound]
    simp only [← run_concat]

def renamedBack : List (JsString × JsString) :=
  [(js "#old", js "#new"), (js "#new", js "#old")]

theorem renamed_back_never_meets :
    (run aliasStep (createMemoryCommandStateStore none) renamedBack).canonicalTargetKey
        (js "#old") = js "#new" ∧
      (run aliasStep (createMemoryCommandStateStore none) renamedBack).canonicalTargetKey
        (js "#new") = js "#old" ∧
      ¬ (run aliasStep (createMemoryCommandStateStore none) renamedBack).ResolvesOnce ∧
      ¬ (run aliasStep (createMemoryCommandStateStore none) renamedBack).Meets
        (js "#new", js "#old") := by
  set store := run aliasStep (createMemoryCommandStateStore none) renamedBack with hstore
  have hold : store.aliases.get (js "#old") = some (js "#new") := by decide
  have hnew : store.aliases.get (js "#new") = some (js "#old") := by decide
  have hresolveOld : store.resolveCanonicalTarget (js "#old") = js "#new" := by
    rw [resolveCanonicalTarget, followAliases_of_some hold, if_neg (by decide),
      followAliases_of_some hnew, if_pos (by decide)]
  have hresolveNew : store.resolveCanonicalTarget (js "#new") = js "#old" := by
    rw [resolveCanonicalTarget, followAliases_of_some hnew, if_neg (by decide),
      followAliases_of_some hold, if_pos (by decide)]
  have hkeyOld : store.canonicalTargetKey (js "#old") = js "#new" := hresolveOld
  have hkeyNew : store.canonicalTargetKey (js "#new") = js "#old" := hresolveNew
  refine ⟨hkeyOld, hkeyNew, fun honce => ?_, fun hmeets => ?_⟩
  · have htwice := honce (js "#old")
    rw [hresolveOld, hresolveNew] at htwice
    exact absurd htwice (by decide)
  · have hkeys := hmeets (by decide) (by decide)
    simp only [hkeyOld, hkeyNew] at hkeys
    exact absurd hkeys (by decide)

end MemoryStore

end Raft.SeenPolicy
