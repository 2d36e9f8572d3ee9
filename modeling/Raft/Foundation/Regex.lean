import Mathlib.Data.List.Basic
import Mathlib.Data.List.Forall2

/-!
# Backtracking regular expressions

Patterns over any alphabet, matched by backtracking in order of priority: the
first branch of an alternative before the second, more iterations of a
repetition before fewer.  A capture is the text of its group, or nothing when
the group took no part.  `Denotes` says what a match is without the search;
`mem_run_iff` says that the search finds exactly the matches.
-/

namespace Raft.Foundation

/-- A repetition is greedy, and after its minimum an iteration must consume something; `lazy` is
the reluctant repetition of one set. -/
inductive Pattern (σ : Type) where
  | empty
  | symbol (set : σ → Bool)
  | seq (first second : Pattern σ)
  | alt (first second : Pattern σ)
  | rep (body : Pattern σ) (min : Nat) (max : Option Nat)
  | group (body : Pattern σ)
  | notAhead (set : σ → Bool)
  | lazy (set : σ → Bool)

namespace Pattern

variable {σ : Type}

abbrev Captures (σ : Type) := List (Option (List σ))

/-- The number of groups, those of both branches of an alternative included. -/
def groups : Pattern σ → Nat
  | empty | symbol _ | notAhead _ | lazy _ => 0
  | seq first second | alt first second => first.groups + second.groups
  | rep body _ _ => body.groups
  | group body => body.groups + 1

def noCaptures (n : Nat) : Captures σ := List.replicate n none

/-- At most `budget` iterations; `last` are the captures of the iteration before. -/
def repeatRun (body : List σ → List (Captures σ × List σ)) :
    (budget min : Nat) → (last : Captures σ) → List σ → List (Captures σ × List σ)
  | 0, min, last, input => if min = 0 then [(last, input)] else []
  | budget + 1, min, last, input =>
      ((body input).filter fun (_, rest) => 0 < min || rest.length < input.length).flatMap
          (fun (captures, rest) => repeatRun body budget (min - 1) captures rest) ++
        if min = 0 then [(last, input)] else []

/-- The shortest run of the set first. -/
def lazyRun (set : σ → Bool) : List σ → List (Captures σ × List σ)
  | [] => [([], [])]
  | c :: rest => ([], c :: rest) :: if set c then lazyRun set rest else []

def run : Pattern σ → List σ → List (Captures σ × List σ)
  | empty, input => [([], input)]
  | symbol set, input =>
      match input with
      | [] => []
      | c :: rest => if set c then [([], rest)] else []
  | seq first second, input =>
      (first.run input).flatMap fun (captures, rest) =>
        (second.run rest).map fun (others, rest) => (captures ++ others, rest)
  | alt first second, input =>
      (first.run input).map (fun (captures, rest) =>
        (captures ++ noCaptures second.groups, rest)) ++
      (second.run input).map fun (captures, rest) => (noCaptures first.groups ++ captures, rest)
  | rep body min max, input =>
      repeatRun body.run (max.getD (min + input.length)) min (noCaptures body.groups) input
  | group body, input =>
      (body.run input).map fun (captures, rest) =>
        (some (input.take (input.length - rest.length)) :: captures, rest)
  | notAhead set, input =>
      match input with
      | [] => [([], [])]
      | c :: rest => if set c then [] else [([], c :: rest)]
  | lazy set, input => lazyRun set input

def exec (pattern : Pattern σ) (input : List σ) : Option (Captures σ) :=
  ((pattern.run input).find? (·.2.isEmpty)).map (·.1)

/-! ## Matches without a search -/

/-- `count` iterations, the first `min` of which may be empty. -/
def Iterated (body : List σ → List σ → Captures σ → Prop) :
    (count min : Nat) → (text rest : List σ) → (last captures : Captures σ) → Prop
  | 0, min, text, _, last, captures => min = 0 ∧ text = [] ∧ captures = last
  | count + 1, min, text, rest, _, captures =>
      ∃ first others inner, text = first ++ others ∧ (min = 0 → first ≠ []) ∧
        body first (others ++ rest) inner ∧ Iterated body count (min - 1) others rest inner captures

/-- The pattern matches `text` before `rest` with these captures. -/
def Denotes : Pattern σ → (text rest : List σ) → Captures σ → Prop
  | empty, text, _, captures => text = [] ∧ captures = []
  | symbol set, text, _, captures => (∃ c, text = [c] ∧ set c = true) ∧ captures = []
  | seq first second, text, rest, captures =>
      ∃ one two inner others, text = one ++ two ∧ captures = inner ++ others ∧
        first.Denotes one (two ++ rest) inner ∧ second.Denotes two rest others
  | alt first second, text, rest, captures =>
      (∃ inner, captures = inner ++ noCaptures second.groups ∧ first.Denotes text rest inner) ∨
      ∃ inner, captures = noCaptures first.groups ++ inner ∧ second.Denotes text rest inner
  | rep body min max, text, rest, captures =>
      ∃ count, (∀ bound, max = some bound → count ≤ bound) ∧
        Iterated body.Denotes count min text rest (noCaptures body.groups) captures
  | group body, text, rest, captures =>
      ∃ inner, captures = some text :: inner ∧ body.Denotes text rest inner
  | notAhead set, text, rest, captures =>
      text = [] ∧ captures = [] ∧ ∀ c, rest.head? = some c → set c = false
  | lazy set, text, _, captures => (∀ c ∈ text, set c = true) ∧ captures = []

theorem Iterated.count_le {body : List σ → List σ → Captures σ → Prop} {count min : Nat}
    {text rest : List σ} {last captures : Captures σ}
    (h : Iterated body count min text rest last captures) : count ≤ min + text.length := by
  induction count generalizing min text last with
  | zero => exact Nat.zero_le _
  | succ count ih =>
      obtain ⟨first, others, inner, rfl, hnonempty, -, hothers⟩ := h
      have hcount := ih hothers
      rw [List.length_append]
      rcases Nat.eq_zero_or_pos min with hmin | hmin
      · have hfirst := List.length_pos_iff.mpr (hnonempty hmin)
        omega
      · omega

section

variable {body : List σ → List (Captures σ × List σ)} {B : List σ → List σ → Captures σ → Prop}

theorem mem_repeatRun_iff
    (hbody : ∀ input captures rest, (captures, rest) ∈ body input ↔
      ∃ text, input = text ++ rest ∧ B text rest captures)
    {budget min : Nat} {last captures : Captures σ} {input rest : List σ} :
    (captures, rest) ∈ repeatRun body budget min last input ↔
      ∃ count ≤ budget, ∃ text, input = text ++ rest ∧
        Iterated B count min text rest last captures := by
  induction budget generalizing min last input with
  | zero =>
      simp only [repeatRun, Nat.le_zero_eq, exists_eq_left, Iterated]
      split <;> aesop
  | succ budget ih =>
      simp only [repeatRun, List.mem_append, List.mem_flatMap, List.mem_filter, Prod.exists, ih]
      constructor
      · rintro (⟨inner, middle, ⟨hinner, hfilter⟩, count, hcount, others, rfl, hothers⟩ | hstop)
        · obtain ⟨first, rfl, hfirst⟩ := (hbody _ _ _).mp hinner
          refine ⟨count + 1, by omega, first ++ others, by simp, first, others, inner, rfl, ?_,
            hfirst, hothers⟩
          rintro hmin rfl
          simp [hmin] at hfilter
        · split at hstop
          · next hmin =>
              obtain ⟨rfl, rfl⟩ := Prod.mk.inj (List.mem_singleton.mp hstop)
              exact ⟨0, Nat.zero_le _, [], rfl, hmin, rfl, rfl⟩
          · exact absurd hstop List.not_mem_nil
      · rintro ⟨count, hcount, text, rfl, hiterated⟩
        cases count with
        | zero =>
            obtain ⟨hmin, rfl, rfl⟩ := hiterated
            exact .inr (by simp [hmin])
        | succ count =>
            obtain ⟨first, others, inner, rfl, hnonempty, hfirst, hothers⟩ := hiterated
            refine .inl ⟨inner, others ++ rest, ⟨(hbody _ _ _).mpr ⟨first, by simp, hfirst⟩, ?_⟩,
              count, by omega, others, rfl, hothers⟩
            rcases Nat.eq_zero_or_pos min with hmin | hmin
            · have hpos := List.length_pos_iff.mpr (hnonempty hmin)
              simp only [List.length_append, Bool.or_eq_true, decide_eq_true_eq]
              omega
            · simp [hmin]

end

theorem mem_lazyRun_iff {set : σ → Bool} {input rest : List σ} {captures : Captures σ} :
    (captures, rest) ∈ lazyRun set input ↔
      ∃ text, input = text ++ rest ∧ (∀ c ∈ text, set c = true) ∧ captures = [] := by
  induction input with
  | nil =>
      simp only [lazyRun, List.mem_singleton, Prod.mk.injEq]
      constructor
      · rintro ⟨rfl, rfl⟩
        exact ⟨[], rfl, by simp, rfl⟩
      · rintro ⟨text, htext, -, rfl⟩
        exact ⟨rfl, (List.append_eq_nil_iff.mp htext.symm).2⟩
  | cons c others ih =>
      simp only [lazyRun, List.mem_cons, Prod.mk.injEq]
      constructor
      · rintro (⟨rfl, rfl⟩ | hrest)
        · exact ⟨[], rfl, by simp, rfl⟩
        · split at hrest
          · next hset =>
              obtain ⟨text, rfl, htext, rfl⟩ := ih.mp hrest
              exact ⟨c :: text, rfl, List.forall_mem_cons.mpr ⟨hset, htext⟩, rfl⟩
          · exact absurd hrest List.not_mem_nil
      · rintro ⟨text, htext, hall, rfl⟩
        cases text with
        | nil => exact .inl ⟨rfl, htext.symm⟩
        | cons d text =>
            obtain ⟨rfl, rfl⟩ := List.cons.inj htext
            rw [List.forall_mem_cons] at hall
            rw [if_pos hall.1]
            exact .inr (ih.mpr ⟨text, rfl, hall.2, rfl⟩)

/-- The search finds exactly the matches. -/
theorem mem_run_iff (pattern : Pattern σ) (input : List σ) (captures : Captures σ)
    (rest : List σ) :
    (captures, rest) ∈ pattern.run input ↔
      ∃ text, input = text ++ rest ∧ pattern.Denotes text rest captures := by
  induction pattern generalizing input captures rest with
  | empty => simp [run, Denotes, and_comm, eq_comm]
  | lazy set => exact mem_lazyRun_iff
  | symbol set =>
      cases input with
      | nil =>
          simp only [run, List.not_mem_nil, Denotes, false_iff]
          rintro ⟨text, htext, ⟨c, rfl, -⟩, -⟩
          simp at htext
      | cons c others =>
          simp only [run, Denotes]
          constructor
          · intro h
            split at h
            · next hset =>
                obtain ⟨rfl, rfl⟩ := Prod.mk.inj (List.mem_singleton.mp h)
                exact ⟨[c], rfl, ⟨c, rfl, hset⟩, rfl⟩
            · exact absurd h List.not_mem_nil
          · rintro ⟨_, htext, ⟨d, rfl, hset⟩, rfl⟩
            obtain ⟨rfl, rfl⟩ := List.cons.inj htext
            simp [hset]
  | seq first second ihfirst ihsecond =>
      simp only [run, List.mem_flatMap, List.mem_map, Prod.exists, Prod.mk.injEq, ihfirst,
        ihsecond, Denotes]
      constructor
      · rintro ⟨inner, _, ⟨one, rfl, hone⟩, others, _, ⟨two, rfl, htwo⟩, rfl, rfl⟩
        exact ⟨one ++ two, by simp, one, two, inner, others, rfl, rfl, hone, htwo⟩
      · rintro ⟨_, rfl, one, two, inner, others, rfl, rfl, hone, htwo⟩
        exact ⟨inner, two ++ rest, ⟨one, by simp, hone⟩, others, rest, ⟨two, rfl, htwo⟩, rfl, rfl⟩
  | alt first second ihfirst ihsecond =>
      simp only [run, List.mem_append, List.mem_map, Prod.exists, Prod.mk.injEq, ihfirst,
        ihsecond, Denotes]
      constructor
      · rintro (⟨inner, _, ⟨text, rfl, h⟩, rfl, rfl⟩ | ⟨inner, _, ⟨text, rfl, h⟩, rfl, rfl⟩)
        · exact ⟨text, rfl, .inl ⟨inner, rfl, h⟩⟩
        · exact ⟨text, rfl, .inr ⟨inner, rfl, h⟩⟩
      · rintro ⟨text, rfl, ⟨inner, rfl, h⟩ | ⟨inner, rfl, h⟩⟩
        · exact .inl ⟨inner, rest, ⟨text, rfl, h⟩, rfl, rfl⟩
        · exact .inr ⟨inner, rest, ⟨text, rfl, h⟩, rfl, rfl⟩
  | rep body min max ih =>
      simp only [run, mem_repeatRun_iff ih, Denotes]
      constructor
      · rintro ⟨count, hcount, text, rfl, h⟩
        refine ⟨text, rfl, count, ?_, h⟩
        rintro bound rfl
        exact hcount
      · rintro ⟨text, rfl, count, hmax, h⟩
        refine ⟨count, ?_, text, rfl, h⟩
        cases max with
        | none =>
            have hcount := h.count_le
            simp only [Option.getD_none, List.length_append]
            omega
        | some bound => exact hmax bound rfl
  | group body ih =>
      simp only [run, List.mem_map, Prod.exists, Prod.mk.injEq, ih, Denotes]
      constructor
      · rintro ⟨inner, _, ⟨text, rfl, h⟩, rfl, rfl⟩
        exact ⟨text, rfl, inner, by simp, h⟩
      · rintro ⟨text, rfl, inner, rfl, h⟩
        exact ⟨inner, rest, ⟨text, rfl, h⟩, by simp, rfl⟩
  | notAhead set =>
      simp only [run, Denotes]
      constructor
      · intro h
        cases input with
        | nil =>
            obtain ⟨rfl, rfl⟩ := Prod.mk.inj (List.mem_singleton.mp h)
            exact ⟨[], rfl, rfl, rfl, by simp⟩
        | cons c others =>
            simp only at h
            split at h
            · exact absurd h List.not_mem_nil
            · next hset =>
                obtain ⟨rfl, rfl⟩ := Prod.mk.inj (List.mem_singleton.mp h)
                exact ⟨[], rfl, rfl, rfl, by simpa using hset⟩
      · rintro ⟨_, rfl, rfl, rfl, hahead⟩
        cases rest with
        | nil => simp
        | cons c others => simp [hahead c rfl]

theorem denotes_of_exec {pattern : Pattern σ} {input : List σ} {captures : Captures σ}
    (h : pattern.exec input = some captures) : pattern.Denotes input [] captures := by
  obtain ⟨⟨inner, rest⟩, hfind, rfl⟩ := Option.map_eq_some_iff.mp h
  obtain ⟨text, rfl, hdenotes⟩ :=
    (mem_run_iff pattern input inner rest).mp (List.mem_of_find?_eq_some hfind)
  obtain rfl : rest = [] := by simpa using List.find?_some hfind
  simpa using hdenotes

theorem exec_isSome_of_denotes {pattern : Pattern σ} {input : List σ} {captures : Captures σ}
    (h : pattern.Denotes input [] captures) : (pattern.exec input).isSome = true := by
  have hmem := (mem_run_iff pattern input captures []).mpr ⟨input, by simp, h⟩
  rw [exec, Option.isSome_map, List.find?_isSome]
  exact ⟨_, hmem, rfl⟩

/-! ## Common shapes -/

@[simp] theorem denotes_rep_symbol {set : σ → Bool} {min : Nat} {max : Option Nat}
    {text rest : List σ} {captures : Captures σ} :
    (rep (symbol set) min max).Denotes text rest captures ↔
      (∀ c ∈ text, set c = true) ∧ min ≤ text.length ∧
        (∀ bound, max = some bound → text.length ≤ bound) ∧ captures = [] := by
  have hiterated : ∀ (count min : Nat) (text : List σ),
      Iterated (symbol set).Denotes count min text rest [] captures ↔
        (∀ c ∈ text, set c = true) ∧ min ≤ text.length ∧ text.length = count ∧
          captures = [] := by
    intro count
    induction count with
    | zero =>
        intro min text
        simp only [Iterated]
        constructor
        · rintro ⟨rfl, rfl, rfl⟩
          simp
        · rintro ⟨-, hmin, hlength, rfl⟩
          obtain rfl := List.length_eq_zero_iff.mp hlength
          exact ⟨Nat.le_zero.mp hmin, rfl, rfl⟩
    | succ count ih =>
        intro min text
        simp only [Iterated, Denotes]
        constructor
        · rintro ⟨_, others, _, rfl, -, ⟨⟨c, rfl, hc⟩, rfl⟩, hothers⟩
          obtain ⟨hall, hmin, hlength, rfl⟩ := (ih _ _).mp hothers
          simp only [List.singleton_append, List.mem_cons, forall_eq_or_imp, List.length_cons]
          exact ⟨⟨hc, hall⟩, by omega, by omega, trivial⟩
        · rintro ⟨hall, hmin, hlength, rfl⟩
          cases text with
          | nil => simp at hlength
          | cons c others =>
              rw [List.length_cons] at hmin hlength
              rw [List.forall_mem_cons] at hall
              exact ⟨[c], others, [], rfl, by simp, ⟨⟨c, rfl, hall.1⟩, rfl⟩,
                (ih _ _).mpr ⟨hall.2, by omega, by omega, rfl⟩⟩
  constructor
  · rintro ⟨count, hmax, h⟩
    obtain ⟨hall, hmin, rfl, hcaptures⟩ := (hiterated _ _ _).mp h
    exact ⟨hall, hmin, hmax, hcaptures⟩
  · rintro ⟨hall, hmin, hmax, hcaptures⟩
    exact ⟨text.length, hmax, (hiterated _ _ _).mpr ⟨hall, hmin, rfl, hcaptures⟩⟩

def opt (body : Pattern σ) : Pattern σ := rep body 0 (some 1)

@[simp] theorem denotes_opt {body : Pattern σ} {text rest : List σ} {captures : Captures σ} :
    (opt body).Denotes text rest captures ↔
      (text = [] ∧ captures = noCaptures body.groups) ∨
        (text ≠ [] ∧ body.Denotes text rest captures) := by
  simp only [opt, Denotes, Option.some.injEq, forall_eq']
  constructor
  · rintro ⟨count, hcount, h⟩
    obtain rfl | rfl : count = 0 ∨ count = 1 := by omega
    · exact .inl ⟨h.2.1, h.2.2⟩
    · obtain ⟨first, _, inner, rfl, hnonempty, hfirst, -, rfl, rfl⟩ := h
      exact .inr ⟨by simpa using hnonempty rfl, by simpa using hfirst⟩
  · rintro (⟨rfl, rfl⟩ | ⟨hnonempty, h⟩)
    · exact ⟨0, by omega, rfl, rfl, rfl⟩
    · exact ⟨1, Nat.le_refl _, text, [], captures, by simp, fun _ => hnonempty, by simpa using h,
        rfl, rfl, rfl⟩

def word : List (σ → Bool) → Pattern σ
  | [] => empty
  | set :: sets => seq (symbol set) (word sets)

@[simp] theorem denotes_word {sets : List (σ → Bool)} {text rest : List σ}
    {captures : Captures σ} :
    (word sets).Denotes text rest captures ↔
      List.Forall₂ (fun set c => set c = true) sets text ∧ captures = [] := by
  induction sets generalizing text captures with
  | nil => simp [word, Denotes, List.forall₂_nil_left_iff]
  | cons set sets ih =>
      simp only [word, Denotes, ih]
      constructor
      · rintro ⟨_, others, _, _, rfl, rfl, ⟨⟨c, rfl, hc⟩, rfl⟩, hothers, rfl⟩
        exact ⟨.cons hc hothers, rfl⟩
      · rintro ⟨_ | ⟨hc, hothers⟩, rfl⟩
        exact ⟨[_], _, [], [], rfl, rfl, ⟨⟨_, rfl, hc⟩, rfl⟩, hothers, rfl⟩

/-! ## Literals, greedy runs and short gaps -/

section Exactly

variable [DecidableEq σ]

def exactly (text : List σ) : Pattern σ := word (text.map fun c d => decide (d = c))

@[simp] theorem denotes_exactly {expected text rest : List σ} {captures : Captures σ} :
    (exactly expected).Denotes text rest captures ↔ text = expected ∧ captures = [] := by
  rw [exactly, denotes_word, List.forall₂_map_left_iff, and_congr_left_iff]
  rintro rfl
  simp only [decide_eq_true_eq]
  constructor
  · intro h
    induction h with
    | nil => rfl
    | cons hc _ ih => rw [hc, ih]
  · rintro rfl
    exact List.forall₂_same.mpr fun _ _ => rfl

theorem run_exactly_append (text rest : List σ) :
    (exactly text).run (text ++ rest) = [([], rest)] := by
  induction text with
  | nil => rfl
  | cons c text ih =>
      rw [exactly] at ih
      simp [exactly, word, run, ih]

end Exactly

/-- A greedy repetition first takes every symbol of its set. -/
theorem head_repeatRun_symbol (set : σ → Bool) {text rest : List σ}
    (htext : ∀ c ∈ text, set c = true) (hrest : ∀ c, rest.head? = some c → set c = false)
    {budget : Nat} (hbudget : text.length ≤ budget) :
    (repeatRun (symbol set).run budget 0 [] (text ++ rest)).head? = some ([], rest) := by
  induction budget generalizing text with
  | zero =>
      obtain rfl : text = [] := List.length_eq_zero_iff.mp (Nat.le_zero.mp hbudget)
      simp [repeatRun]
  | succ budget ih =>
      cases text with
      | nil =>
          have hrun : (symbol set).run rest = [] := by
            cases rest with
            | nil => rfl
            | cons c rest => simp [run, hrest c rfl]
          simp [repeatRun, hrun]
      | cons c text =>
          rw [List.forall_mem_cons] at htext
          rw [List.length_cons] at hbudget
          have hrun : (symbol set).run (c :: (text ++ rest)) = [([], text ++ rest)] := by
            simp [run, htext.1]
          have hhead := ih htext.2 (Nat.le_of_succ_le_succ hbudget)
          simp [repeatRun, hrun, hhead]

theorem head_run_rep_symbol (set : σ → Bool) {text rest : List σ} (hne : text ≠ [])
    (htext : ∀ c ∈ text, set c = true) (hrest : ∀ c, rest.head? = some c → set c = false) :
    ((rep (symbol set) 1 none).run (text ++ rest)).head? = some ([], rest) := by
  obtain ⟨c, text, rfl⟩ := List.exists_cons_of_ne_nil hne
  rw [List.forall_mem_cons] at htext
  have hrun : (symbol set).run (c :: (text ++ rest)) = [([], text ++ rest)] := by
    simp [run, htext.1]
  have hlength : text.length ≤ (text ++ rest).length + 1 := by
    rw [List.length_append]
    omega
  have hhead := head_repeatRun_symbol set htext.2 hrest hlength
  have hbudget : 1 + (c :: (text ++ rest)).length = (text ++ rest).length + 1 + 1 := by
    rw [List.length_cons]
    omega
  rw [List.cons_append, run, Option.getD_none, hbudget, repeatRun, hrun]
  simpa using hhead

/-- `{0,bound}?` of a set, as nested alternatives: the shortest run first. -/
def lazyUpTo (set : σ → Bool) : Nat → Pattern σ
  | 0 => empty
  | bound + 1 => alt empty (seq (symbol set) (lazyUpTo set bound))

@[simp] theorem groups_lazyUpTo (set : σ → Bool) (bound : Nat) :
    (lazyUpTo set bound).groups = 0 := by
  induction bound with
  | zero => rfl
  | succ bound ih => simp [lazyUpTo, groups, ih]

@[simp] theorem denotes_lazyUpTo {set : σ → Bool} {bound : Nat} {text rest : List σ}
    {captures : Captures σ} :
    (lazyUpTo set bound).Denotes text rest captures ↔
      (∀ c ∈ text, set c = true) ∧ text.length ≤ bound ∧ captures = [] := by
  induction bound generalizing text captures with
  | zero =>
      simp only [lazyUpTo, Denotes, Nat.le_zero, List.length_eq_zero_iff]
      constructor
      · rintro ⟨rfl, rfl⟩
        simp
      · rintro ⟨-, rfl, rfl⟩
        simp
  | succ bound ih =>
      simp only [lazyUpTo, Denotes, ih, groups, groups_lazyUpTo, noCaptures, List.replicate_zero,
        List.nil_append]
      constructor
      · rintro (⟨_, rfl, rfl, rfl⟩ | ⟨_, rfl, _, others, _, _, rfl, rfl, ⟨⟨c, rfl, hc⟩, rfl⟩,
          hothers, hlength, rfl⟩)
        · simp
        · simp only [List.singleton_append, List.forall_mem_cons, List.length_cons]
          exact ⟨⟨hc, hothers⟩, Nat.succ_le_succ hlength, rfl⟩
      · rintro ⟨hall, hlength, rfl⟩
        cases text with
        | nil => exact .inl ⟨[], rfl, rfl, rfl⟩
        | cons c others =>
            rw [List.forall_mem_cons] at hall
            rw [List.length_cons] at hlength
            exact .inr ⟨[], rfl, [c], others, [], [], rfl, rfl, ⟨⟨c, rfl, hall.1⟩, rfl⟩, hall.2,
              Nat.le_of_succ_le_succ hlength, rfl⟩

/-! ## Captures and renamed symbols -/

theorem length_captures {pattern : Pattern σ} {text rest : List σ} {captures : Captures σ}
    (h : pattern.Denotes text rest captures) : captures.length = pattern.groups := by
  induction pattern generalizing text rest captures with
  | empty => simp [h.2, groups]
  | symbol set => simp [h.2, groups]
  | notAhead set => simp [h.2.1, groups]
  | lazy set => simp [h.2, groups]
  | seq first second ihfirst ihsecond =>
      obtain ⟨one, two, inner, others, -, rfl, hone, htwo⟩ := h
      rw [List.length_append, ihfirst hone, ihsecond htwo, groups]
  | alt first second ihfirst ihsecond =>
      rcases h with ⟨inner, rfl, h⟩ | ⟨inner, rfl, h⟩
      · rw [List.length_append, ihfirst h, noCaptures, List.length_replicate, groups]
      · rw [List.length_append, ihsecond h, noCaptures, List.length_replicate, groups]
  | group body ih =>
      obtain ⟨inner, rfl, h⟩ := h
      rw [List.length_cons, ih h, groups]
  | rep body min max ih =>
      obtain ⟨count, -, h⟩ := h
      have hiterated : ∀ {count min : Nat} {text : List σ} {last : Captures σ},
          last.length = body.groups → Iterated body.Denotes count min text rest last captures →
            captures.length = body.groups := by
        intro count
        induction count with
        | zero =>
            rintro min text last hlast ⟨-, -, rfl⟩
            exact hlast
        | succ count ihcount =>
            rintro min text last - ⟨first, others, inner, -, -, hfirst, hothers⟩
            exact ihcount (ih hfirst) hothers
      exact hiterated (List.length_replicate ..) h

def All (P : (σ → Bool) → Prop) : Pattern σ → Prop
  | empty => True
  | symbol set | notAhead set | lazy set => P set
  | seq first second | alt first second => first.All P ∧ second.All P
  | rep body _ _ | group body => body.All P

theorem forall_mem_of_denotes {pattern : Pattern σ} {P : σ → Prop}
    (hsets : pattern.All fun set => ∀ c, set c = true → P c) {text rest : List σ}
    {captures : Captures σ} (h : pattern.Denotes text rest captures) : ∀ c ∈ text, P c := by
  induction pattern generalizing text rest captures with
  | empty => simp [h.1]
  | symbol set =>
      obtain ⟨⟨c, rfl, hc⟩, -⟩ := h
      simpa using hsets c hc
  | notAhead set => simp [h.1]
  | lazy set => exact fun c hc => hsets c (h.1 c hc)
  | seq first second ihfirst ihsecond =>
      obtain ⟨one, two, inner, others, rfl, -, hone, htwo⟩ := h
      exact List.forall_mem_append.mpr ⟨ihfirst hsets.1 hone, ihsecond hsets.2 htwo⟩
  | alt first second ihfirst ihsecond =>
      rcases h with ⟨inner, -, h⟩ | ⟨inner, -, h⟩
      · exact ihfirst hsets.1 h
      · exact ihsecond hsets.2 h
  | group body ih =>
      obtain ⟨inner, -, h⟩ := h
      exact ih hsets h
  | rep body min max ih =>
      obtain ⟨count, -, h⟩ := h
      generalize noCaptures body.groups = last at h
      induction count generalizing min text last with
      | zero => simp [h.2.1]
      | succ count ihcount =>
          obtain ⟨first, others, inner, rfl, -, hfirst, hothers⟩ := h
          exact List.forall_mem_append.mpr ⟨ih hsets hfirst, ihcount (min - 1) hsets _ hothers⟩

def minLength : Pattern σ → Nat
  | empty | notAhead _ | lazy _ => 0
  | symbol _ => 1
  | seq first second => first.minLength + second.minLength
  | alt first second => Min.min first.minLength second.minLength
  | rep body min _ => min * body.minLength
  | group body => body.minLength

theorem minLength_le {pattern : Pattern σ} {text rest : List σ} {captures : Captures σ}
    (h : pattern.Denotes text rest captures) : pattern.minLength ≤ text.length := by
  induction pattern generalizing text rest captures with
  | empty => exact Nat.zero_le _
  | notAhead set => exact Nat.zero_le _
  | lazy set => exact Nat.zero_le _
  | symbol set =>
      obtain ⟨⟨c, rfl, -⟩, -⟩ := h
      exact Nat.le_refl 1
  | seq first second ihfirst ihsecond =>
      obtain ⟨one, two, inner, others, rfl, -, hone, htwo⟩ := h
      rw [List.length_append]
      exact Nat.add_le_add (ihfirst hone) (ihsecond htwo)
  | alt first second ihfirst ihsecond =>
      rcases h with ⟨inner, -, h⟩ | ⟨inner, -, h⟩
      · exact Nat.le_trans (Nat.min_le_left _ _) (ihfirst h)
      · exact Nat.le_trans (Nat.min_le_right _ _) (ihsecond h)
  | group body ih =>
      obtain ⟨inner, -, h⟩ := h
      exact ih h
  | rep body min max ih =>
      obtain ⟨count, -, h⟩ := h
      simp only [minLength]
      generalize noCaptures body.groups = last at h
      induction count generalizing min text last with
      | zero => simp [h.1]
      | succ count ihcount =>
          obtain ⟨first, others, inner, rfl, -, hfirst, hothers⟩ := h
          have hlength := ihcount _ _ hothers
          rw [List.length_append]
          cases min with
          | zero => simp
          | succ min =>
              rw [Nat.succ_mul]
              have hone := ih hfirst
              rw [Nat.add_sub_cancel] at hlength
              omega

theorem Denotes.map {pattern : Pattern σ} {f : σ → σ}
    (hsets : pattern.All fun set => ∀ c, set (f c) = set c) {text rest : List σ}
    {captures : Captures σ} (h : pattern.Denotes text rest captures) :
    pattern.Denotes (text.map f) (rest.map f) (captures.map (Option.map (List.map f))) := by
  have hnone : ∀ n : Nat, (noCaptures n).map (Option.map (List.map f)) = noCaptures n := by
    intro n
    simp [noCaptures]
  induction pattern generalizing text rest captures with
  | empty =>
      obtain ⟨rfl, rfl⟩ := h
      exact ⟨rfl, rfl⟩
  | symbol set =>
      obtain ⟨⟨c, rfl, hc⟩, rfl⟩ := h
      exact ⟨⟨f c, rfl, (hsets c).trans hc⟩, rfl⟩
  | notAhead set =>
      obtain ⟨rfl, rfl, hahead⟩ := h
      refine ⟨rfl, rfl, fun c hc => ?_⟩
      rw [List.head?_map] at hc
      obtain ⟨d, hd, rfl⟩ := Option.map_eq_some_iff.mp hc
      exact (hsets d).trans (hahead d hd)
  | lazy set =>
      obtain ⟨hall, rfl⟩ := h
      refine ⟨fun c hc => ?_, rfl⟩
      obtain ⟨d, hd, rfl⟩ := List.mem_map.mp hc
      exact (hsets d).trans (hall d hd)
  | seq first second ihfirst ihsecond =>
      obtain ⟨one, two, inner, others, rfl, rfl, hone, htwo⟩ := h
      have hfirst := ihfirst hsets.1 hone
      rw [List.map_append] at hfirst
      exact ⟨one.map f, two.map f, _, _, List.map_append, List.map_append, hfirst,
        ihsecond hsets.2 htwo⟩
  | alt first second ihfirst ihsecond =>
      rcases h with ⟨inner, rfl, h⟩ | ⟨inner, rfl, h⟩
      · exact .inl ⟨_, by rw [List.map_append, hnone], ihfirst hsets.1 h⟩
      · exact .inr ⟨_, by rw [List.map_append, hnone], ihsecond hsets.2 h⟩
  | group body ih =>
      obtain ⟨inner, rfl, h⟩ := h
      exact ⟨_, rfl, ih hsets h⟩
  | rep body min max ih =>
      obtain ⟨count, hmax, h⟩ := h
      have hiterated : ∀ {count min : Nat} {text : List σ} {last : Captures σ},
          Iterated body.Denotes count min text rest last captures →
            Iterated body.Denotes count min (text.map f) (rest.map f)
              (last.map (Option.map (List.map f))) (captures.map (Option.map (List.map f))) := by
        intro count
        induction count with
        | zero =>
            rintro min text last ⟨hmin, rfl, rfl⟩
            exact ⟨hmin, rfl, rfl⟩
        | succ count ihcount =>
            rintro min text last ⟨first, others, inner, rfl, hnonempty, hfirst, hothers⟩
            have hmapped := ih hsets hfirst
            rw [List.map_append] at hmapped
            exact ⟨first.map f, others.map f, _, List.map_append,
              fun hmin hnil => hnonempty hmin (List.map_eq_nil_iff.mp hnil), hmapped,
              ihcount hothers⟩
      refine ⟨count, hmax, ?_⟩
      rw [← hnone]
      exact hiterated h

/-! ## Every match of a text -/

def matchLength (pattern : Pattern σ) (input : List σ) : Option Nat :=
  (pattern.run input).head?.map fun (_, rest) => input.length - rest.length

/-- The places of all matches from left to right, where `offset` symbols went before and the
last match still covers the next `skip`. -/
def matchesFrom (pattern : Pattern σ) : (offset skip : Nat) → List σ → List (Nat × Nat)
  | offset, skip + 1, _ :: rest => matchesFrom pattern (offset + 1) skip rest
  | _, _ + 1, [] => []
  | offset, 0, [] =>
      match pattern.matchLength [] with
      | some length => [(offset, offset + length)]
      | none => []
  | offset, 0, c :: rest =>
      match pattern.matchLength (c :: rest) with
      | some length =>
          (offset, offset + length) :: matchesFrom pattern (offset + 1) (length - 1) rest
      | none => matchesFrom pattern (offset + 1) 0 rest

def matchAll (pattern : Pattern σ) (input : List σ) : List (Nat × Nat) :=
  matchesFrom pattern 0 0 input

theorem matchLength_bounds {pattern : Pattern σ} {input : List σ} {length : Nat}
    (h : pattern.matchLength input = some length) :
    pattern.minLength ≤ length ∧ length ≤ input.length := by
  obtain ⟨⟨captures, rest⟩, hhead, rfl⟩ := Option.map_eq_some_iff.mp h
  obtain ⟨text, rfl, hdenotes⟩ :=
    (mem_run_iff pattern input captures rest).mp (List.mem_of_mem_head? hhead)
  have hmin := minLength_le hdenotes
  simp only [List.length_append]
  omega

theorem matchesFrom_ascending {pattern : Pattern σ} (hpattern : 0 < pattern.minLength)
    (offset skip : Nat) (input : List σ) :
    (matchesFrom pattern offset skip input).Pairwise (fun first second =>
        first.2 ≤ second.1) ∧
      ∀ place ∈ matchesFrom pattern offset skip input, offset + skip ≤ place.1 ∧
        place.1 < place.2 ∧ place.2 ≤ offset + input.length := by
  induction input generalizing offset skip with
  | nil =>
      cases skip with
      | succ skip => simp [matchesFrom]
      | zero =>
          have hnone : pattern.matchLength [] = none := by
            cases hlength : pattern.matchLength [] with
            | none => rfl
            | some length =>
                have hbounds := matchLength_bounds hlength
                rw [List.length_nil] at hbounds
                omega
          simp [matchesFrom, hnone]
  | cons c rest ih =>
      cases skip with
      | succ skip =>
          obtain ⟨hpairwise, hplaces⟩ := ih (offset + 1) skip
          refine ⟨hpairwise, fun place hplace => ?_⟩
          have hbounds := hplaces place hplace
          rw [List.length_cons]
          omega
      | zero =>
          cases hlength : pattern.matchLength (c :: rest) with
          | none =>
              simp only [matchesFrom, hlength]
              obtain ⟨hpairwise, hplaces⟩ := ih (offset + 1) 0
              refine ⟨hpairwise, fun place hplace => ?_⟩
              have hbounds := hplaces place hplace
              rw [List.length_cons]
              omega
          | some length =>
              simp only [matchesFrom, hlength, List.pairwise_cons, List.forall_mem_cons]
              obtain ⟨hpairwise, hplaces⟩ := ih (offset + 1) (length - 1)
              obtain ⟨hmin, hmax⟩ := matchLength_bounds hlength
              rw [List.length_cons] at hmax ⊢
              refine ⟨⟨fun place hplace => ?_, hpairwise⟩, ⟨by omega, by omega, by omega⟩,
                fun place hplace => ?_⟩
              · have hbounds := hplaces place hplace
                omega
              · have hbounds := hplaces place hplace
                omega

theorem matchLength_of_mem_matchesFrom {pattern : Pattern σ} {offset skip : Nat}
    {input : List σ} {place : Nat × Nat} (h : place ∈ matchesFrom pattern offset skip input) :
    ∃ start ≤ input.length, place.1 = offset + start ∧ place.1 ≤ place.2 ∧
      pattern.matchLength (input.drop start) = some (place.2 - place.1) := by
  induction input generalizing offset skip with
  | nil =>
      cases skip with
      | succ skip => simp [matchesFrom] at h
      | zero =>
          cases hlength : pattern.matchLength [] with
          | none => simp [matchesFrom, hlength] at h
          | some length =>
              obtain rfl : place = (offset, offset + length) := by
                simpa [matchesFrom, hlength] using h
              exact ⟨0, Nat.le_refl 0, rfl, by simp, by simp [hlength]⟩
  | cons c rest ih =>
      have hlater : ∀ skip, place ∈ matchesFrom pattern (offset + 1) skip rest →
          ∃ start ≤ (c :: rest).length, place.1 = offset + start ∧ place.1 ≤ place.2 ∧
            pattern.matchLength ((c :: rest).drop start) = some (place.2 - place.1) := by
        intro skip hplace
        obtain ⟨start, hstart, hfirst, hle, hmatch⟩ := ih hplace
        exact ⟨start + 1, Nat.succ_le_succ hstart, by omega, hle, hmatch⟩
      cases skip with
      | succ skip => exact hlater skip h
      | zero =>
          cases hlength : pattern.matchLength (c :: rest) with
          | none =>
              simp only [matchesFrom, hlength] at h
              exact hlater 0 h
          | some length =>
              simp only [matchesFrom, hlength, List.mem_cons] at h
              rcases h with rfl | h
              · exact ⟨0, Nat.zero_le _, rfl, by simp, by simp [hlength]⟩
              · exact hlater _ h

/-- A place that matches is listed, or a listed match starts before it and covers it. -/
theorem mem_matchesFrom_or_covered {pattern : Pattern σ} {offset skip start length : Nat}
    {input : List σ} (hskip : skip ≤ start) (hstart : start < input.length)
    (h : pattern.matchLength (input.drop start) = some length) :
    (offset + start, offset + start + length) ∈ matchesFrom pattern offset skip input ∨
      ∃ place ∈ matchesFrom pattern offset skip input,
        place.1 < offset + start ∧ offset + start < place.2 := by
  induction input generalizing offset skip start with
  | nil => simp at hstart
  | cons c rest ih =>
      cases skip with
      | succ skip =>
          obtain ⟨start, rfl⟩ := Nat.exists_eq_succ_of_ne_zero (by omega : start ≠ 0)
          rw [List.length_cons] at hstart
          have hrest := @ih (offset + 1) skip start (by omega) (by omega) h
          rw [show offset + 1 + start = offset + (start + 1) by omega] at hrest
          exact hrest
      | zero =>
          cases start with
          | zero =>
              rw [List.drop_zero] at h
              simp [matchesFrom, h]
          | succ start =>
              rw [List.length_cons] at hstart
              rw [List.drop_succ_cons] at h
              cases hlength : pattern.matchLength (c :: rest) with
              | none =>
                  simp only [matchesFrom, hlength]
                  have hrest := @ih (offset + 1) 0 start (Nat.zero_le start) (by omega) h
                  rw [show offset + 1 + start = offset + (start + 1) by omega] at hrest
                  exact hrest
              | some first =>
                  simp only [matchesFrom, hlength]
                  by_cases hcovered : start + 1 < first
                  · exact .inr ⟨_, List.mem_cons_self, by omega, by omega⟩
                  · have hrest := @ih (offset + 1) (first - 1) start (by omega) (by omega) h
                    rw [show offset + 1 + start = offset + (start + 1) by omega] at hrest
                    rcases hrest with hlisted | ⟨place, hplace, hcovers⟩
                    · exact .inl (List.mem_cons_of_mem _ hlisted)
                    · exact .inr ⟨place, List.mem_cons_of_mem _ hplace, hcovers⟩

end Pattern

end Raft.Foundation
