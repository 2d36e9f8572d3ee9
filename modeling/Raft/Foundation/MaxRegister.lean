import Mathlib.Data.List.Basic
import Mathlib.Order.Lattice

/-!
# Registers that keep the item of greatest rank

A register is empty or holds one item, and an offered item replaces the held
one when its rank is strictly greater.  The register after a list of offers
holds an item of greatest rank, so on items that their rank determines it
depends on the set of offered items only.
-/

namespace Raft.Foundation

universe u v

variable {α : Type u} {β : Type v} [LinearOrder β] (rank : α → β)

def offer (held : Option α) (item : α) : Option α :=
  match held with
  | none => some item
  | some old => if rank old < rank item then some item else some old

def offerAll (held : Option α) (items : List α) : Option α :=
  items.foldl (offer rank) held

@[simp] theorem offerAll_nil (held : Option α) : offerAll rank held [] = held := rfl

theorem offer_spec (held : Option α) (item : α) :
    ∃ kept, offer rank held item = some kept ∧ (held = some kept ∨ item = kept) ∧
      rank item ≤ rank kept ∧ ∀ old, held = some old → rank old ≤ rank kept := by
  cases held with
  | none => exact ⟨item, rfl, Or.inr rfl, le_refl _, by simp⟩
  | some old =>
      by_cases hlt : rank old < rank item
      · refine ⟨item, if_pos hlt, Or.inr rfl, le_refl _, ?_⟩
        rintro _ ⟨⟩
        exact hlt.le
      · refine ⟨old, if_neg hlt, Or.inl rfl, not_lt.mp hlt, ?_⟩
        rintro _ ⟨⟩
        exact le_refl _

theorem offer_of_le {held item : α} (h : rank item ≤ rank held) :
    offer rank (some held) item = some held :=
  if_neg (not_lt.mpr h)

theorem offer_of_lt {held item : α} (h : rank held < rank item) :
    offer rank (some held) item = some item :=
  if_pos h

/-- The register ends with an item it held or was offered, and none of them ranks higher. -/
theorem offerAll_spec {held : Option α} {items : List α} {kept : α}
    (h : offerAll rank held items = some kept) :
    (held = some kept ∨ kept ∈ items) ∧ (∀ old, held = some old → rank old ≤ rank kept) ∧
      ∀ item ∈ items, rank item ≤ rank kept := by
  induction items generalizing held with
  | nil =>
      subst h
      refine ⟨Or.inl rfl, ?_, by simp⟩
      rintro _ ⟨⟩
      exact le_refl _
  | cons item items ih =>
      obtain ⟨middle, hmiddle, hsource, hitem, hheld⟩ := offer_spec rank held item
      obtain ⟨hkept, hmono, hrest⟩ := ih h
      refine ⟨?_, fun old hold => le_trans (hheld old hold) (hmono middle hmiddle), ?_⟩
      · rcases hkept with hkept | hkept
        · rw [hmiddle] at hkept
          cases hkept
          rcases hsource with hheld' | rfl
          · exact Or.inl hheld'
          · exact Or.inr List.mem_cons_self
        · exact Or.inr (List.mem_cons_of_mem _ hkept)
      · intro other hother
        rcases List.mem_cons.mp hother with rfl | hmem
        · exact le_trans hitem (hmono middle hmiddle)
        · exact hrest other hmem

theorem offerAll_isSome (held : Option α) {items : List α}
    (h : held.isSome = true ∨ items ≠ []) : ∃ kept, offerAll rank held items = some kept := by
  induction items generalizing held with
  | nil => exact Option.isSome_iff_exists.mp (h.resolve_right (by simp))
  | cons item items ih =>
      obtain ⟨middle, hmiddle, -⟩ := offer_spec rank held item
      exact ih _ (Or.inl (by rw [hmiddle]; rfl))

theorem offerAll_none_eq_none {items : List α} :
    offerAll rank none items = none ↔ items = [] := by
  constructor
  · intro hnone
    by_contra hne
    obtain ⟨kept, hkept⟩ := offerAll_isSome rank none (Or.inr hne)
    rw [hnone] at hkept
    cases hkept
  · rintro rfl
    rfl

theorem offerAll_eq_of_max {items : List α} {top : α} (hmem : top ∈ items)
    (hmax : ∀ item ∈ items, rank item ≤ rank top)
    (hunique : ∀ item ∈ items, rank item = rank top → item = top) :
    offerAll rank none items = some top := by
  obtain ⟨kept, hkept⟩ := offerAll_isSome rank none (Or.inr (List.ne_nil_of_mem hmem))
  obtain ⟨hsource, -, hall⟩ := offerAll_spec rank hkept
  have hkeptMem : kept ∈ items := hsource.resolve_left (by simp)
  rw [hkept, hunique kept hkeptMem (le_antisymm (hmax kept hkeptMem) (hall top hmem))]

theorem offerAll_congr {first second : List α} (hmem : ∀ item, item ∈ first ↔ item ∈ second)
    (hunique : ∀ item ∈ first, ∀ other ∈ first, rank item = rank other → item = other) :
    offerAll rank none first = offerAll rank none second := by
  cases hfirst : offerAll rank none first with
  | none =>
      rw [offerAll_none_eq_none] at hfirst
      subst hfirst
      have hsecond : second = [] := List.eq_nil_iff_forall_not_mem.mpr fun item hitem => by
        simpa using (hmem item).mpr hitem
      rw [hsecond, offerAll_nil]
  | some top =>
      obtain ⟨hsource, -, hall⟩ := offerAll_spec rank hfirst
      have htop : top ∈ first := hsource.resolve_left (by simp)
      refine (offerAll_eq_of_max rank ((hmem top).mp htop) ?_ ?_).symm
      · exact fun item hitem => hall item ((hmem item).mpr hitem)
      · exact fun item hitem => hunique item ((hmem item).mpr hitem) top htop

/-! ## The first item of greatest rank -/

def FirstGreatest (items : List α) (top : α) : Prop :=
  ∃ before after, items = before ++ top :: after ∧
    (∀ item ∈ before, rank item < rank top) ∧ ∀ item ∈ after, rank item ≤ rank top

theorem not_firstGreatest_nil {top : α} : ¬ FirstGreatest rank [] top := by
  rintro ⟨before, after, hitems, -⟩
  exact absurd hitems.symm (by simp)

theorem firstGreatest_cons {item top : α} {items : List α} :
    FirstGreatest rank (item :: items) top ↔
      (item = top ∧ ∀ other ∈ items, rank other ≤ rank top) ∨
        (rank item < rank top ∧ FirstGreatest rank items top) := by
  constructor
  · rintro ⟨before, after, hitems, hbefore, hafter⟩
    cases before with
    | nil =>
        obtain ⟨rfl, rfl⟩ := List.cons.inj hitems
        exact Or.inl ⟨rfl, hafter⟩
    | cons first before =>
        obtain ⟨rfl, rfl⟩ := List.cons.inj hitems
        exact Or.inr ⟨hbefore item List.mem_cons_self, before, after, rfl,
          fun other hmem => hbefore other (List.mem_cons_of_mem _ hmem), hafter⟩
  · rintro (⟨rfl, hrest⟩ | ⟨hlt, before, after, rfl, hbefore, hafter⟩)
    · exact ⟨[], items, rfl, by simp, hrest⟩
    · refine ⟨item :: before, after, rfl, ?_, hafter⟩
      intro other hmem
      rcases List.mem_cons.mp hmem with rfl | hmem
      · exact hlt
      · exact hbefore other hmem

theorem firstGreatest_map {γ : Type*} {rankOf : γ → β} {f : γ → α} (hinj : Function.Injective f)
    (hrank : ∀ first second, rank (f first) < rank (f second) ↔ rankOf first < rankOf second)
    {items : List γ} {top : γ} :
    FirstGreatest rank (items.map f) (f top) ↔ FirstGreatest rankOf items top := by
  induction items with
  | nil => exact iff_of_false (not_firstGreatest_nil _) (not_firstGreatest_nil _)
  | cons item items ih =>
      rw [List.map_cons, firstGreatest_cons, firstGreatest_cons, ih, hrank, hinj.eq_iff,
        List.forall_mem_map]
      simp only [← not_lt, hrank]

/-- The register keeps what it holds, or ends with the first offer of greatest rank. -/
theorem offerAll_eq_some_iff {held kept : α} {items : List α} :
    offerAll rank (some held) items = some kept ↔
      (held = kept ∧ ∀ item ∈ items, rank item ≤ rank held) ∨
        (rank held < rank kept ∧ FirstGreatest rank items kept) := by
  induction items generalizing held with
  | nil => simp [not_firstGreatest_nil]
  | cons item items ih =>
      have hstep : offerAll rank (some held) (item :: items) =
          offerAll rank (offer rank (some held) item) items := rfl
      rw [hstep, firstGreatest_cons, List.forall_mem_cons]
      by_cases hlt : rank held < rank item
      · rw [offer_of_lt rank hlt, ih]
        constructor
        · rintro (⟨rfl, hrest⟩ | ⟨hgreater, hfirst⟩)
          · exact Or.inr ⟨hlt, Or.inl ⟨rfl, hrest⟩⟩
          · exact Or.inr ⟨hlt.trans hgreater, Or.inr ⟨hgreater, hfirst⟩⟩
        · rintro (⟨-, hle, -⟩ | ⟨-, ⟨rfl, hrest⟩ | hlater⟩)
          · exact absurd hlt (not_lt.mpr hle)
          · exact Or.inl ⟨rfl, hrest⟩
          · exact Or.inr hlater
      · have hle := not_lt.mp hlt
        rw [offer_of_le rank hle, ih]
        constructor
        · rintro (⟨rfl, hrest⟩ | ⟨hgreater, hfirst⟩)
          · exact Or.inl ⟨rfl, hle, hrest⟩
          · exact Or.inr ⟨hgreater, Or.inr ⟨lt_of_le_of_lt hle hgreater, hfirst⟩⟩
        · rintro (⟨rfl, -, hrest⟩ | ⟨hgreater, ⟨rfl, -⟩ | ⟨-, hfirst⟩⟩)
          · exact Or.inl ⟨rfl, hrest⟩
          · exact absurd hgreater hlt
          · exact Or.inr ⟨hgreater, hfirst⟩

/-! ## Registers that cannot hold every item -/

variable (keeps : α → Bool)

/-- An item that outranks the held one but cannot be kept leaves the register empty. -/
def offerKept (held : Option α) (item : α) : Option α :=
  match held with
  | none => if keeps item then some item else none
  | some old =>
      if rank old < rank item then if keeps item then some item else none else some old

def offerKeptAll (held : Option α) (items : List α) : Option α :=
  items.foldl (offerKept rank keeps) held

@[simp] theorem offerKeptAll_nil (held : Option α) :
    offerKeptAll rank keeps held [] = held := rfl

@[simp] theorem offerKeptAll_cons (held : Option α) (item : α) (items : List α) :
    offerKeptAll rank keeps held (item :: items) =
      offerKeptAll rank keeps (offerKept rank keeps held item) items := rfl

theorem offerKeptAll_append (held : Option α) (first second : List α) :
    offerKeptAll rank keeps held (first ++ second) =
      offerKeptAll rank keeps (offerKeptAll rank keeps held first) second := by
  rw [offerKeptAll, List.foldl_append]
  rfl

theorem offerKept_source {held : Option α} {item kept : α}
    (h : offerKept rank keeps held item = some kept) :
    held = some kept ∨ (item = kept ∧ keeps kept = true) := by
  have hsplit : (if keeps item then some item else none) = some kept →
      item = kept ∧ keeps kept = true := by
    intro h
    split at h
    · cases h
      exact ⟨rfl, ‹_›⟩
    · cases h
  cases held with
  | none => exact Or.inr (hsplit h)
  | some old =>
      simp only [offerKept] at h
      split at h
      · exact Or.inr (hsplit h)
      · exact Or.inl h

theorem offerKeptAll_source {held : Option α} {items : List α} {kept : α}
    (h : offerKeptAll rank keeps held items = some kept) :
    held = some kept ∨ (kept ∈ items ∧ keeps kept = true) := by
  induction items generalizing held with
  | nil => exact Or.inl h
  | cons item items ih =>
      rcases ih h with hmiddle | ⟨hmem, hkeeps⟩
      · rcases offerKept_source rank keeps hmiddle with hheld | ⟨rfl, hkeeps⟩
        · exact Or.inl hheld
        · exact Or.inr ⟨List.mem_cons_self, hkeeps⟩
      · exact Or.inr ⟨List.mem_cons_of_mem _ hmem, hkeeps⟩

theorem offerKeptAll_eq_of_max {held : Option α} {items : List α} {top : α}
    (hkeeps : keeps top = true)
    (hmax : ∀ item ∈ items, rank item < rank top ∨ item = top)
    (hheld : ∀ old, held = some old → rank old < rank top ∨ old = top)
    (hsource : held = some top ∨ top ∈ items) :
    offerKeptAll rank keeps held items = some top := by
  induction items generalizing held with
  | nil => exact hsource.resolve_right (by simp)
  | cons item items ih =>
      have hitem := hmax item List.mem_cons_self
      have hkept : ∀ old, offerKept rank keeps held item = some old →
          rank old < rank top ∨ old = top := by
        intro old hold
        rcases offerKept_source rank keeps hold with h | ⟨rfl, -⟩
        · exact hheld old h
        · exact hitem
      refine ih (fun other hother => hmax other (List.mem_cons_of_mem _ hother)) hkept ?_
      rcases hsource with rfl | hmem
      · have hnot : ¬ rank top < rank item := by
          rcases hitem with hlt | rfl
          · exact not_lt.mpr hlt.le
          · exact lt_irrefl _
        exact Or.inl (if_neg hnot)
      · rcases List.mem_cons.mp hmem with rfl | hrest
        · cases held with
          | none => exact Or.inl (by simp [offerKept, hkeeps])
          | some old =>
              rcases hheld old rfl with hlt | rfl
              · exact Or.inl (by simp [offerKept, hlt, hkeeps])
              · exact Or.inl (if_neg (lt_irrefl _))
        · exact Or.inr hrest

theorem offerKeptAll_eq_offerAll {held : α} {items : List α}
    (hkeeps : ∀ item ∈ items, rank held < rank item → keeps item = true) :
    offerKeptAll rank keeps (some held) items = offerAll rank (some held) items := by
  induction items generalizing held with
  | nil => rfl
  | cons item items ih =>
      have hrest : ∀ other ∈ items, rank held < rank other → keeps other = true :=
        fun other hmem => hkeeps other (List.mem_cons_of_mem _ hmem)
      have hstep : offerAll rank (some held) (item :: items) =
          offerAll rank (offer rank (some held) item) items := rfl
      rw [offerKeptAll_cons, hstep]
      by_cases hlt : rank held < rank item
      · have hkept : offerKept rank keeps (some held) item = some item := by
          simp [offerKept, hlt, hkeeps item List.mem_cons_self hlt]
        rw [hkept, offer_of_lt rank hlt]
        exact ih fun other hmem hgreater => hrest other hmem (hlt.trans hgreater)
      · have hkept : offerKept rank keeps (some held) item = some held := if_neg hlt
        rw [hkept, offer_of_le rank (not_lt.mp hlt)]
        exact ih hrest

theorem offerKept_eq_some_iff {held : Option α} {item kept : α} (hne : item ≠ kept) :
    offerKept rank keeps held item = some kept ↔ held = some kept ∧ rank item ≤ rank kept := by
  have hsplit : ¬ (if keeps item then some item else none) = some kept := by
    intro h
    split at h
    · exact hne (Option.some.inj h)
    · cases h
  cases held with
  | none => exact iff_of_false hsplit fun h => absurd h.1 (by simp)
  | some old =>
      rw [offerKept]
      by_cases hlt : rank old < rank item
      · rw [if_pos hlt]
        refine iff_of_false hsplit fun h => ?_
        obtain rfl := Option.some.inj h.1
        exact absurd hlt (not_lt.mpr h.2)
      · rw [if_neg hlt]
        refine ⟨fun h => ⟨h, ?_⟩, And.left⟩
        obtain rfl := Option.some.inj h
        exact not_lt.mp hlt

theorem offerKeptAll_eq_some_iff {held : Option α} {items : List α} {kept : α}
    (hnot : kept ∉ items) :
    offerKeptAll rank keeps held items = some kept ↔
      held = some kept ∧ ∀ item ∈ items, rank item ≤ rank kept := by
  induction items generalizing held with
  | nil => simp
  | cons item items ih =>
      rw [List.mem_cons, not_or] at hnot
      rw [offerKeptAll_cons, ih hnot.2, offerKept_eq_some_iff rank keeps (Ne.symm hnot.1),
        List.forall_mem_cons, and_assoc]

theorem offerKeptAll_eq_or {held latest : Option α} {items : List α}
    (hmem : ∀ item, item ∈ items ↔ latest = some item)
    (hkeeps : ∀ item, latest = some item → keeps item = true)
    (hheld : ∀ old item, held = some old → latest = some item →
      rank old < rank item ∨ old = item) :
    offerKeptAll rank keeps held items = latest.or held := by
  cases latest with
  | none =>
      have hempty : items = [] := List.eq_nil_iff_forall_not_mem.mpr fun item hitem => by
        simpa using (hmem item).mp hitem
      rw [hempty, offerKeptAll_nil, Option.none_or]
  | some top =>
      refine offerKeptAll_eq_of_max rank keeps (hkeeps top rfl) ?_ ?_ (Or.inr ((hmem top).mpr rfl))
      · intro item hitem
        exact Or.inr (Option.some.inj ((hmem item).mp hitem)).symm
      · exact fun old hold => hheld old top hold rfl

end Raft.Foundation
