import Mathlib.Data.Finset.Insert
import Mathlib.Data.List.Nodup
import Mathlib.Logic.Relation

/-!
# Parents before children

Items with at most one parent each are listed depth first: an item's parent is
visited before the item is listed, and no key is listed twice.  A visit deeper
than the number of items gives up, so cyclic parents do no harm; where no item
is its own ancestor that limit is never reached, every item is listed once, and
each stands behind its parent.
-/

namespace Raft.Foundation.DependencyOrder

universe u v

variable {α : Type u} {κ : Type v} [DecidableEq κ]

structure Visits (α : Type u) (κ : Type v) where
  ordered : List α
  seen : Finset κ

def Visits.start : Visits α κ := ⟨[], ∅⟩

def Visits.push (key : α → κ) (visits : Visits α κ) (item : α) : Visits α κ :=
  if key item ∈ visits.seen then visits
  else ⟨visits.ordered ++ [item], insert (key item) visits.seen⟩

/-- `left` is one more than the depth that may still be reached. -/
def visit (key : α → κ) (parentItem : α → Option α) : Nat → α → Visits α κ → Visits α κ
  | 0, _, visits => visits
  | left + 1, item, visits =>
      if key item ∈ visits.seen then visits
      else
        let visited :=
          match parentItem item with
          | some parent => visit key parentItem left parent visits
          | none => visits
        visited.push key item

def dependencyOrder (key : α → κ) (parentItem : α → Option α) (items : List α) : List α :=
  (items.foldl (fun visits item => visit key parentItem (items.length + 1) item visits)
    Visits.start).ordered

/-! ## Acyclic parents -/

section Acyclic

variable (key : α → κ) (parentItem : α → Option α) (items : List α)

def ParentOf (parent item : α) : Prop := parentItem item = some parent

def Acyclic : Prop := ∀ item ∈ items, ¬ Relation.TransGen (ParentOf parentItem) item item

def ParentsFirst (ordered : List α) : Prop :=
  ∀ before item after, ordered = before ++ item :: after →
    ∀ parent, parentItem item = some parent → parent ∈ before

structure Walked (visits : Visits α κ) : Prop where
  mem_items : ∀ item ∈ visits.ordered, item ∈ items
  mem_seen : ∀ k, k ∈ visits.seen ↔ ∃ item ∈ visits.ordered, key item = k
  nodup : (visits.ordered.map key).Nodup
  parentsFirst : ParentsFirst parentItem visits.ordered

variable {key parentItem items}

omit [DecidableEq κ] in
theorem parentsFirst_append {ordered : List α} (h : ParentsFirst parentItem ordered) {item : α}
    (hparent : ∀ parent, parentItem item = some parent → parent ∈ ordered) :
    ParentsFirst parentItem (ordered ++ [item]) := by
  intro before listed after heq parent hlisted
  rcases List.append_eq_append_iff.mp heq with ⟨tail, hbefore, htail⟩ | ⟨tail, hordered, htail⟩
  · cases tail with
    | nil =>
        have hitem : item = listed := by simpa using (List.cons.inj htail).1
        subst hitem
        simpa [hbefore] using hparent parent hlisted
    | cons first rest => simp at htail
  · cases tail with
    | nil =>
        have hitem : listed = item := by simpa using (List.cons.inj htail).1
        subst hitem
        simpa [hordered] using hparent parent hlisted
    | cons first rest =>
        obtain ⟨rfl, -⟩ := List.cons.inj htail
        exact h before listed rest hordered parent hlisted

omit [DecidableEq κ] in
theorem walked_start : Walked key parentItem items (Visits.start : Visits α κ) where
  mem_items := by simp [Visits.start]
  mem_seen := by simp [Visits.start]
  nodup := by simp [Visits.start]
  parentsFirst := by
    intro before item after heq
    simp [Visits.start] at heq

omit [DecidableEq κ] in
theorem acyclic_of_rank (rank : α → Nat)
    (hmem : ∀ item ∈ items, ∀ parent, parentItem item = some parent → parent ∈ items)
    (h : ∀ item ∈ items, ∀ parent, parentItem item = some parent → rank parent < rank item) :
    Acyclic parentItem items := by
  have hdescends : ∀ {first last}, Relation.TransGen (ParentOf parentItem) first last →
      last ∈ items → rank first < rank last := by
    intro first last hpath
    induction hpath with
    | single hstep => exact fun hlast => h _ hlast _ hstep
    | tail _ hstep ih =>
        exact fun hlast => lt_trans (ih (hmem _ hlast _ hstep)) (h _ hlast _ hstep)
  exact fun item hitem hcycle => lt_irrefl _ (hdescends hcycle hitem)

variable (hdistinct : ∀ first ∈ items, ∀ second ∈ items, key first = key second → first = second)
include hdistinct

omit [DecidableEq κ] in
theorem Walked.mem_of_seen {visits : Visits α κ} (h : Walked key parentItem items visits)
    {item : α} (hitem : item ∈ items) (hseen : key item ∈ visits.seen) : item ∈ visits.ordered := by
  obtain ⟨listed, hlisted, hkey⟩ := (h.mem_seen _).mp hseen
  exact hdistinct listed (h.mem_items listed hlisted) item hitem hkey ▸ hlisted

theorem Walked.push {visits : Visits α κ} (h : Walked key parentItem items visits) {item : α}
    (hitem : item ∈ items)
    (hparent : ∀ parent, parentItem item = some parent → parent ∈ visits.ordered) :
    Walked key parentItem items (visits.push key item) ∧ item ∈ (visits.push key item).ordered ∧
      visits.ordered ⊆ (visits.push key item).ordered := by
  rw [Visits.push]
  by_cases hseen : key item ∈ visits.seen
  · rw [if_pos hseen]
    exact ⟨h, h.mem_of_seen hdistinct hitem hseen, List.Subset.refl _⟩
  · rw [if_neg hseen]
    refine ⟨⟨?_, ?_, ?_, parentsFirst_append h.parentsFirst hparent⟩, by simp,
      List.subset_append_left _ _⟩
    · intro listed hlisted
      rcases List.mem_append.mp hlisted with hold | hnew
      · exact h.mem_items listed hold
      · exact List.mem_singleton.mp hnew ▸ hitem
    · intro k
      rw [Finset.mem_insert, h.mem_seen]
      constructor
      · rintro (rfl | ⟨listed, hlisted, rfl⟩)
        · exact ⟨item, by simp, rfl⟩
        · exact ⟨listed, List.mem_append_left _ hlisted, rfl⟩
      · rintro ⟨listed, hlisted, rfl⟩
        rcases List.mem_append.mp hlisted with hold | hnew
        · exact Or.inr ⟨listed, hold, rfl⟩
        · exact Or.inl (congrArg key (List.mem_singleton.mp hnew))
    · rw [List.map_append, List.nodup_append]
      refine ⟨h.nodup, by simp, ?_⟩
      intro first hfirst second hsecond heq
      obtain ⟨listed, hlisted, rfl⟩ := List.mem_map.mp hfirst
      have hkey : key listed = key item := heq.trans (by simpa using hsecond)
      exact hseen ((h.mem_seen _).mpr ⟨listed, hlisted, hkey⟩)

variable (hmem : ∀ item ∈ items, ∀ parent, parentItem item = some parent → parent ∈ items)
  (hacyclic : Acyclic parentItem items)
include hmem hacyclic

theorem Walked.visit {left : Nat} {visits : Visits α κ}
    (h : Walked key parentItem items visits) {item : α} (hitem : item ∈ items) {path : List α}
    (hpath : path.Nodup) (hpath_items : path ⊆ items)
    (hdescends : ∀ child ∈ path, Relation.TransGen (ParentOf parentItem) item child)
    (hleft : items.length < left + path.length) :
    Walked key parentItem items (visit key parentItem left item visits) ∧
      item ∈ (visit key parentItem left item visits).ordered ∧
      visits.ordered ⊆ (visit key parentItem left item visits).ordered := by
  induction left generalizing visits item path with
  | zero =>
      have hle : path.length ≤ items.length := (hpath.subperm hpath_items).length_le
      omega
  | succ left ih =>
      have hfresh : item ∉ path := fun hin => hacyclic item hitem (hdescends item hin)
      rw [DependencyOrder.visit]
      by_cases hseen : key item ∈ visits.seen
      · rw [if_pos hseen]
        exact ⟨h, h.mem_of_seen hdistinct hitem hseen, List.Subset.refl _⟩
      · rw [if_neg hseen]
        cases hparent : parentItem item with
        | none =>
            exact h.push hdistinct hitem fun parent heq => by simp [hparent] at heq
        | some parent =>
            have hstep : ParentOf parentItem parent item := hparent
            obtain ⟨hwalked, hlisted, hkept⟩ := ih h (hmem item hitem parent hparent)
              (List.nodup_cons.mpr ⟨hfresh, hpath⟩) (List.cons_subset.mpr ⟨hitem, hpath_items⟩)
              (by
                intro child hchild
                rcases List.mem_cons.mp hchild with rfl | hin
                · exact .single hstep
                · exact .head hstep (hdescends child hin))
              (by simp only [List.length_cons]; omega)
            obtain ⟨hpushed, hpush, hextends⟩ := hwalked.push hdistinct hitem fun other heq => by
              rw [hparent] at heq
              exact Option.some.inj heq ▸ hlisted
            exact ⟨hpushed, hpush, List.Subset.trans hkept hextends⟩

theorem walked_foldl (rest : List α) (hrest : rest ⊆ items) {visits : Visits α κ}
    (h : Walked key parentItem items visits) :
    Walked key parentItem items
        (rest.foldl (fun visits item =>
          DependencyOrder.visit key parentItem (items.length + 1) item visits) visits) ∧
      visits.ordered ⊆ (rest.foldl (fun visits item =>
        DependencyOrder.visit key parentItem (items.length + 1) item visits) visits).ordered ∧
      rest ⊆ (rest.foldl (fun visits item =>
        DependencyOrder.visit key parentItem (items.length + 1) item visits) visits).ordered := by
  induction rest generalizing visits with
  | nil => exact ⟨h, List.Subset.refl _, List.nil_subset _⟩
  | cons item rest ih =>
      obtain ⟨hitem, hrest⟩ := List.cons_subset.mp hrest
      have hleft : items.length < items.length + 1 + ([] : List α).length := by simp
      obtain ⟨hvisited, hlisted, hkept⟩ := h.visit hdistinct hmem hacyclic hitem List.nodup_nil
        (List.nil_subset _) (by simp) hleft
      obtain ⟨hwalked, hextends, hothers⟩ := ih hrest hvisited
      exact ⟨hwalked, List.Subset.trans hkept hextends,
        List.cons_subset.mpr ⟨hextends hlisted, hothers⟩⟩

/-- Every item is listed once, and behind its parent. -/
theorem dependencyOrder_spec :
    (∀ item, item ∈ dependencyOrder key parentItem items ↔ item ∈ items) ∧
      ((dependencyOrder key parentItem items).map key).Nodup ∧
      ParentsFirst parentItem (dependencyOrder key parentItem items) := by
  obtain ⟨hwalked, -, hall⟩ := walked_foldl hdistinct hmem hacyclic items (List.Subset.refl _)
    walked_start
  exact ⟨fun item => ⟨hwalked.mem_items item, fun hitem => hall hitem⟩, hwalked.nodup,
    hwalked.parentsFirst⟩

end Acyclic

end Raft.Foundation.DependencyOrder
