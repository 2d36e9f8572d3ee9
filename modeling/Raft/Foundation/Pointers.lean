import Mathlib.Logic.Function.Basic
import Mathlib.Logic.Relation

/-!
# Tables of pointers

A partial function from keys to keys, followed from key to key.  Re-pointing
one key closes a cycle exactly when its new target leads back to it.
-/

namespace Raft.Foundation

variable {κ : Type*}

def PointsTo (next : κ → Option κ) (key target : κ) : Prop := next key = some target

abbrev Leads (next : κ → Option κ) : κ → κ → Prop := Relation.ReflTransGen (PointsTo next)

def Acyclic (next : κ → Option κ) : Prop :=
  ∀ key target, next key = some target → ¬ Leads next target key

variable {next : κ → Option κ} {key target first second : κ}

theorem Leads.eq_of_end (h : Leads next key target) (hend : next key = none) : target = key := by
  rcases Relation.ReflTransGen.cases_head h with heq | ⟨middle, hpoints, -⟩
  · exact heq.symm
  · rw [PointsTo, hend] at hpoints
    cases hpoints

theorem Leads.end_unique (hfirst : Leads next key first) (hsecond : Leads next key second)
    (hend : next first = none) (hend' : next second = none) : first = second := by
  have hunique : Relator.RightUnique (PointsTo next) := by
    intro _ _ _ hleft hright
    exact Option.some.inj (hleft.symm.trans hright)
  rcases Relation.ReflTransGen.total_of_right_unique hunique hfirst hsecond with h | h
  · exact (Leads.eq_of_end h hend).symm
  · exact Leads.eq_of_end h hend'

theorem Leads.back (hkey : next key = some target) (hback : Leads next target key)
    (h : Leads next key first) : Leads next first key := by
  induction h with
  | refl => exact .refl
  | tail _ hpoints ih =>
      rcases Relation.ReflTransGen.cases_head ih with rfl | ⟨middle, hmiddle, hrest⟩
      · rw [PointsTo, hkey] at hpoints
        cases hpoints
        exact hback
      · rw [PointsTo] at hpoints hmiddle
        rw [hpoints] at hmiddle
        cases hmiddle
        exact hrest

section Update

variable [DecidableEq κ]

theorem pointsTo_update (h : first ≠ key) :
    PointsTo (Function.update next key (some target)) first second ↔
      PointsTo next first second := by
  rw [PointsTo, PointsTo, Function.update_of_ne h]

theorem leads_update (h : Leads (Function.update next key (some target)) first second) :
    Leads next first second ∨ (Leads next first key ∧ Leads next target second) := by
  induction h with
  | refl => exact Or.inl .refl
  | @tail middle last _ hpoints ih =>
      by_cases hmiddle : middle = key
      · subst hmiddle
        rw [PointsTo, Function.update_self] at hpoints
        cases hpoints
        exact Or.inr ⟨ih.elim id And.left, .refl⟩
      · rw [pointsTo_update hmiddle] at hpoints
        exact ih.imp (·.tail hpoints) fun hways => ⟨hways.1, hways.2.tail hpoints⟩

theorem leads_to_update (value : κ) (h : Leads next first key) :
    Leads (Function.update next key (some value)) first key := by
  induction h using Relation.ReflTransGen.head_induction_on with
  | refl => exact .refl
  | @head start middle hpoints _ ih =>
      by_cases hstart : start = key
      · rw [hstart]
      · exact .head ((pointsTo_update hstart).mpr hpoints) ih

theorem Acyclic.update (h : Acyclic next) (hback : ¬ Leads next target key) :
    Acyclic (Function.update next key (some target)) := by
  intro start middle hpoints hcycle
  by_cases hstart : start = key
  · subst hstart
    rw [Function.update_self] at hpoints
    cases hpoints
    exact hback ((leads_update hcycle).elim id And.left)
  · rw [Function.update_of_ne hstart] at hpoints
    rcases leads_update hcycle with hold | ⟨hto, hfrom⟩
    · exact h start middle hpoints hold
    · exact hback ((hfrom.tail hpoints).trans hto)

end Update

end Raft.Foundation
