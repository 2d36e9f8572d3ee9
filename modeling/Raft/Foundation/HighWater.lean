import Mathlib.Data.List.Nodup
import Mathlib.Order.Lattice

/-!
# High-water marks

A receiver that keeps one mark for each source judges a numbered message only
above the mark of its source, and raises the mark to it.  What it judged of one
source is then strictly increasing, and the mark is the last of it.
-/

namespace Raft.Foundation

variable {ι κ : Type*} [LinearOrder κ]

structure HighWater (mark : ι → Option κ) (judged : List (ι × κ)) : Prop where
  increasing : judged.Pairwise fun first second => first.1 = second.1 → first.2 < second.2
  below : ∀ message ∈ judged, ∃ top, mark message.1 = some top ∧ message.2 ≤ top
  attained : ∀ source top, mark source = some top → (source, top) ∈ judged

namespace HighWater

variable {mark next : ι → Option κ} {judged : List (ι × κ)} {source : ι} {number : κ}

theorem nil (hnone : ∀ source, mark source = none) : HighWater mark [] where
  increasing := .nil
  below _ hmessage := absurd hmessage List.not_mem_nil
  attained source top htop := by simp [hnone source] at htop

theorem congr (h : HighWater mark judged) (hsame : ∀ source, next source = mark source) :
    HighWater next judged where
  increasing := h.increasing
  below message hmessage := by simpa [hsame] using h.below message hmessage
  attained source top htop := h.attained source top (by rwa [← hsame])

theorem nodup (h : HighWater mark judged) : judged.Nodup :=
  h.increasing.imp fun hlt heq => absurd (hlt (by rw [heq])) (by simp [heq])

theorem judge [DecidableEq ι] (h : HighWater mark judged)
    (hnew : ∀ top, mark source = some top → top < number)
    (hnext : ∀ other, next other = if other = source then some number else mark other) :
    HighWater next (judged ++ [(source, number)]) where
  increasing := by
    rw [List.pairwise_append]
    refine ⟨h.increasing, List.pairwise_singleton _ _, fun first hfirst second hsecond hsame => ?_⟩
    rw [List.mem_singleton] at hsecond
    subst hsecond
    obtain ⟨top, htop, hle⟩ := h.below first hfirst
    have htop : mark source = some top := by rw [← htop, hsame]
    exact lt_of_le_of_lt hle (hnew top htop)
  below message hmessage := by
    rcases List.mem_append.mp hmessage with hold | hlast
    · obtain ⟨top, htop, hle⟩ := h.below message hold
      by_cases hsource : message.1 = source
      · refine ⟨number, by rw [hnext, if_pos hsource], ?_⟩
        exact hle.trans (hnew top (by rwa [← hsource])).le
      · exact ⟨top, by rw [hnext, if_neg hsource, htop], hle⟩
    · rw [List.mem_singleton] at hlast
      subst hlast
      exact ⟨number, by rw [hnext, if_pos rfl], le_rfl⟩
  attained other top htop := by
    rw [hnext] at htop
    split at htop
    · rename_i hother
      cases htop
      exact List.mem_append_right _ (by rw [hother]; exact List.mem_singleton_self _)
    · exact List.mem_append_left _ (h.attained other top htop)

end HighWater

end Raft.Foundation
