import Raft.Foundation.Run

/-!
# Registers with a scope

An offer of the register's own scope is joined with its value, an offer of
another scope replaces it.  Any list of offers does what nothing, one value or
one last offer does, so feeding the same list again changes nothing.
-/

namespace Raft.Foundation

universe u v

variable {α : Type u} {κ : Type v} [DecidableEq κ]

structure ScopedRegister (α : Type u) (κ : Type v) where
  value : α
  scope : κ

namespace ScopedRegister

def offer (join : α → α → α) (register : ScopedRegister α κ) (offered : α × κ) :
    ScopedRegister α κ where
  value := if register.scope = offered.2 then join register.value offered.1 else offered.1
  scope := offered.2

inductive Effect (α : Type u) (κ : Type v) where
  | keep
  | replace (register : ScopedRegister α κ)
  | offer (offered : α × κ)

def Effect.act (join : α → α → α) (register : ScopedRegister α κ) :
    Effect α κ → ScopedRegister α κ
  | .keep => register
  | .replace replacement => replacement
  | .offer offered => register.offer join offered

section Effects

variable (join : α → α → α)

theorem exists_effect [Std.Associative join] (offers : List (α × κ)) :
    ∃ effect : Effect α κ, ∀ register, run (offer join) register offers =
      effect.act join register := by
  induction offers using List.reverseRecOn with
  | nil => exact ⟨.keep, fun _ => rfl⟩
  | append_singleton offers offered ih =>
      obtain ⟨effect, heffect⟩ := ih
      simp only [run_concat, heffect]
      cases effect with
      | keep => exact ⟨.offer offered, fun _ => rfl⟩
      | replace register => exact ⟨.replace (register.offer join offered), fun _ => rfl⟩
      | offer earlier =>
          by_cases hscope : earlier.2 = offered.2
          · refine ⟨.offer (join earlier.1 offered.1, offered.2), fun register => ?_⟩
            by_cases hregister : register.scope = offered.2
            · simp [Effect.act, ScopedRegister.offer, hscope, hregister, Std.Associative.assoc]
            · simp [Effect.act, ScopedRegister.offer, hscope, hregister]
          · refine ⟨.replace ⟨offered.1, offered.2⟩, fun register => ?_⟩
            simp [Effect.act, ScopedRegister.offer, hscope]

theorem offer_offer [Std.IdempotentOp join] [Std.Associative join]
    (register : ScopedRegister α κ) (offered : α × κ) :
    (register.offer join offered).offer join offered = register.offer join offered := by
  by_cases hscope : register.scope = offered.2
  · simp [ScopedRegister.offer, hscope, Std.Associative.assoc, Std.IdempotentOp.idempotent]
  · simp [ScopedRegister.offer, hscope, Std.IdempotentOp.idempotent]

theorem run_offer_run_offer [Std.Associative join] [Std.IdempotentOp join]
    (register : ScopedRegister α κ) (offers : List (α × κ)) :
    run (offer join) (run (offer join) register offers) offers =
      run (offer join) register offers := by
  obtain ⟨effect, heffect⟩ := exists_effect join offers
  rw [heffect, heffect]
  cases effect with
  | keep => rfl
  | replace replacement => rfl
  | offer offered => exact offer_offer join register offered

end Effects

end ScopedRegister

end Raft.Foundation
