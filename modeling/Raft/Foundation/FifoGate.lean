import Mathlib.Data.List.Pairwise
import Mathlib.Data.Multiset.AddSub
import Raft.Foundation.Run

/-!
# First come, first served gates

A gate lets a bounded number of callers hold it at once and keeps the others
waiting in line.  Callers are compared by when they came.  One that leaves makes
room for the first in line, after those ahead of it that have given up.
-/

namespace Raft.Foundation

variable {ι : Type*}

structure FifoGate (ι : Type*) where
  holders : Multiset ι
  waiting : List ι
  /-- Those that got in after they waited, in that order. -/
  promoted : List ι

inductive FifoMove (ι : Type*) where
  | enter (caller : ι)
  | withdraw (caller : ι)
  /-- A holder leaves, and `passedOver` are found to have given up. -/
  | leave (caller : ι) (passedOver : List ι)

namespace FifoGate

def empty : FifoGate ι := ⟨0, [], []⟩

def promote (capacity : Nat) (gate : FifoGate ι) : FifoGate ι :=
  match gate.waiting with
  | [] => gate
  | next :: rest =>
      if gate.holders.card < capacity then
        ⟨next ::ₘ gate.holders, rest, gate.promoted ++ [next]⟩
      else gate

def enter (capacity : Nat) (gate : FifoGate ι) (caller : ι) : FifoGate ι :=
  if gate.holders.card < capacity then { gate with holders := caller ::ₘ gate.holders }
  else { gate with waiting := gate.waiting ++ [caller] }

variable [DecidableEq ι]

def withdraw (gate : FifoGate ι) (caller : ι) : FifoGate ι :=
  { gate with waiting := gate.waiting.erase caller }

def giveUp (gate : FifoGate ι) (callers : List ι) : FifoGate ι :=
  callers.foldl withdraw gate

def leave (capacity : Nat) (gate : FifoGate ι) (caller : ι) (passedOver : List ι) : FifoGate ι :=
  promote capacity
    (giveUp { gate with holders := gate.holders.erase caller } passedOver)

def move (capacity : Nat) (gate : FifoGate ι) : FifoMove ι → FifoGate ι
  | .enter caller => gate.enter capacity caller
  | .withdraw caller => gate.withdraw caller
  | .leave caller passedOver => gate.leave capacity caller passedOver

/-! ## Giving up -/

@[simp] theorem giveUp_nil (gate : FifoGate ι) : gate.giveUp [] = gate := rfl

theorem giveUp_cons (gate : FifoGate ι) (caller : ι) (callers : List ι) :
    gate.giveUp (caller :: callers) = (gate.withdraw caller).giveUp callers := rfl

@[simp] theorem holders_giveUp (gate : FifoGate ι) (callers : List ι) :
    (gate.giveUp callers).holders = gate.holders := by
  induction callers generalizing gate with
  | nil => rfl
  | cons caller callers ih => rw [giveUp_cons, ih, withdraw]

@[simp] theorem promoted_giveUp (gate : FifoGate ι) (callers : List ι) :
    (gate.giveUp callers).promoted = gate.promoted := by
  induction callers generalizing gate with
  | nil => rfl
  | cons caller callers ih => rw [giveUp_cons, ih, withdraw]

theorem waiting_giveUp_sublist (gate : FifoGate ι) (callers : List ι) :
    (gate.giveUp callers).waiting.Sublist gate.waiting := by
  induction callers generalizing gate with
  | nil => exact List.Sublist.refl _
  | cons caller callers ih => exact (ih _).trans List.erase_sublist

/-! ## What every move keeps -/

variable [Preorder ι] {capacity : Nat} {gate : FifoGate ι}

structure Sound (capacity : Nat) (gate : FifoGate ι) : Prop where
  bounded : gate.holders.card ≤ capacity
  /-- Nobody waits while there is room. -/
  full : gate.waiting ≠ [] → gate.holders.card = capacity
  /-- Nobody is overtaken by one that came later. -/
  ordered : (gate.promoted ++ gate.waiting).Pairwise (· < ·)

def Comes (gate : FifoGate ι) : FifoMove ι → Prop
  | .enter caller => ∀ earlier ∈ gate.promoted ++ gate.waiting, earlier < caller
  | .withdraw _ | .leave _ _ => True

omit [DecidableEq ι] in
theorem sound_empty : Sound capacity (empty : FifoGate ι) where
  bounded := Nat.zero_le _
  full := fun h => absurd rfl h
  ordered := List.Pairwise.nil

omit [DecidableEq ι] in
theorem Sound.enter (h : Sound capacity gate) {caller : ι}
    (hcomes : ∀ earlier ∈ gate.promoted ++ gate.waiting, earlier < caller) :
    Sound capacity (gate.enter capacity caller) := by
  unfold FifoGate.enter
  split
  · rename_i hroom
    have hnone : gate.waiting = [] := by
      by_contra hsome
      exact absurd (h.full hsome) (Nat.ne_of_lt hroom)
    exact ⟨by rw [Multiset.card_cons]; omega, fun hsome => absurd hnone hsome, h.ordered⟩
  · rename_i hfull
    refine ⟨h.bounded, fun _ => Nat.le_antisymm h.bounded (Nat.le_of_not_lt hfull), ?_⟩
    change (gate.promoted ++ (gate.waiting ++ [caller])).Pairwise (· < ·)
    rw [← List.append_assoc]
    exact List.pairwise_append.mpr
      ⟨h.ordered, List.pairwise_singleton _ _, fun earlier hmem last hlast =>
        List.mem_singleton.mp hlast ▸ hcomes earlier hmem⟩

theorem Sound.withdraw (h : Sound capacity gate) (caller : ι) :
    Sound capacity (gate.withdraw caller) where
  bounded := h.bounded
  full := fun hsome => h.full fun hnone => hsome (by
    change gate.waiting.erase caller = []
    rw [hnone]
    rfl)
  ordered := h.ordered.sublist (List.erase_sublist.append_left _)

theorem Sound.leave (h : Sound capacity gate) (caller : ι) (passedOver : List ι) :
    Sound capacity (gate.leave capacity caller passedOver) := by
  have hsublist : ((({ gate with holders := gate.holders.erase caller } :
      FifoGate ι).giveUp passedOver).waiting).Sublist gate.waiting :=
    waiting_giveUp_sublist { gate with holders := gate.holders.erase caller } passedOver
  unfold FifoGate.leave promote
  split
  · rename_i hnone
    refine ⟨?_, fun hsome => absurd hnone hsome, ?_⟩
    · rw [holders_giveUp]
      exact (Multiset.card_le_card (Multiset.erase_le caller _)).trans h.bounded
    · rw [promoted_giveUp]
      exact h.ordered.sublist (hsublist.append_left _)
  · rename_i next rest hwaiting
    rw [hwaiting] at hsublist
    have hfull : gate.holders.card = capacity := h.full (by
      rintro hnone
      rw [hnone] at hsublist
      cases hsublist)
    have hordered : (gate.promoted ++ next :: rest).Pairwise (· < ·) :=
      h.ordered.sublist (hsublist.append_left _)
    rw [holders_giveUp, promoted_giveUp]
    change Sound capacity (if (gate.holders.erase caller).card < capacity then _ else _)
    split
    · rename_i hroom
      have hmem : caller ∈ gate.holders := by
        by_contra habsent
        rw [Multiset.erase_of_notMem habsent] at hroom
        exact absurd hfull (Nat.ne_of_lt hroom)
      have hcard : (next ::ₘ gate.holders.erase caller).card = capacity := by
        rw [Multiset.card_cons, Multiset.card_erase_add_one hmem, hfull]
      refine ⟨hcard.le, fun _ => hcard, ?_⟩
      rw [List.append_assoc]
      exact hordered
    · rename_i hroom
      have hle := (Multiset.card_le_card (Multiset.erase_le caller gate.holders)).trans h.bounded
      refine ⟨?_, fun _ => ?_, ?_⟩
      · rw [holders_giveUp]
        exact hle
      · rw [holders_giveUp]
        exact Nat.le_antisymm hle (Nat.le_of_not_lt hroom)
      · rw [promoted_giveUp, hwaiting]
        exact hordered

theorem Sound.move (h : Sound capacity gate) {next : FifoMove ι} (hcomes : gate.Comes next) :
    Sound capacity (gate.move capacity next) := by
  cases next with
  | enter caller => exact h.enter hcomes
  | withdraw caller => exact h.withdraw caller
  | leave caller passedOver => exact h.leave caller passedOver

theorem Sound.run (h : Sound capacity gate) {moves : List (FifoMove ι)}
    (hcome : Admitted (FifoGate.move capacity) Comes gate moves) :
    Sound capacity (Foundation.run (FifoGate.move capacity) gate moves) :=
  hcome.invariant (Sound capacity) (fun _ _ hsound hcomes => hsound.move hcomes) h

end FifoGate

end Raft.Foundation
