import Raft.Referral.Dispositions

/-!
# Arrivals

What an order of facts applies, apart from the table: a fact that applies among the
applied ones follows them at once, and an opening is followed by the ends that
waited for it.  The facts that are applied in the end depend on their set only.
-/

namespace Raft.Referral

open Raft.Foundation

/-! ## Arrivals -/

def appliesAmong (facts : List FinancialAdjustmentRow) (fact : FinancialAdjustmentRow) : Bool :=
  !fact.kind.isTerminal || (isTruthy fact.stripeDisputeId && facts.any fun other =>
    decide (other.kind = .disputeOpened) && decide (other.stripeDisputeId = fact.stripeDisputeId))

/-- The facts that have arrived, and those that were applied, each in its order. -/
structure Arrivals where
  facts : List FinancialAdjustmentRow
  applied : List FinancialAdjustmentRow

namespace Arrivals

variable (arrivals : Arrivals)

def empty : Arrivals := ⟨[], []⟩

def offer (fact : FinancialAdjustmentRow) : Arrivals :=
  let facts := if fact ∈ arrivals.facts then arrivals.facts else arrivals.facts ++ [fact]
  if fact ∈ arrivals.applied then arrivals
  else if appliesAmong arrivals.applied fact then ⟨facts, arrivals.applied ++ [fact]⟩
  else ⟨facts, arrivals.applied⟩

def waiting (fact : FinancialAdjustmentRow) : List FinancialAdjustmentRow :=
  arrivals.facts.filter fun other => decide (other ∉ arrivals.applied) &&
    (decide (other.stripeDisputeId = fact.stripeDisputeId) && other.kind.isTerminal)

/-- A fact, and after an opening the ends that waited for it. -/
def arrive (fact : FinancialAdjustmentRow) (order : RowOrder) : Arrivals :=
  let offered := arrivals.offer fact
  if decide (fact ∉ arrivals.applied) && (decide (fact.kind = .disputeOpened) &&
    isTruthy fact.stripeDisputeId) then
    { offered with applied := offered.applied ++ order.arrange (offered.waiting fact) }
  else offered

end Arrivals

/-! ## Facts and sets of facts -/

section Facts

variable {facts others : List FinancialAdjustmentRow}

theorem currentIn_congr (hsame : ∀ fact, fact ∈ facts ↔ fact ∈ others)
    (fact : FinancialAdjustmentRow) :
    CurrentIn facts fact ↔ CurrentIn others fact := by
  simp only [CurrentIn, hsame]

theorem lostIn_congr (hsame : ∀ fact, fact ∈ facts ↔ fact ∈ others) :
    LostIn facts ↔ LostIn others := by
  simp only [LostIn, hsame, currentIn_congr hsame]

theorem openIn_congr (hsame : ∀ fact, fact ∈ facts ↔ fact ∈ others) :
    OpenIn facts ↔ OpenIn others := by
  simp only [OpenIn, hsame, currentIn_congr hsame]

theorem netAdjustment_perm (hperm : facts.Perm others) :
    netAdjustment facts = netAdjustment others :=
  ((hperm.filter _).map _).sum_eq

variable (redemptionId : JsString)

theorem currentIn_apply (fact : FinancialAdjustmentRow) :
    CurrentIn (facts.map (·.apply redemptionId)) (fact.apply redemptionId) ↔
      CurrentIn facts fact := by
  simp only [CurrentIn, List.forall_mem_map]
  exact Iff.rfl

theorem exists_mem_apply {P : FinancialAdjustmentRow → Prop} :
    (∃ row ∈ facts.map (·.apply redemptionId), P row) ↔
      ∃ fact ∈ facts, P (fact.apply redemptionId) := by
  simp

theorem lostIn_apply : LostIn (facts.map (·.apply redemptionId)) ↔ LostIn facts := by
  simp only [LostIn, exists_mem_apply, currentIn_apply]
  exact Iff.rfl

theorem openIn_apply : OpenIn (facts.map (·.apply redemptionId)) ↔ OpenIn facts := by
  simp only [OpenIn, exists_mem_apply, List.forall_mem_map, currentIn_apply]
  exact Iff.rfl

theorem netAdjustment_apply :
    netAdjustment (facts.map (·.apply redemptionId)) = netAdjustment facts := by
  simp only [netAdjustment, List.filter_map, List.map_map]
  rfl

variable {redemptionId} {paid : Option PaidIdentityEvent} {fullEconomicReversal : Bool}
variable {disposition : QualificationDisposition} {risk : FinancialRisk}

theorem reversedBy_congr {net : Int} (hnet : netAdjustment facts = net)
    (hother : netAdjustment others = net) :
    ReversedBy paid facts fullEconomicReversal ↔ ReversedBy paid others fullEconomicReversal := by
  cases paid with
  | none => exact Iff.rfl
  | some paidFact => simp only [ReversedBy, hnet, hother]

theorem SettlesTo.of_apply (hperm : facts.Perm others)
    (hsettles : SettlesTo paid (facts.map (·.apply redemptionId)) fullEconomicReversal disposition
      risk) :
    SettlesTo paid others fullEconomicReversal disposition risk := by
  have hsame (fact : FinancialAdjustmentRow) : fact ∈ facts ↔ fact ∈ others := hperm.mem_iff
  refine ⟨hsettles.disposed, ?_, ?_⟩
  · rw [hsettles.reversed, lostIn_apply, lostIn_congr hsame,
      reversedBy_congr (netAdjustment_apply redemptionId) (netAdjustment_perm hperm).symm]
  · rw [hsettles.disputed, openIn_apply, openIn_congr hsame]

end Facts

/-! ## Sound arrivals -/

structure Arrivals.Sound (arrivals : Arrivals) : Prop where
  arrived : ∀ fact ∈ arrivals.applied, fact ∈ arrivals.facts
  nodup : arrivals.applied.Nodup
  openings : ∀ fact ∈ arrivals.applied, appliesAmong arrivals.applied fact = true

section Sound

variable {arrivals : Arrivals} {fact : FinancialAdjustmentRow}

theorem appliesAmong_mono {facts others : List FinancialAdjustmentRow}
    (hsub : ∀ fact ∈ facts, fact ∈ others)
    (happlies : appliesAmong facts fact = true) : appliesAmong others fact = true := by
  simp only [appliesAmong, Bool.or_eq_true, Bool.and_eq_true, List.any_eq_true] at happlies ⊢
  refine happlies.imp id (And.imp id ?_)
  rintro ⟨other, hother, hopens⟩
  exact ⟨other, hsub other hother, hopens⟩

theorem Arrivals.Sound.extend {facts more : List FinancialAdjustmentRow} (hsound : arrivals.Sound)
    (hfacts : ∀ fact ∈ arrivals.facts, fact ∈ facts) (hmore : ∀ fact ∈ more, fact ∈ facts)
    (hnodup : more.Nodup) (hnew : ∀ fact ∈ more, fact ∉ arrivals.applied)
    (happlies : ∀ fact ∈ more, appliesAmong arrivals.applied fact = true) :
    Arrivals.Sound ⟨facts, arrivals.applied ++ more⟩ := by
  refine ⟨fun fact hfact => ?_, ?_, fun fact hfact => ?_⟩
  · obtain hold | hadded := List.mem_append.mp hfact
    · exact hfacts fact (hsound.arrived fact hold)
    · exact hmore fact hadded
  · exact hsound.nodup.append hnodup fun fact hold hadded => hnew fact hadded hold
  · have hgrown (happlied : appliesAmong arrivals.applied fact = true) :
        appliesAmong (arrivals.applied ++ more) fact = true :=
      appliesAmong_mono (fun _ => List.mem_append_left _) happlied
    obtain hold | hadded := List.mem_append.mp hfact
    · exact hgrown (hsound.openings fact hold)
    · exact hgrown (happlies fact hadded)

end Sound

/-! ## Which facts are applied -/

def Arrivals.Complete (arrivals : Arrivals) : Prop :=
  ∀ fact ∈ arrivals.facts, appliesAmong arrivals.facts fact = true → fact ∈ arrivals.applied

section Complete

variable {arrivals : Arrivals} {fact other : FinancialAdjustmentRow}

theorem appliesAmong_iff {facts : List FinancialAdjustmentRow} :
    appliesAmong facts fact = true ↔ fact.kind.isTerminal = false ∨
      isTruthy fact.stripeDisputeId = true ∧ ∃ opening ∈ facts, opening.kind = .disputeOpened ∧
        opening.stripeDisputeId = fact.stripeDisputeId := by
  simp [appliesAmong]

theorem opening_applies {facts : List FinancialAdjustmentRow}
    (hopened : fact.kind = .disputeOpened) :
    appliesAmong facts fact = true := by
  simp [appliesAmong_iff, hopened, AdjustmentKind.isTerminal]

theorem mem_offer_facts (hsound : arrivals.Sound) :
    other ∈ (arrivals.offer fact).facts ↔ other ∈ arrivals.facts ∨ other = fact := by
  unfold Arrivals.offer
  by_cases happlied : fact ∈ arrivals.applied
  · rw [if_pos happlied]
    exact ⟨.inl, fun h => h.elim id fun heq => heq ▸ hsound.arrived fact happlied⟩
  · rw [if_neg happlied]
    have hfacts : other ∈ (if fact ∈ arrivals.facts then arrivals.facts else arrivals.facts ++
      [fact]) ↔
        other ∈ arrivals.facts ∨ other = fact := by
      by_cases hmem : fact ∈ arrivals.facts
      · rw [if_pos hmem]
        exact ⟨.inl, fun h => h.elim id fun heq => heq ▸ hmem⟩
      · rw [if_neg hmem, List.mem_append, List.mem_singleton]
    split <;> exact hfacts

theorem arrive_facts (order : RowOrder) :
    (arrivals.arrive fact order).facts = (arrivals.offer fact).facts := by
  unfold Arrivals.arrive
  simp only
  split <;> rfl

theorem offer_applied (hnew : fact ∉ arrivals.applied) :
    (arrivals.offer fact).applied =
      if appliesAmong arrivals.applied fact =
        true then arrivals.applied ++ [fact] else arrivals.applied := by
  rw [Arrivals.offer, if_neg hnew]
  split <;> rfl

theorem Arrivals.Complete.offer (hsound : arrivals.Sound) (hcomplete : arrivals.Complete)
    (hnew : fact ∉ arrivals.applied) (hother : other ∈ (arrivals.offer fact).facts)
    (happlies : appliesAmong (arrivals.offer fact).facts other = true) :
    other ∈ (arrivals.offer fact).applied ∨
      fact.kind = .disputeOpened ∧ isTruthy fact.stripeDisputeId = true ∧
        other.stripeDisputeId = fact.stripeDisputeId ∧ other.kind.isTerminal = true := by
  have hkept : ∀ other ∈ arrivals.applied, other ∈ (arrivals.offer fact).applied := by
    intro other hold
    rw [offer_applied hnew]
    split
    · exact List.mem_append_left _ hold
    · exact hold
  have hbefore : appliesAmong arrivals.facts other = true →
    other ∈ (arrivals.offer fact).applied := by
    intro hbefore
    obtain hold | rfl := (mem_offer_facts hsound).mp hother
    · exact hkept other (hcomplete other hold hbefore)
    · have happlied : appliesAmong arrivals.applied other = true := by
        refine appliesAmong_iff.mpr ((appliesAmong_iff.mp hbefore).imp id (And.imp id ?_))
        rintro ⟨opening, hopening, hopened, hsame⟩
        exact ⟨opening, hcomplete opening hopening (opening_applies hopened), hopened, hsame⟩
      rw [offer_applied hnew, if_pos happlied]
      exact List.mem_append_right _ (List.mem_singleton_self _)
  obtain hopen | ⟨htruthy, opening, hopening, hopened, hsame⟩ := appliesAmong_iff.mp happlies
  · exact .inl (hbefore (appliesAmong_iff.mpr (.inl hopen)))
  obtain hold | rfl := (mem_offer_facts hsound).mp hopening
  · exact .inl (hbefore (appliesAmong_iff.mpr (.inr ⟨htruthy, opening, hold, hopened, hsame⟩)))
  · cases hterminal : other.kind.isTerminal with
    | false => exact .inl (hbefore (appliesAmong_iff.mpr (.inl hterminal)))
    | true => exact .inr ⟨hopened, hsame ▸ htruthy, hsame.symm, rfl⟩

theorem Arrivals.Complete.arrive (hsound : arrivals.Sound) (hcomplete : arrivals.Complete)
    (order : RowOrder) : (arrivals.arrive fact order).Complete := by
  intro other hother happlies
  rw [arrive_facts] at hother happlies
  unfold Arrivals.arrive
  by_cases happlied : fact ∈ arrivals.applied
  · have hsame : arrivals.offer fact = arrivals := by rw [Arrivals.offer, if_pos happlied]
    rw [hsame] at hother happlies ⊢
    simpa [happlied] using hcomplete other hother happlies
  obtain hdone | ⟨hopened, htruthy, hdispute, hterminal⟩ :=
    hcomplete.offer hsound happlied hother happlies
  · split
    · exact List.mem_append_left _ hdone
    · exact hdone
  · have hrelease : (decide (fact ∉ arrivals.applied) &&
        (decide (fact.kind = .disputeOpened) && isTruthy fact.stripeDisputeId)) = true := by
      simp [happlied, hopened, htruthy]
    simp only [hrelease, if_true, List.mem_append]
    by_cases hdone : other ∈ (arrivals.offer fact).applied
    · exact .inl hdone
    · refine .inr ((order.perm _).mem_iff.mpr ?_)
      simp only [Arrivals.waiting, List.mem_filter, Bool.and_eq_true, decide_eq_true_eq]
      exact ⟨hother, hdone, hdispute, hterminal⟩

end Complete

end Raft.Referral
