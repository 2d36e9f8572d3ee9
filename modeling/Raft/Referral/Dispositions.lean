import Raft.Referral.Adjustments

/-!
# What the fold reads from a set of facts

The states of the disputes depend on the set of applied facts only, and so does
their sum.  The call that runs the fold decides alone whether an invoice without a
paid fact is reversed.
-/

namespace Raft.Referral

open Raft.Foundation

def SameDispute (fact other : FinancialAdjustmentRow) : Prop :=
  other.isDisputeFact = true ∧ other.stripeDisputeId = fact.stripeDisputeId

def CurrentIn (facts : List FinancialAdjustmentRow) (fact : FinancialAdjustmentRow) : Prop :=
  fact.isDisputeFact = true ∧
    ∀ other ∈ facts, SameDispute fact other → other.providerFactSequence ≤ fact.providerFactSequence

/-- Some dispute is lost by a fact of its highest sequence. -/
def LostIn (facts : List FinancialAdjustmentRow) : Prop :=
  ∃ fact ∈ facts, CurrentIn facts fact ∧ fact.kind = .disputeLost

def OpenIn (facts : List FinancialAdjustmentRow) : Prop :=
  ∃ fact ∈ facts, CurrentIn facts fact ∧
    ∀ other ∈ facts, SameDispute fact other → CurrentIn facts other → other.kind = .disputeOpened

def ReversedBy (paid : Option PaidIdentityEvent) (facts : List FinancialAdjustmentRow)
    (fullEconomicReversal : Bool) : Prop :=
  match paid with
  | some paidFact => paidFact.amountPaid + netAdjustment facts ≤ 0
  | none => fullEconomicReversal = true

/-- The outcome of a fold over these facts, run by a call with this flag. -/
structure SettlesTo (paid : Option PaidIdentityEvent) (facts : List FinancialAdjustmentRow)
    (fullEconomicReversal : Bool) (disposition : QualificationDisposition) (risk : FinancialRisk) :
    Prop where
  disposed : disposition = .qualified ∨ disposition = .reversed
  reversed : disposition = .reversed ↔ LostIn facts ∨ ReversedBy paid facts fullEconomicReversal
  disputed : risk = .disputed ↔ OpenIn facts

/-! ## Groups -/

section Groups

variable {facts : List FinancialAdjustmentRow} {fact : FinancialAdjustmentRow}

theorem isDisputeFact_dispute (hfact : fact.isDisputeFact = true) :
    ∃ id, fact.stripeDisputeId = some id := by
  cases hid : fact.stripeDisputeId with
  | none => simp [FinancialAdjustmentRow.isDisputeFact, isTruthy, hid] at hfact
  | some id => exact ⟨id, rfl⟩

def disputeGroup (facts : List FinancialAdjustmentRow) (id : JsString) :
    List FinancialAdjustmentRow :=
  (facts.filter (·.isDisputeFact)).filter fun fact => fact.stripeDisputeId.getD [] = id

theorem mem_disputeGroup {id : JsString} :
    fact ∈ disputeGroup facts id ↔
      fact ∈ facts ∧ fact.isDisputeFact = true ∧ fact.stripeDisputeId = some id := by
  simp only [disputeGroup, List.mem_filter, decide_eq_true_eq, and_assoc]
  refine and_congr_right fun _ => and_congr_right fun hfact => ?_
  obtain ⟨own, hown⟩ := isDisputeFact_dispute hfact
  simp [hown]

theorem foldl_group (group : Option (List FinancialAdjustmentRow))
    (items : List FinancialAdjustmentRow) :
    items.foldl (fun group fact => some (group.getD [] ++ [fact])) group =
      if items = [] then group else some (group.getD [] ++ items) := by
  induction items generalizing group with
  | nil => rfl
  | cons item items ih =>
      rw [List.foldl_cons, ih]
      by_cases hitems : items = [] <;> simp [hitems]

theorem mem_disputeGroups {group : List FinancialAdjustmentRow} :
    group ∈ (disputeGroups facts).values ↔ ∃ id, group = disputeGroup facts id ∧ group ≠ [] := by
  have hget (id : JsString) : (disputeGroups facts).get id =
      if disputeGroup facts id = [] then none else some (disputeGroup facts id) := by
    rw [disputeGroups, get_groupFold, foldl_group]
    simp [disputeGroup]
  rw [InsertionMap.mem_values_iff]
  constructor
  · rintro ⟨id, hid⟩
    rw [hget id] at hid
    split at hid
    · cases hid
    · rename_i hne
      obtain rfl := Option.some.inj hid
      exact ⟨id, rfl, hne⟩
  · rintro ⟨id, rfl, hne⟩
    exact ⟨id, by rw [hget id, if_neg hne]⟩

theorem mem_currentFacts {group : List FinancialAdjustmentRow} :
    fact ∈ currentFacts group ↔
      fact ∈ group ∧ ∀ other ∈ group, other.providerFactSequence ≤ fact.providerFactSequence := by
  simp only [currentFacts, List.mem_filter, decide_eq_true_eq]
  refine and_congr_right fun hmem => ?_
  rw [eq_comm, List.max?_eq_some_iff]
  constructor
  · rintro ⟨-, hmax⟩ other hother
    exact hmax _ (List.mem_map_of_mem hother)
  · intro hmax
    refine ⟨List.mem_map_of_mem hmem, fun sequence hsequence => ?_⟩
    obtain ⟨other, hother, rfl⟩ := List.mem_map.mp hsequence
    exact hmax other hother

theorem mem_currentFacts_disputeGroup {id : JsString} :
    fact ∈ currentFacts (disputeGroup facts id) ↔
      fact ∈ facts ∧ CurrentIn facts fact ∧ fact.stripeDisputeId = some id := by
  simp only [mem_currentFacts, mem_disputeGroup, CurrentIn, SameDispute]
  constructor
  · rintro ⟨⟨hmem, hdispute, hid⟩, hmax⟩
    exact ⟨hmem, ⟨hdispute, fun other hother hsame =>
      hmax other ⟨hother, hsame.1, hsame.2.trans hid⟩⟩, hid⟩
  · rintro ⟨hmem, ⟨hdispute, hmax⟩, hid⟩
    exact ⟨⟨hmem, hdispute, hid⟩, fun other hother =>
      hmax other hother.1 ⟨hother.2.1, hother.2.2.trans hid.symm⟩⟩

theorem exists_currentFact {group : List FinancialAdjustmentRow} (hne : group ≠ []) :
    ∃ fact, fact ∈ currentFacts group := by
  cases hmax : (group.map (·.providerFactSequence)).max? with
  | none => exact absurd (List.map_eq_nil_iff.mp (List.max?_eq_none_iff.mp hmax)) hne
  | some sequence =>
      obtain ⟨fact, hfact, hsequence⟩ := List.mem_map.mp (List.max?_eq_some_iff.mp hmax).1
      refine ⟨fact, ?_⟩
      rw [currentFacts, List.mem_filter, hmax, hsequence]
      exact ⟨hfact, decide_eq_true rfl⟩

end Groups

/-! ## States -/

section States

variable {facts : List FinancialAdjustmentRow} {states : List DisputeState}

theorem disputeState_ok {group : List FinancialAdjustmentRow} {state : DisputeState}
    (hok : disputeState group = .ok state) :
    (state = .lost ↔ ∃ fact ∈ currentFacts group, fact.kind = .disputeLost) ∧
      (state = .opened ↔ ∀ fact ∈ currentFacts group,
        fact.kind ≠ .disputeLost ∧ fact.kind ≠ .disputeWon) := by
  simp only [disputeState, bind_eq_ok, pure, Except.pure, Except.ok.injEq] at hok
  obtain ⟨-, -, rfl⟩ := hok
  by_cases hlost : ∃ fact ∈ currentFacts group, fact.kind = .disputeLost
  · have hany : (currentFacts group).any (fun fact => decide (fact.kind = .disputeLost)) =
      true := by
      simpa using hlost
    rw [if_pos hany]
    obtain ⟨fact, hfact, hkind⟩ := hlost
    exact ⟨by simpa using ⟨fact, hfact, hkind⟩,
      by simpa using ⟨fact, hfact, fun hne => absurd hkind hne⟩⟩
  · have hany : (currentFacts group).any (fun fact => decide (fact.kind = .disputeLost)) =
      false := by
      simpa using hlost
    rw [hany]
    have hnone : ∀ fact ∈ currentFacts group, fact.kind ≠ .disputeLost := by simpa using hlost
    by_cases hwon : ∃ fact ∈ currentFacts group, fact.kind = .disputeWon
    · have hanyWon : (currentFacts group).any (fun fact => decide (fact.kind = .disputeWon)) =
        true := by
        simpa using hwon
      rw [hanyWon]
      obtain ⟨fact, hfact, hkind⟩ := hwon
      exact ⟨by simpa using hnone, by simpa using ⟨fact, hfact, fun _ => hkind⟩⟩
    · have hanyWon : (currentFacts group).any (fun fact => decide (fact.kind = .disputeWon)) =
        false := by
        simpa using hwon
      rw [hanyWon]
      refine ⟨by simpa using hnone, ?_⟩
      simp only [if_neg Bool.false_ne_true, true_iff]
      exact fun fact hfact => ⟨hnone fact hfact, fun hkind => hwon ⟨fact, hfact, hkind⟩⟩

theorem mapM_ok {α β : Type} {f : α → Outcome β} {items : List α} {results : List β}
    (hok : items.mapM f = .ok results) (result : β) :
    result ∈ results ↔ ∃ item ∈ items, f item = .ok result := by
  induction items generalizing results with
  | nil =>
      simp only [List.mapM_nil, pure, Except.pure, Except.ok.injEq] at hok
      simp [← hok]
  | cons item items ih =>
      simp only [List.mapM_cons, bind_eq_ok, pure, Except.pure, Except.ok.injEq] at hok
      obtain ⟨first, hfirst, rest, hrest, rfl⟩ := hok
      rw [List.mem_cons, ih hrest, List.exists_mem_cons_iff, hfirst, Except.ok.injEq, eq_comm]

theorem mapM_total {α β : Type} {f : α → Outcome β} {items : List α} {results : List β}
    (hok : items.mapM f = .ok results) {item : α} (hitem : item ∈ items) :
    ∃ result, f item = .ok result := by
  induction items generalizing results with
  | nil => cases hitem
  | cons head items ih =>
      simp only [List.mapM_cons, bind_eq_ok] at hok
      obtain ⟨first, hfirst, rest, hrest, -⟩ := hok
      obtain rfl | hmem := List.mem_cons.mp hitem
      · exact ⟨first, hfirst⟩
      · exact ih hrest hmem

theorem exists_state (hok : (disputeGroups facts).values.mapM disputeState = .ok states)
    {fact : FinancialAdjustmentRow} {id : JsString} (hmem : fact ∈ facts)
    (hdispute : fact.isDisputeFact = true) (hid : fact.stripeDisputeId = some id) :
    ∃ state ∈ states, disputeState (disputeGroup facts id) = .ok state := by
  have hgroup : disputeGroup facts id ∈ (disputeGroups facts).values :=
    mem_disputeGroups.mpr ⟨id, rfl, List.ne_nil_of_mem (mem_disputeGroup.mpr ⟨hmem, hdispute, hid⟩)⟩
  obtain ⟨state, hstate⟩ := mapM_total hok hgroup
  exact ⟨state, (mapM_ok hok state).mpr ⟨_, hgroup, hstate⟩, hstate⟩

theorem lost_mem_states (hok : (disputeGroups facts).values.mapM disputeState = .ok states) :
    DisputeState.lost ∈ states ↔ LostIn facts := by
  constructor
  · intro hlost
    obtain ⟨group, hgroup, hstate⟩ := (mapM_ok hok _).mp hlost
    obtain ⟨id, rfl, -⟩ := mem_disputeGroups.mp hgroup
    obtain ⟨fact, hfact, hkind⟩ := (disputeState_ok hstate).1.mp rfl
    obtain ⟨hmem, hcurrent, -⟩ := mem_currentFacts_disputeGroup.mp hfact
    exact ⟨fact, hmem, hcurrent, hkind⟩
  · rintro ⟨fact, hmem, hcurrent, hkind⟩
    obtain ⟨id, hid⟩ := isDisputeFact_dispute hcurrent.1
    obtain ⟨state, hstate, hgroup⟩ := exists_state hok hmem hcurrent.1 hid
    have hlost := (disputeState_ok hgroup).1.mpr
      ⟨fact, mem_currentFacts_disputeGroup.mpr ⟨hmem, hcurrent, hid⟩, hkind⟩
    exact hlost ▸ hstate

theorem opened_of_current {fact : FinancialAdjustmentRow} (hdispute : fact.isDisputeFact = true)
    (hlost : fact.kind ≠ .disputeLost) (hwon : fact.kind ≠ .disputeWon) :
    fact.kind = .disputeOpened := by
  simp only [FinancialAdjustmentRow.isDisputeFact, Bool.and_eq_true] at hdispute
  have hkind := hdispute.2
  cases hcase : fact.kind <;> simp_all [AdjustmentKind.isDispute]

theorem opened_mem_states (hok : (disputeGroups facts).values.mapM disputeState = .ok states) :
    DisputeState.opened ∈ states ↔ OpenIn facts := by
  constructor
  · intro hopened
    obtain ⟨group, hgroup, hstate⟩ := (mapM_ok hok _).mp hopened
    obtain ⟨id, rfl, hne⟩ := mem_disputeGroups.mp hgroup
    obtain ⟨fact, hfact⟩ := exists_currentFact hne
    obtain ⟨hmem, hcurrent, hid⟩ := mem_currentFacts_disputeGroup.mp hfact
    refine ⟨fact, hmem, hcurrent, fun other hother hsame hcurrentOther => ?_⟩
    obtain ⟨hlost, hwon⟩ := (disputeState_ok hstate).2.mp rfl other
      (mem_currentFacts_disputeGroup.mpr ⟨hother, hcurrentOther, hsame.2.trans hid⟩)
    exact opened_of_current hsame.1 hlost hwon
  · rintro ⟨fact, hmem, hcurrent, hall⟩
    obtain ⟨id, hid⟩ := isDisputeFact_dispute hcurrent.1
    obtain ⟨state, hstate, hgroup⟩ := exists_state hok hmem hcurrent.1 hid
    have hopened := (disputeState_ok hgroup).2.mpr fun other hother => by
      obtain ⟨hmemOther, hcurrentOther, hidOther⟩ := mem_currentFacts_disputeGroup.mp hother
      rw [hall other hmemOther ⟨hcurrentOther.1, hidOther.trans hid.symm⟩ hcurrentOther]
      exact ⟨nofun, nofun⟩
    exact hopened ▸ hstate

theorem settlesTo_states {paid : Option PaidIdentityEvent}
    {fullEconomicReversal wasLost isOpen : Bool}
    (hlost : wasLost = true ↔ LostIn facts) (hopen : isOpen = true ↔ OpenIn facts)
    (hkept : ¬ ReversedBy paid facts fullEconomicReversal) :
    SettlesTo paid facts fullEconomicReversal (if wasLost = true then .reversed else .qualified)
      (if isOpen = true then .disputed else .clear) where
  disposed := by cases wasLost <;> simp
  reversed := by
    rw [← hlost, or_iff_left hkept]
    cases wasLost <;> decide
  disputed := by
    rw [← hopen]
    cases isOpen <;> decide

theorem foldReferralFinancialDisposition_ok {store : FinancialStore}
    {redemptionId invoiceId : JsString}
    {row : RedemptionRow} {latest : LatestAdjustment} {disposition : QualificationDisposition}
    {risk : FinancialRisk} (hinvoice : row.firstPaidInvoiceId = some invoiceId)
    (hnamed : invoiceId ≠ [])
    (hok : foldReferralFinancialDisposition store redemptionId row latest =
      .ok (disposition, risk)) :
    SettlesTo (findPaidFact store.paidEvents row latest.environment latest.livemode invoiceId)
      (appliedFacts store redemptionId invoiceId latest) latest.fullEconomicReversal disposition
        risk := by
  have hempty : invoiceId.isEmpty = false := by simpa using hnamed
  simp only [foldReferralFinancialDisposition, hinvoice, hempty, Bool.false_eq_true, if_false,
    bind_eq_ok] at hok
  obtain ⟨states, hstates, hok⟩ := hok
  have hlost := lost_mem_states hstates
  have hopen := opened_mem_states hstates
  have hanyLost : (states.any fun state => decide (state = .lost)) = true ↔
      LostIn (appliedFacts store redemptionId invoiceId latest) := by simpa using hlost
  have hanyOpen : (states.any fun state => decide (state = .opened)) = true ↔
      OpenIn (appliedFacts store redemptionId invoiceId latest) := by simpa using hopen
  have hdisposition : (disputeDisposition states).1 =
      if (states.any fun state => decide (state = .lost)) =
        true then .reversed else .qualified := by
    simp [disputeDisposition]
  have hrisk : (disputeDisposition states).2 =
      if (states.any fun state => decide (state = .opened)) = true then .disputed else .clear := by
    simp [disputeDisposition]
  simp only [hdisposition, hrisk] at hok
  generalize (states.any fun state => decide (state = .lost)) = wasLost at hok hanyLost
  generalize (states.any fun state => decide (state = .opened)) = isOpen at hok hanyOpen
  generalize appliedFacts store redemptionId invoiceId latest = facts at hok hanyLost hanyOpen ⊢
  generalize findPaidFact store.paidEvents row latest.environment latest.livemode invoiceId = paid
    at hok ⊢
  cases paid with
  | some paidFact =>
      simp only at hok
      split at hok
      · rename_i hgone
        obtain ⟨rfl, rfl⟩ := Prod.mk.inj (Except.ok.inj hok)
        refine ⟨.inr rfl, ⟨fun _ => .inr hgone, fun _ => rfl⟩, ?_⟩
        rw [← hanyOpen]
        cases isOpen <;> decide
      · rename_i hkept
        have hresult : (disposition, risk) =
            (if wasLost = true then .reversed else .qualified, if isOpen =
              true then .disputed else .clear) := by
          split at hok
          · rename_i hrevenue
            simp only [Bool.and_eq_true, Bool.not_eq_true'] at hrevenue
            rw [hrevenue.1]
            exact (Except.ok.inj hok).symm
          · exact (Except.ok.inj hok).symm
        obtain ⟨rfl, rfl⟩ := Prod.mk.inj hresult
        exact settlesTo_states hanyLost hanyOpen hkept
  | none =>
      simp only at hok
      split at hok
      · rename_i hfull
        obtain ⟨rfl, rfl⟩ := Prod.mk.inj (Except.ok.inj hok)
        refine ⟨.inr rfl, ⟨fun _ => .inr hfull, fun _ => rfl⟩, ?_⟩
        rw [← hanyOpen]
        cases isOpen <;> decide
      · rename_i hkept
        obtain ⟨rfl, rfl⟩ := Prod.mk.inj (Except.ok.inj hok)
        exact settlesTo_states hanyLost hanyOpen hkept

end States

end Raft.Referral
