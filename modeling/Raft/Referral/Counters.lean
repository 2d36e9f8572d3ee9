import Raft.Foundation.Run
import Raft.Referral.Moves

/-!
# The cap counters count redemptions

A run serves calls in any order, among writes of other services to the columns that
no call counts.  Its invariant ties both counters of every campaign and of every
code to the redemptions in the table.
-/

namespace Raft.Referral

open Raft.Foundation

/-! ## Runs -/

inductive LedgerEvent where
  | serve (call : ReferralCall) (draw : RandomDraw) (now : Int)
  /-- A campaign is created, or its other columns are administered. -/
  | putCampaign (id : JsString) (settings : CampaignSettings) (now : Int)
  | putCode (id : JsString) (settings : CodeSettings) (now : Int)
  | paidHistory (coverage : List PaidHistoryCoverage) (paidEvents : List PaidIdentityEvent)
  /-- The financial fold of a qualified redemption. -/
  | settle (id : JsString) (disposition : QualificationDisposition) (risk : FinancialRisk)
      (now : Int)

/-- A statement of another service: a failure changes nothing. -/
def attempt (store : ReferralStore) (outcome : Outcome ReferralStore) : ReferralStore :=
  match outcome with
  | .ok store' => store'
  | .error _ => store

def insertCampaign (rules : TextRules) (store : ReferralStore) (id : JsString) (row : CampaignRow) :
    Outcome ReferralStore :=
  if row.checked rules then
    .ok { store with campaigns := Function.update store.campaigns id (some row) }
  else .error .checkViolation

def insertCode (rules : TextRules) (store : ReferralStore) (id : JsString) (row : CodeRow) :
    Outcome ReferralStore :=
  if row.checked rules then .ok { store with codes := Function.update store.codes id (some row) }
  else .error .checkViolation

def putCampaign (rules : TextRules) (store : ReferralStore) (id : JsString)
    (settings : CampaignSettings) (now : Int) : ReferralStore :=
  attempt store <| match store.campaigns id with
    | none => insertCampaign rules store id ⟨settings, 0, 0, now⟩
    | some _ => store.updateCampaign rules id fun row =>
        { row with toCampaignSettings := settings, updatedAt := now }

def putCode (rules : TextRules) (store : ReferralStore) (id : JsString) (settings : CodeSettings)
    (now : Int) : ReferralStore :=
  attempt store <| match store.codes id with
    | none => insertCode rules store id ⟨settings, 0, 0, now⟩
    | some _ => store.updateCode rules id fun row =>
        { row with toCodeSettings := settings, updatedAt := now }

def settle (store : ReferralStore) (id : JsString) (disposition : QualificationDisposition)
    (risk : FinancialRisk) (now : Int) : ReferralStore :=
  match store.findRedemption id with
  | none => store
  | some row =>
      attempt store (store.updateRedemption row
        { row with
          qualificationDisposition := disposition, financialRisk := risk, updatedAt := now })

def ledgerStep (rules : TextRules) (store : ReferralStore) : LedgerEvent → ReferralStore
  | .serve call draw now => attempt store (perform rules store call draw now)
  | .putCampaign id settings now => putCampaign rules store id settings now
  | .putCode id settings now => putCode rules store id settings now
  | .paidHistory coverage paidEvents => { store with coverage, paidEvents }
  | .settle id disposition risk now => settle store id disposition risk now

abbrev ledger (rules : TextRules) (events : List LedgerEvent) : ReferralStore :=
  run (ledgerStep rules) emptyStore events

/-! ## The invariant -/

structure Consistent (rules : TextRules) (store : ReferralStore) : Prop where
  distinct : DistinctKeys (·.id) store.redemptions
  known : KnownOwners store
  checked : ∀ row ∈ store.redemptions, row.checked = true
  checks : ChecksHold rules store
  campaigns : Counted (·.campaignId) store.campaignCounts store.redemptions
  codes : Counted (·.codeId) store.codeCounts store.redemptions

theorem emptyStore_consistent (rules : TextRules) : Consistent rules emptyStore where
  distinct := List.nodup_nil
  known row hrow := absurd hrow List.not_mem_nil
  checked row hrow := absurd hrow List.not_mem_nil
  checks := ⟨fun id row hrow => absurd hrow (by simp [emptyStore]),
    fun id row hrow => absurd hrow (by simp [emptyStore])⟩
  campaigns id := rfl
  codes id := rfl

section Invariant

variable {rules : TextRules} {store store' : ReferralStore}

theorem mem_updateRow {rows : List RedemptionRow} {id : JsString} {updated row : RedemptionRow}
    (hrow : row ∈ updateRow (·.id) id (fun _ => updated) rows) : row = updated ∨ row ∈ rows := by
  obtain ⟨old, hold, rfl⟩ := List.mem_map.mp hrow
  by_cases hkey : old.id = id
  · exact .inl (by simp [hkey])
  · exact .inr (by simpa [hkey] using hold)

theorem RedemptionMove.consistent (hmove : RedemptionMove store store')
    (hkept : TablesKept rules store store') (hstore : Consistent rules store) :
    Consistent rules store' := by
  have hknown (row : RedemptionRow)
      (howners : (store.campaigns row.campaignId).isSome = true ∧ (store.codes row.codeId).isSome =
        true) :
      (store'.campaigns row.campaignId).isSome = true ∧ (store'.codes row.codeId).isSome = true :=
    ⟨hkept.campaigns _ howners.1, hkept.codes _ howners.2⟩
  cases hmove with
  | kept hrows hcampaigns hcodes =>
      refine ⟨hrows ▸ hstore.distinct, fun row hrow => hknown row (hstore.known row (hrows ▸ hrow)),
        hrows ▸ hstore.checked, hkept.checks hstore.checks, ?_, ?_⟩
      · rw [hrows, hcampaigns]
        exact hstore.campaigns
      · rw [hrows, hcodes]
        exact hstore.codes
  | reserved row hstate hchecked hfresh hcampaign hcode hrows hshift =>
      refine ⟨?_, fun other hother => ?_, fun other hother => ?_, hkept.checks hstore.checks,
        ?_, ?_⟩
      · rw [hrows]
        exact hstore.distinct.append_singleton hfresh
      · rw [hrows, List.mem_append, List.mem_singleton] at hother
        obtain hold | rfl := hother
        · exact hknown other (hstore.known other hold)
        · exact hknown other ⟨hcampaign, hcode⟩
      · rw [hrows, List.mem_append, List.mem_singleton] at hother
        obtain hold | rfl := hother
        · exact hstore.checked other hold
        · exact hchecked
      · rw [hrows]
        exact hstore.campaigns.append hshift.campaigns
      · rw [hrows]
        exact hstore.codes.append hshift.codes
  | advanced row updated hfound hid hcampaign hcode hadvance hchecked hrows hshift =>
      refine ⟨?_, fun other hother => ?_, fun other hother => ?_, hkept.checks hstore.checks,
        ?_, ?_⟩
      · rw [hrows]
        exact hstore.distinct.updateRow fun _ _ => hid
      · rw [hrows] at hother
        obtain rfl | hold := mem_updateRow hother
        · exact hknown other (hcampaign ▸ hcode ▸ hstore.known row (findRow_mem hfound))
        · exact hknown other (hstore.known other hold)
      · rw [hrows] at hother
        obtain rfl | hold := mem_updateRow hother
        · exact hchecked
        · exact hstore.checked other hold
      · rw [hrows]
        exact hstore.campaigns.update hstore.distinct hfound hcampaign hshift.campaigns
      · rw [hrows]
        exact hstore.codes.update hstore.distinct hfound hcode hshift.codes

theorem attempt_move {outcome : Outcome ReferralStore}
    (hok : ∀ store', outcome = .ok store' → TablesKept rules store store' ∧
      RedemptionMove store store') :
    TablesKept rules store (attempt store outcome) ∧
    RedemptionMove store (attempt store outcome) := by
  cases outcome with
  | error fault => exact ⟨.of_eq rfl rfl, .refl _⟩
  | ok store' => exact hok store' rfl

section Insert

variable {ρ : Type} {rows : JsString → Option ρ} {id : JsString} {row : ρ}

theorem isSome_insert (other : JsString) (hsome : (rows other).isSome = true) :
    (Function.update rows id (some row) other).isSome = true := by
  by_cases heq : other = id <;> simp [heq, hsome]

theorem forall_insert {P : ρ → Prop} (hrows : ∀ id row, rows id = some row → P row) (hrow : P row)
    (other : JsString) (found : ρ)
    (hfound : Function.update rows id (some row) other = some found) :
    P found := by
  by_cases heq : other = id
  · subst heq
    rw [Function.update_self] at hfound
    exact Option.some.inj hfound ▸ hrow
  · rw [Function.update_of_ne heq] at hfound
    exact hrows other found hfound

theorem counts_insert {count : ρ → Int × Int} (habsent : rows id = none) (hzero : count row = 0)
    (other : JsString) :
    ((Function.update rows id (some row) other).map count).getD 0 =
      ((rows other).map count).getD 0 := by
  by_cases heq : other = id
  · subst heq
    simp [habsent, hzero]
  · rw [Function.update_of_ne heq]

end Insert

theorem putCampaign_move (id : JsString) (settings : CampaignSettings) (now : Int) :
    TablesKept rules store (putCampaign rules store id settings now) ∧
      RedemptionMove store (putCampaign rules store id settings now) := by
  refine attempt_move fun store' hok => ?_
  cases habsent : store.campaigns id with
  | none =>
      rw [habsent] at hok
      obtain ⟨hchecked, rfl⟩ := ite_eq_ok.mp hok
      exact ⟨⟨isSome_insert, fun _ hsome => hsome, fun hchecks =>
          ⟨forall_insert hchecks.campaigns hchecked, hchecks.codes⟩⟩,
        .kept rfl (funext (counts_insert habsent rfl)) rfl⟩
  | some row =>
      rw [habsent] at hok
      exact updateCampaign_move hok fun _ => rfl

theorem putCode_move (id : JsString) (settings : CodeSettings) (now : Int) :
    TablesKept rules store (putCode rules store id settings now) ∧
      RedemptionMove store (putCode rules store id settings now) := by
  refine attempt_move fun store' hok => ?_
  cases habsent : store.codes id with
  | none =>
      rw [habsent] at hok
      obtain ⟨hchecked, rfl⟩ := ite_eq_ok.mp hok
      exact ⟨⟨fun _ hsome => hsome, isSome_insert, fun hchecks =>
          ⟨hchecks.campaigns, forall_insert hchecks.codes hchecked⟩⟩,
        .kept rfl rfl (funext (counts_insert habsent rfl))⟩
  | some row =>
      rw [habsent] at hok
      refine ⟨updateCode_kept hok, ?_⟩
      obtain ⟨-, rfl⟩ := updateCode_ok hok
      refine .kept rfl rfl (funext fun other => ?_)
      by_cases heq : other = id
      · subst heq
        simp [ReferralStore.codeCounts, habsent, CodeRow.counts]
      · simp [ReferralStore.codeCounts, heq]

theorem settle_move (id : JsString) (disposition : QualificationDisposition) (risk : FinancialRisk)
    (now : Int) : TablesKept rules store (settle store id disposition risk now) ∧
      RedemptionMove store (settle store id disposition risk now) := by
  unfold settle
  cases hfound : store.findRedemption id with
  | none => exact ⟨.of_eq rfl rfl, .refl _⟩
  | some row =>
      exact attempt_move fun store' hok =>
        updateRedemption_move hok (findRedemption_self hfound) rfl rfl rfl rfl (.inl rfl)

theorem ledgerStep_move (hknown : KnownOwners store) (event : LedgerEvent) :
    TablesKept rules store (ledgerStep rules store event) ∧
      RedemptionMove store (ledgerStep rules store event) := by
  cases event with
  | serve call draw now => exact attempt_move fun store' hok => perform_move hknown hok
  | putCampaign id settings now => exact putCampaign_move id settings now
  | putCode id settings now => exact putCode_move id settings now
  | paidHistory coverage paidEvents => exact ⟨.of_eq rfl rfl, .kept rfl rfl rfl⟩
  | settle id disposition risk now => exact settle_move id disposition risk now

theorem ledger_consistent (rules : TextRules) (events : List LedgerEvent) :
    Consistent rules (ledger rules events) := by
  refine run_invariant (Consistent rules) events (fun store event hstore => ?_)
    (emptyStore_consistent rules)
  obtain ⟨hkept, hmove⟩ := ledgerStep_move hstore.known event
  exact hmove.consistent hkept hstore

end Invariant

/-! ## What the counters say -/

def CountExactly (owner : RedemptionRow → JsString) (store : ReferralStore) (id : JsString)
    (live qualified : Int) : Prop :=
  live = store.redemptions.countP (fun row => decide (owner row = id) && row.isActive) ∧
    qualified = store.redemptions.countP fun row =>
      decide (owner row = id) && decide (row.capSlotState = .consumed)

structure CountersExact (store : ReferralStore) : Prop where
  campaigns : ∀ id row, store.campaigns id = some row →
    CountExactly (·.campaignId) store id row.liveReservedCount row.qualifiedCount
  codes : ∀ id row, store.codes id = some row →
    CountExactly (·.codeId) store id row.liveReservedCount row.qualifiedCount

def WithinCap (maxPaidRedemptions : Option Int) (live qualified : Int) : Prop :=
  0 ≤ live ∧ 0 ≤ qualified ∧ ∀ cap, maxPaidRedemptions = some cap → live + qualified ≤ cap

structure CapsKept (store : ReferralStore) : Prop where
  campaigns : ∀ id row, store.campaigns id = some row →
    WithinCap row.maxPaidRedemptions row.liveReservedCount row.qualifiedCount
  codes : ∀ id row, store.codes id = some row →
    WithinCap row.maxPaidRedemptions row.liveReservedCount row.qualifiedCount

theorem held_iff_active {row : RedemptionRow} (hchecked : row.checked = true) :
    row.capSlotState = .held ↔ row.isActive = true := by
  simp only [RedemptionRow.checked, Bool.and_eq_true, decide_eq_true_eq] at hchecked
  rw [hchecked.2, RedemptionRow.isActive]
  cases row.acquisitionState <;> simp [AcquisitionState.capSlot, AcquisitionState.isActive]

theorem Counted.countExactly {owner : RedemptionRow → JsString} {counts : JsString → Int × Int}
    {store : ReferralStore} (hcounted : Counted owner counts store.redemptions)
    (hchecked : ∀ row ∈ store.redemptions, row.checked = true) {id : JsString}
    {live qualified : Int}
    (hcounts : counts id = (live, qualified)) : CountExactly owner store id live qualified := by
  have hpair := hcounts.symm.trans (hcounted id)
  obtain ⟨hlive, hqualified⟩ := Prod.mk.inj hpair
  refine ⟨?_, hqualified⟩
  rw [hlive, Nat.cast_inj]
  refine List.countP_congr fun row hrow => ?_
  simp only [Bool.and_eq_true, decide_eq_true_eq, held_iff_active (hchecked row hrow)]

theorem Consistent.countersExact {rules : TextRules} {store : ReferralStore}
    (hstore : Consistent rules store) : CountersExact store where
  campaigns id row hrow := hstore.campaigns.countExactly hstore.checked
    (by simp [ReferralStore.campaignCounts, hrow, CampaignRow.counts])
  codes id row hrow := hstore.codes.countExactly hstore.checked
    (by simp [ReferralStore.codeCounts, hrow, CodeRow.counts])

theorem countsChecked_withinCap {maxPaidRedemptions : Option Int} {live qualified : Int}
    (hchecked : countsChecked maxPaidRedemptions live qualified = true) :
    WithinCap maxPaidRedemptions live qualified := by
  simp only [countsChecked, Bool.and_eq_true, decide_eq_true_eq] at hchecked
  refine ⟨hchecked.1.1, hchecked.1.2, fun cap hcap => ?_⟩
  have hall := hchecked.2
  simp only [hcap, Option.all_some, Bool.and_eq_true, decide_eq_true_eq] at hall
  exact hall.2

theorem Consistent.capsKept {rules : TextRules} {store : ReferralStore}
    (hstore : Consistent rules store) : CapsKept store where
  campaigns id row hrow := by
    have hchecked := hstore.checks.campaigns id row hrow
    simp only [CampaignRow.checked, Bool.and_eq_true] at hchecked
    exact countsChecked_withinCap hchecked.2.2
  codes id row hrow := by
    have hchecked := hstore.checks.codes id row hrow
    simp only [CodeRow.checked, Bool.and_eq_true] at hchecked
    exact countsChecked_withinCap hchecked.2

/-! ## The path of a redemption -/

/-- A redemption starts reserved, moves along its arrows, and is never lost. -/
def MovesAlong : Option RedemptionRow → Option RedemptionRow → Prop
  | none, none => True
  | none, some row => row.acquisitionState = .reserved
  | some row, some row' => row.acquisitionState = row'.acquisitionState ∨
      Advances row.acquisitionState row'.acquisitionState
  | some _, none => False

theorem MovesAlong.refl (row : Option RedemptionRow) : MovesAlong row row := by
  cases row with
  | none => trivial
  | some row => exact .inl rfl

theorem RedemptionMove.movesAlong {store store' : ReferralStore}
    (hmove : RedemptionMove store store')
    (id : JsString) : MovesAlong (store.findRedemption id) (store'.findRedemption id) := by
  cases hmove with
  | kept hrows =>
      rw [ReferralStore.findRedemption, ReferralStore.findRedemption, hrows]
      exact .refl _
  | reserved row hstate hchecked hfresh hcampaign hcode hrows hshift =>
      rw [ReferralStore.findRedemption, ReferralStore.findRedemption, hrows,
        findRow_append_singleton id hfresh]
      split
      · rename_i heq
        rw [ReferralStore.findRedemption, heq] at hfresh
        rw [hfresh]
        exact hstate
      · exact .refl _
  | advanced row updated hfound hid hcampaign hcode hadvance hchecked hrows hshift =>
      rw [ReferralStore.findRedemption, ReferralStore.findRedemption, hrows,
        findRow_updateRow id fun _ _ => hid]
      split
      · rename_i heq
        rw [ReferralStore.findRedemption] at hfound
        rw [heq, hfound]
        exact hadvance
      · exact .refl _

/-! ## Replays -/

section Replays

variable {rules : TextRules} {store store' again : ReferralStore}

theorem adjustCounts_redemptions {campaignId codeId : JsString} {live qualified now : Int}
    (hok : store.adjustCounts rules campaignId codeId live qualified now = .ok store') :
    store'.redemptions = store.redemptions := by
  obtain ⟨middle, hfirst, hsecond⟩ := bind_eq_ok.mp hok
  obtain ⟨-, rfl⟩ := updateCampaign_ok hfirst
  obtain ⟨-, rfl⟩ := updateCode_ok hsecond
  rfl

theorem HeldTransition.target_ne_source (transition : HeldTransition) :
    transition.target ≠ transition.source := by
  cases transition <;> decide

theorem transitionHeldReservation_again {id : JsString} {transition : HeldTransition}
    {fields : TransitionFields} {now now' : Int} {row row' : RedemptionRow}
    (hok : transitionHeldReservation rules store id transition fields now = .ok (store', row))
    (hagain : transitionHeldReservation rules store' id transition fields now' =
      .ok (again, row')) :
    again = store' := by
  obtain ⟨rfl, hreplay⟩ | ⟨before, moved, hfound, -, -, rfl, hmoved, hcounted⟩ :=
    transitionHeldReservation_ok hok
  · rw [hreplay now'] at hagain
    exact (Prod.mk.inj (Except.ok.inj hagain)).1.symm
  obtain ⟨rfl, -⟩ | ⟨after, moved', hafter, hsource, -⟩ := transitionHeldReservation_ok hagain
  · rfl
  obtain ⟨hid, -, -, htarget⟩ := transitionedRow_id transition fields now before
  have hfind : store'.findRedemption id = some (transitionedRow transition fields now before) := by
    rw [ReferralStore.findRedemption, adjustCounts_redemptions hcounted]
    exact findRedemption_updated hmoved hfound hid
  rw [hfind] at hafter
  rw [← Option.some.inj hafter, htarget] at hsource
  exact absurd hsource transition.target_ne_source

theorem createReferralReservation_again {input : CreateReferralReservationInput}
    {draw draw' : RandomDraw} {now now' : Int} {row row' : RedemptionRow}
    (hok : createReferralReservation rules store input draw now = .ok (store', row)) :
    createReferralReservation rules store' input draw' now' ≠ .ok (again, row') := by
  intro hagain
  obtain ⟨campaign, code, counted, -, -, -, hinsert, rfl⟩ := createReferralReservation_ok hok
  obtain ⟨campaign', code', counted', -, -, hcounted', hinsert', rfl⟩ :=
    createReferralReservation_ok hagain
  obtain ⟨-, -, -, rfl⟩ := insertRedemption_ok hinsert
  obtain ⟨-, -, hfree, -⟩ := insertRedemption_ok hinsert'
  have hmem : reservedRow input code draw now ∈ counted'.redemptions := by
    rw [adjustCounts_redemptions hcounted']
    exact List.mem_append_right _ (List.mem_singleton_self _)
  have hconflict := hfree _ hmem
  simp [RedemptionRow.conflictsWith, reservedRow, RedemptionRow.isActive, AcquisitionState.isActive]
    at hconflict

theorem markReferralCheckoutCreated_again {id : JsString} {input : MarkReferralCheckoutCreatedInput}
    {now now' : Int} {row row' : RedemptionRow}
    (hok : markReferralCheckoutCreated store id input now = .ok (store', row))
    (hagain : markReferralCheckoutCreated store' id input now' = .ok (again, row')) :
    again = store' := by
  obtain ⟨rfl, -⟩ | ⟨after, customer', subscription', expiresAt', hafter, hreserved, -, -⟩ :=
    markReferralCheckoutCreated_ok hagain
  · rfl
  obtain ⟨rfl, before, hfound, hcreated⟩ | ⟨before, customer, subscription, expiresAt, hfound, -,
    rfl, hmoved⟩ :=
    markReferralCheckoutCreated_ok hok
  · rw [Option.some.inj (hfound.symm.trans hafter), hreserved] at hcreated
    cases hcreated
  · have hfind := findRedemption_updated hmoved hfound rfl
    rw [← Option.some.inj (hfind.symm.trans hafter)] at hreserved
    cases hreserved

theorem markReferralCheckoutCompleted_again {id : JsString}
    {input : MarkReferralCheckoutCompletedInput}
    {now now' : Int} {row row' : RedemptionRow}
    (hok : markReferralCheckoutCompleted store id input now = .ok (store', row))
    (hagain : markReferralCheckoutCompleted store' id input now' = .ok (again, row')) :
    again = store' := by
  obtain ⟨rfl, -⟩ | ⟨after, customer', subscription', hafter, hcreated, -, -⟩ :=
    markReferralCheckoutCompleted_ok hagain
  · rfl
  obtain ⟨rfl, before, hfound, hcompleted⟩ | ⟨before, customer, subscription, hfound, -, rfl,
    hmoved⟩ :=
    markReferralCheckoutCompleted_ok hok
  · rw [Option.some.inj (hfound.symm.trans hafter), hcreated] at hcompleted
    cases hcompleted
  · have hfind := findRedemption_updated hmoved hfound rfl
    rw [← Option.some.inj (hfind.symm.trans hafter)] at hcreated
    cases hcreated

theorem updateCampaignEconomics_again {campaignId : JsString} {patch : CampaignEconomicsPatch}
    {now now' : Int} {row row' : CampaignRow}
    (hok : updateCampaignEconomics rules store campaignId patch now = .ok (store', row))
    (hagain : updateCampaignEconomics rules store' campaignId patch now' = .ok (again, row')) :
    again = { store' with
      campaigns := Function.update store'.campaigns campaignId
        ((store'.campaigns campaignId).map ({ · with updatedAt := now' })) } := by
  obtain ⟨-, rfl⟩ := updateCampaign_ok (updateCampaignEconomics_ok hok)
  obtain ⟨-, rfl⟩ := updateCampaign_ok (updateCampaignEconomics_ok hagain)
  have hpatched (row : CampaignRow) :
      patch.set rules now' (patch.set rules now row) =
        { patch.set rules now row with updatedAt := now' } := by
    obtain ⟨percentOff, durationMonths, currency, productScope, billingIntervalScope, cap, strategy,
      reason⟩ := patch
    cases percentOff <;> cases durationMonths <;> cases currency <;> cases productScope <;>
      cases billingIntervalScope <;> cases cap <;> cases strategy <;> rfl
  simp only [Function.update_self, Option.map_map]
  congr 3
  funext row
  exact hpatched row

end Replays

/-- What a call that follows itself may still change: nothing, or the stamp of a
patched campaign. -/
def RepeatedBy (call : ReferralCall) (store again : ReferralStore) : Prop :=
  match call with
  | .updateCampaignEconomics campaignId _ =>
      again = store ∨ ∃ now, again = { store with
        campaigns := Function.update store.campaigns campaignId
          ((store.campaigns campaignId).map ({ · with updatedAt := now })) }
  | _ => again = store

theorem attempt_eq {store : ReferralStore} {outcome : Outcome ReferralStore}
    (hok : ∀ store', outcome = .ok store' → store' = store) : attempt store outcome = store := by
  cases outcome with
  | error fault => rfl
  | ok store' => exact hok store' rfl

/-- A committed call that is served once more, with any clock and any random draw. -/
theorem perform_again {rules : TextRules} {store store' : ReferralStore} {call : ReferralCall}
    {draw draw' : RandomDraw} {now now' : Int}
    (hok : perform rules store call draw now = .ok store') :
    RepeatedBy call store' (attempt store' (perform rules store' call draw' now')) := by
  cases call with
  | createReferralReservation input =>
      obtain ⟨row, hok⟩ := map_fst_ok.mp hok
      refine attempt_eq fun again hagain => ?_
      obtain ⟨row', hagain⟩ := map_fst_ok.mp hagain
      exact absurd hagain (createReferralReservation_again hok)
  | markReferralCheckoutCreated id input =>
      obtain ⟨row, hok⟩ := map_fst_ok.mp hok
      refine attempt_eq fun again hagain => ?_
      obtain ⟨row', hagain⟩ := map_fst_ok.mp hagain
      exact markReferralCheckoutCreated_again hok hagain
  | markReferralCheckoutCompleted id input =>
      obtain ⟨row, hok⟩ := map_fst_ok.mp hok
      refine attempt_eq fun again hagain => ?_
      obtain ⟨row', hagain⟩ := map_fst_ok.mp hagain
      exact markReferralCheckoutCompleted_again hok hagain
  | voidReferralReservation id reason =>
      obtain ⟨row, hok⟩ := map_fst_ok.mp hok
      refine attempt_eq fun again hagain => ?_
      obtain ⟨row', hagain⟩ := map_fst_ok.mp hagain
      exact transitionHeldReservation_again hok hagain
  | expireReferralReservation id =>
      obtain ⟨row, hok⟩ := map_fst_ok.mp hok
      refine attempt_eq fun again hagain => ?_
      obtain ⟨row', hagain⟩ := map_fst_ok.mp hagain
      exact transitionHeldReservation_again hok hagain
  | expireReferralCheckoutSession id session =>
      obtain ⟨row, hok⟩ := map_fst_ok.mp hok
      refine attempt_eq fun again hagain => ?_
      obtain ⟨row', hagain⟩ := map_fst_ok.mp hagain
      simp only [expireReferralCheckoutSession, bind_eq_ok] at hok hagain
      obtain ⟨-, -, -, -, hok⟩ := hok
      obtain ⟨-, -, -, -, hagain⟩ := hagain
      exact transitionHeldReservation_again hok hagain
  | qualifyReferralRedemption id input =>
      obtain ⟨row, hok⟩ := map_fst_ok.mp hok
      refine attempt_eq fun again hagain => ?_
      obtain ⟨row', hagain⟩ := map_fst_ok.mp hagain
      simp only [qualifyReferralRedemption, bind_eq_ok] at hok hagain
      obtain ⟨subscription, hsubscription, customer, hcustomer, hok⟩ := hok
      obtain ⟨subscription', hsubscription', customer', hcustomer', hagain⟩ := hagain
      rw [hsubscription, Except.ok.injEq] at hsubscription'
      rw [hcustomer, Except.ok.injEq] at hcustomer'
      subst hsubscription' hcustomer'
      exact transitionHeldReservation_again hok hagain
  | qualifyReferralInvoicePayment input =>
      obtain ⟨row, hok⟩ := map_fst_ok.mp hok
      refine attempt_eq fun again hagain => ?_
      obtain ⟨row', hagain⟩ := map_fst_ok.mp hagain
      simp only [qualifyReferralInvoicePayment, bind_eq_ok] at hok hagain
      obtain ⟨subscription, hsubscription, customer, hcustomer, joined, -, -, -, -, -, -, -, hok⟩ :=
        hok
      obtain ⟨subscription', hsubscription', customer', hcustomer', joined', -, -, -, -, -, -, -,
        hagain⟩ :=
        hagain
      rw [hsubscription, Except.ok.injEq] at hsubscription'
      rw [hcustomer, Except.ok.injEq] at hcustomer'
      subst hsubscription' hcustomer'
      exact transitionHeldReservation_again hok hagain
  | updateCampaignEconomics campaignId patch =>
      obtain ⟨row, hok⟩ := map_fst_ok.mp hok
      cases hsecond : perform rules store' (.updateCampaignEconomics campaignId patch)
        draw' now' with
      | error fault => exact .inl rfl
      | ok again =>
          obtain ⟨row', hagain⟩ := map_fst_ok.mp hsecond
          exact .inr ⟨now', updateCampaignEconomics_again hok hagain⟩

/-- In every reached store both counters of every campaign and code are exact and within the
cap, every step moves redemptions along their arrows only, a call that throws changes
nothing, and neither does a call that follows itself. -/
theorem counters_count_redemptions (rules : TextRules) (events : List LedgerEvent) :
    CountersExact (ledger rules events) ∧ CapsKept (ledger rules events) ∧
    (∀ event id, MovesAlong ((ledger rules events).findRedemption id)
      ((ledgerStep rules (ledger rules events) event).findRedemption id)) ∧
    (∀ call draw now fault, perform rules (ledger rules events) call draw now = .error fault →
      ledgerStep rules (ledger rules events) (.serve call draw now) = ledger rules events) ∧
    ∀ call draw now store', perform rules (ledger rules events) call draw now = .ok store' →
      ∀ draw' now', RepeatedBy call store' (ledgerStep rules store' (.serve call draw' now')) := by
  have hstore := ledger_consistent rules events
  refine ⟨hstore.countersExact, hstore.capsKept, fun event id => ?_, ?_, ?_⟩
  · exact (ledgerStep_move hstore.known event).2.movesAlong id
  · intro call draw now fault herror
    simp only [ledgerStep, herror, attempt]
  · intro call draw now store' hok draw' now'
    exact perform_again hok

end Raft.Referral
