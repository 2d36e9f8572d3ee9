import Raft.Referral.Reservations

/-!
# What a committed call moves

Every committed call moves at most one redemption, and shifts the two counters of
its campaign and of its code by what the redemption's slot changed.
-/

namespace Raft.Referral

open Raft.Foundation

/-! ## Counts -/

def CampaignRow.counts (row : CampaignRow) : Int × Int :=
  (row.liveReservedCount, row.qualifiedCount)

def CodeRow.counts (row : CodeRow) : Int × Int := (row.liveReservedCount, row.qualifiedCount)

namespace ReferralStore

variable (store : ReferralStore)

def campaignCounts (id : JsString) : Int × Int :=
  ((store.campaigns id).map CampaignRow.counts).getD 0

def codeCounts (id : JsString) : Int × Int := ((store.codes id).map CodeRow.counts).getD 0

end ReferralStore

def slots (owner : RedemptionRow → JsString) (slot : CapSlotState) (id : JsString)
    (rows : List RedemptionRow) : Nat :=
  rows.countP fun row => decide (owner row = id) && decide (row.capSlotState = slot)

def RedemptionRow.units (row : RedemptionRow) : Int × Int :=
  (if row.capSlotState = .held then 1 else 0, if row.capSlotState = .consumed then 1 else 0)

def Counted (owner : RedemptionRow → JsString) (counts : JsString → Int × Int)
    (rows : List RedemptionRow) : Prop :=
  ∀ id, counts id = ((slots owner .held id rows : Int), (slots owner .consumed id rows : Int))

section Counted

variable {owner : RedemptionRow → JsString} {counts counts' : JsString → Int × Int}
variable {rows : List RedemptionRow}

theorem Counted.append {row : RedemptionRow} (hcounted : Counted owner counts rows)
    (hshift : ∀ id, counts' id = counts id + if id = owner row then row.units else 0) :
    Counted owner counts' (rows ++ [row]) := by
  intro id
  rw [hshift id, hcounted id]
  by_cases howner : owner row = id
  · subst howner
    simp [slots, List.countP_append, RedemptionRow.units]
  · have hne : id ≠ owner row := fun heq => howner heq.symm
    simp [slots, List.countP_append, howner, hne]

theorem Counted.update {id : JsString} {row updated : RedemptionRow}
    (hcounted : Counted owner counts rows) (hkeys : DistinctKeys (·.id) rows)
    (hrow : findRow (·.id) id rows = some row) (howner : owner updated = owner row)
    (hshift : ∀ id, counts' id = counts id +
      if id = owner row then updated.units - row.units else 0) :
    Counted owner counts' (updateRow (·.id) id (fun _ => updated) rows) := by
  intro other
  have hmoved (slot : CapSlotState) := countP_updateRow
    (fun row => decide (owner row = other) && decide (row.capSlotState = slot)) (fun _ => updated)
    hkeys hrow
  have hheld := hmoved .held
  have hconsumed := hmoved .consumed
  rw [hshift other, hcounted other]
  by_cases hother : owner row = other
  · subst hother
    simp only [howner, decide_true, Bool.true_and, decide_eq_true_eq] at hheld hconsumed
    simp only [slots, RedemptionRow.units, if_true, Prod.ext_iff, Prod.fst_add, Prod.snd_add,
      Prod.fst_sub, Prod.snd_sub]
    constructor
    · by_cases hbefore : row.capSlotState = .held <;> by_cases hafter : updated.capSlotState =
        .held <;>
        simp only [hbefore, hafter, if_true, if_false] at hheld ⊢ <;> omega
    · by_cases hbefore : row.capSlotState = .consumed <;>
        by_cases hafter : updated.capSlotState = .consumed <;>
          simp only [hbefore, hafter, if_true, if_false] at hconsumed ⊢ <;> omega
  · have hne : other ≠ owner row := fun heq => hother heq.symm
    simp only [howner, hother, decide_false, Bool.false_and, Bool.false_eq_true, if_false,
      Nat.add_zero] at hheld hconsumed
    simp [slots, hne, hheld, hconsumed]

end Counted

/-! ## What a statement changes -/

structure ChecksHold (rules : TextRules) (store : ReferralStore) : Prop where
  campaigns : ∀ id row, store.campaigns id = some row → row.checked rules = true
  codes : ∀ id row, store.codes id = some row → row.checked rules = true

structure TablesKept (rules : TextRules) (store store' : ReferralStore) : Prop where
  campaigns : ∀ id, (store.campaigns id).isSome = true → (store'.campaigns id).isSome = true
  codes : ∀ id, (store.codes id).isSome = true → (store'.codes id).isSome = true
  checks : ChecksHold rules store → ChecksHold rules store'

structure CountsShift (store store' : ReferralStore) (campaignId codeId : JsString)
    (units : Int × Int) : Prop where
  campaigns : ∀ id,
    store'.campaignCounts id = store.campaignCounts id + if id = campaignId then units else 0
  codes : ∀ id, store'.codeCounts id = store.codeCounts id + if id = codeId then units else 0

section Statements

variable {rules : TextRules} {store store' : ReferralStore}

theorem TablesKept.of_eq (hcampaigns : store'.campaigns = store.campaigns)
    (hcodes : store'.codes = store.codes) : TablesKept rules store store' where
  campaigns id := by rw [hcampaigns]; exact fun h => h
  codes id := by rw [hcodes]; exact fun h => h
  checks hchecks :=
    ⟨by rw [hcampaigns]; exact hchecks.campaigns, by rw [hcodes]; exact hchecks.codes⟩

theorem TablesKept.trans {last : ReferralStore} (hfirst : TablesKept rules store store')
    (hsecond : TablesKept rules store' last) : TablesKept rules store last where
  campaigns id h := hsecond.campaigns id (hfirst.campaigns id h)
  codes id h := hsecond.codes id (hfirst.codes id h)
  checks h := hsecond.checks (hfirst.checks h)

theorem CountsShift.of_eq {campaignId codeId : JsString}
    (hcampaigns : store'.campaigns = store.campaigns)
    (hcodes : store'.codes = store.codes) : CountsShift store store' campaignId codeId 0 where
  campaigns id := by simp [ReferralStore.campaignCounts, hcampaigns]
  codes id := by simp [ReferralStore.codeCounts, hcodes]

theorem ite_eq_ok {α : Type} {condition : Prop} [Decidable condition] {value result : α}
    {fault : ReferralFault} :
    (if condition then (.ok value : Outcome α) else .error fault) = .ok result ↔
      condition ∧ value = result := by
  by_cases h : condition <;> simp [h]

theorem updateCampaign_ok {id : JsString} {update : CampaignRow → CampaignRow}
    (hok : store.updateCampaign rules id update = .ok store') :
    (∀ row, store.campaigns id = some row → (update row).checked rules = true) ∧
      store' = { store with
        campaigns := Function.update store.campaigns id ((store.campaigns id).map update) } := by
  unfold ReferralStore.updateCampaign at hok
  cases hrow : store.campaigns id with
  | none =>
      simp only [hrow, Except.ok.injEq] at hok
      subst hok
      refine ⟨fun row hnone => absurd hnone (by simp), ?_⟩
      rw [Option.map_none, ← hrow, Function.update_eq_self]
  | some row =>
      rw [hrow] at hok
      obtain ⟨hchecked, hstore⟩ := ite_eq_ok.mp hok
      refine ⟨fun other hother => Option.some.inj hother ▸ hchecked, hstore.symm⟩

theorem updateCode_ok {id : JsString} {update : CodeRow → CodeRow}
    (hok : store.updateCode rules id update = .ok store') :
    (∀ row, store.codes id = some row → (update row).checked rules = true) ∧
      store' =
        { store with codes := Function.update store.codes id ((store.codes id).map update) } := by
  unfold ReferralStore.updateCode at hok
  cases hrow : store.codes id with
  | none =>
      simp only [hrow, Except.ok.injEq] at hok
      subst hok
      refine ⟨fun row hnone => absurd hnone (by simp), ?_⟩
      rw [Option.map_none, ← hrow, Function.update_eq_self]
  | some row =>
      rw [hrow] at hok
      obtain ⟨hchecked, hstore⟩ := ite_eq_ok.mp hok
      refine ⟨fun other hother => Option.some.inj hother ▸ hchecked, hstore.symm⟩

theorem updateCampaign_kept {id : JsString} {update : CampaignRow → CampaignRow}
    (hok : store.updateCampaign rules id update = .ok store') : TablesKept rules store store' := by
  obtain ⟨hchecked, rfl⟩ := updateCampaign_ok hok
  refine ⟨fun other hsome => ?_, fun other hsome => hsome, fun hchecks =>
    ⟨fun other row hrow => ?_, hchecks.codes⟩⟩
  · by_cases heq : other = id
    · subst heq
      simpa using hsome
    · simpa [heq] using hsome
  · by_cases heq : other = id
    · subst heq
      simp only [Function.update_self, Option.map_eq_some_iff] at hrow
      obtain ⟨old, hold, rfl⟩ := hrow
      exact hchecked old hold
    · exact hchecks.campaigns other row (by simpa [heq] using hrow)

theorem updateCode_kept {id : JsString} {update : CodeRow → CodeRow}
    (hok : store.updateCode rules id update = .ok store') : TablesKept rules store store' := by
  obtain ⟨hchecked, rfl⟩ := updateCode_ok hok
  refine ⟨fun other hsome => hsome, fun other hsome => ?_, fun hchecks =>
    ⟨hchecks.campaigns, fun other row hrow => ?_⟩⟩
  · by_cases heq : other = id
    · subst heq
      simpa using hsome
    · simpa [heq] using hsome
  · by_cases heq : other = id
    · subst heq
      simp only [Function.update_self, Option.map_eq_some_iff] at hrow
      obtain ⟨old, hold, rfl⟩ := hrow
      exact hchecked old hold
    · exact hchecks.codes other row (by simpa [heq] using hrow)

theorem adjustCounts_ok {campaignId codeId : JsString} {live qualified now : Int}
    (hok : store.adjustCounts rules campaignId codeId live qualified now = .ok store')
    (hcampaign : (store.campaigns campaignId).isSome = true)
    (hcode : (store.codes codeId).isSome = true) :
    store'.redemptions = store.redemptions ∧ TablesKept rules store store' ∧
      CountsShift store store' campaignId codeId (live, qualified) := by
  obtain ⟨middle, hfirst, hsecond⟩ := bind_eq_ok.mp hok
  have hkept := (updateCampaign_kept hfirst).trans (updateCode_kept hsecond)
  obtain ⟨-, rfl⟩ := updateCampaign_ok hfirst
  obtain ⟨-, rfl⟩ := updateCode_ok hsecond
  obtain ⟨campaign, hcampaign⟩ := Option.isSome_iff_exists.mp hcampaign
  obtain ⟨code, hcode⟩ := Option.isSome_iff_exists.mp hcode
  refine ⟨rfl, hkept, fun id => ?_, fun id => ?_⟩
  · by_cases heq : id = campaignId
    · subst heq
      simp [ReferralStore.campaignCounts, hcampaign, CampaignRow.counts, CampaignRow.adjust]
    · simp [ReferralStore.campaignCounts, heq]
  · by_cases heq : id = codeId
    · subst heq
      simp [ReferralStore.codeCounts, hcode, CodeRow.counts, CodeRow.adjust]
    · simp [ReferralStore.codeCounts, heq]

theorem insertRedemption_ok {row : RedemptionRow} (hok : store.insertRedemption row = .ok store') :
    row.checked = true ∧ store.findRedemption row.id = none ∧
      (∀ other ∈ store.redemptions, row.conflictsWith other = false) ∧
      store' = { store with redemptions := store.redemptions ++ [row] } := by
  unfold ReferralStore.insertRedemption at hok
  split at hok
  · cases hok
  split at hok
  · cases hok
  rename_i hchecked hconflict
  cases hok
  simp only [List.any_eq_true, Bool.or_eq_true, decide_eq_true_eq, not_exists, not_and, not_or,
    Bool.not_eq_true] at hconflict
  refine ⟨by simpa using hchecked, findRow_eq_none.mpr fun other hother =>
    (hconflict other hother).1,
    fun other hother => (hconflict other hother).2, rfl⟩

theorem updateRedemption_ok {row updated : RedemptionRow} (hid : updated.id = row.id)
    (hok : store.updateRedemption row updated = .ok store') :
    updated.checked = true ∧
      store' = { store with
        redemptions := updateRow (·.id) row.id (fun _ => updated) store.redemptions } := by
  unfold ReferralStore.updateRedemption at hok
  split at hok
  · cases hok
  split at hok
  · cases hok
  rename_i hchecked hconflict
  cases hok
  refine ⟨by simpa using hchecked, ?_⟩
  rw [← hid]

theorem findRedemption_updated {row updated : RedemptionRow} {id : JsString}
    (hok : store.updateRedemption row updated = .ok store')
    (hfound : store.findRedemption id = some row) (hid : updated.id = row.id) :
    store'.findRedemption id = some updated := by
  obtain ⟨-, rfl⟩ := updateRedemption_ok hid hok
  have hkey : row.id = id := findRow_key hfound
  rw [ReferralStore.findRedemption] at hfound ⊢
  rw [findRow_updateRow id fun _ _ => hid, if_pos hkey.symm, hkey, hfound]
  rfl

end Statements

/-! ## What a call moves -/

inductive Advances : AcquisitionState → AcquisitionState → Prop
  | created : Advances .reserved .checkoutCreated
  | completed : Advances .checkoutCreated .checkoutCompleted
  | qualified : Advances .checkoutCompleted .qualified
  | void : Advances .reserved .void
  | expired : Advances .checkoutCreated .checkoutExpired

def KnownOwners (store : ReferralStore) : Prop :=
  ∀ row ∈ store.redemptions,
    (store.campaigns row.campaignId).isSome = true ∧ (store.codes row.codeId).isSome = true

/-- At most one redemption is new or moves, and the counters of its owners follow it. -/
inductive RedemptionMove (store store' : ReferralStore) : Prop
  | kept (hrows : store'.redemptions = store.redemptions)
      (hcampaigns : store'.campaignCounts = store.campaignCounts)
      (hcodes : store'.codeCounts = store.codeCounts)
  | reserved (row : RedemptionRow) (hstate : row.acquisitionState = .reserved)
      (hchecked : row.checked = true) (hfresh : store.findRedemption row.id = none)
      (hcampaign : (store.campaigns row.campaignId).isSome = true)
      (hcode : (store.codes row.codeId).isSome = true)
      (hrows : store'.redemptions = store.redemptions ++ [row])
      (hshift : CountsShift store store' row.campaignId row.codeId row.units)
  | advanced (row updated : RedemptionRow) (hfound : store.findRedemption row.id = some row)
      (hid : updated.id = row.id) (hcampaign : updated.campaignId = row.campaignId)
      (hcode : updated.codeId = row.codeId)
      (hadvance : row.acquisitionState = updated.acquisitionState ∨
        Advances row.acquisitionState updated.acquisitionState)
      (hchecked : updated.checked = true)
      (hrows : store'.redemptions = updateRow (·.id) row.id (fun _ => updated) store.redemptions)
      (hshift : CountsShift store store' row.campaignId row.codeId (updated.units - row.units))

theorem RedemptionMove.refl (store : ReferralStore) : RedemptionMove store store :=
  .kept rfl rfl rfl

theorem selectRedemption_ok {store : ReferralStore} {id : JsString} {row : RedemptionRow} :
    selectRedemption store id = .ok row ↔ store.findRedemption id = some row := by
  unfold selectRedemption
  cases store.findRedemption id <;> simp

section Moves

variable {rules : TextRules} {store store' : ReferralStore}

theorem createReferralReservation_ok {input : CreateReferralReservationInput} {draw : RandomDraw}
    {now : Int} {row : RedemptionRow}
    (hok : createReferralReservation rules store input draw now = .ok (store', row)) :
    ∃ campaign code counted,
      store.campaigns input.campaignId = some campaign ∧
      store.codes input.codeId = some code ∧
      store.adjustCounts rules input.campaignId input.codeId 1 0 now = .ok counted ∧
      counted.insertRedemption row = .ok store' ∧ row = reservedRow input code draw now := by
  simp only [createReferralReservation, bind_eq_ok, ensure_eq_ok, pure, Except.pure] at hok
  obtain ⟨-, -, -, -, campaign, hcampaign, -, -, code, hcode, counted, hcounted, inserted,
    hinserted, hresult⟩ := hok
  obtain ⟨rfl, rfl⟩ := Prod.mk.inj (Except.ok.inj hresult)
  refine ⟨campaign, code, counted, ?_, ?_, hcounted, ?_, rfl⟩
  · unfold redeemableCampaign at hcampaign
    cases hrow : store.campaigns input.campaignId with
    | none => rw [hrow] at hcampaign; cases hcampaign
    | some found => rw [hrow] at hcampaign; rw [(ite_eq_ok.mp hcampaign).2]
  · unfold redeemableCode at hcode
    cases hrow : store.codes input.codeId with
    | none => rw [hrow] at hcode; cases hcode
    | some found => rw [hrow] at hcode; rw [(ite_eq_ok.mp hcode).2]
  · revert hinserted
    cases hinsert : counted.insertRedemption (reservedRow input code draw now) with
    | error fault => cases fault <;> simp [mapUniqueClaimError]
    | ok value => simp [mapUniqueClaimError]

theorem createReferralReservation_move {input : CreateReferralReservationInput} {draw : RandomDraw}
    {now : Int} {row : RedemptionRow}
    (hok : createReferralReservation rules store input draw now = .ok (store', row)) :
    TablesKept rules store store' ∧ RedemptionMove store store' := by
  obtain ⟨campaign, code, counted, hcampaign, hcode, hcounted, hinsert, rfl⟩ :=
    createReferralReservation_ok hok
  have hhas : (store.campaigns input.campaignId).isSome = true := by rw [hcampaign]; rfl
  have hhasCode : (store.codes input.codeId).isSome = true := by rw [hcode]; rfl
  obtain ⟨hrows, hkept, hshift⟩ := adjustCounts_ok hcounted hhas hhasCode
  obtain ⟨hchecked, hfresh, -, rfl⟩ := insertRedemption_ok hinsert
  rw [ReferralStore.findRedemption, hrows] at hfresh
  refine ⟨hkept.trans (.of_eq rfl rfl), .reserved _ rfl hchecked hfresh hhas hhasCode ?_ ?_⟩
  · rw [hrows]
  · exact ⟨hshift.campaigns, hshift.codes⟩

theorem replayed_ok {condition : Bool} {fault : ReferralFault} {row updated : RedemptionRow}
    (hok : (ensure condition fault >>= fun _ => pure (store, row)) = .ok (store', updated)) :
    store' = store ∧ updated = row ∧ ensure condition fault = .ok () := by
  obtain ⟨_, hensure, hresult⟩ := bind_eq_ok.mp hok
  obtain ⟨rfl, rfl⟩ := Prod.mk.inj (Except.ok.inj hresult)
  exact ⟨rfl, rfl, hensure⟩

/-- A transition replays, whatever the clock, or moves a held redemption from its source. -/
theorem transitionHeldReservation_ok {id : JsString} {transition : HeldTransition}
    {fields : TransitionFields} {now : Int} {updated : RedemptionRow}
    (hok : transitionHeldReservation rules store id transition fields now = .ok (store', updated)) :
    (store' = store ∧ ∀ now',
      transitionHeldReservation rules store id transition fields now' = .ok (store, updated)) ∨
    ∃ row moved, store.findRedemption id = some row ∧ row.acquisitionState = transition.source ∧
      row.capSlotState = .held ∧ updated = transitionedRow transition fields now row ∧
      store.updateRedemption row updated = .ok moved ∧
      moved.adjustCounts rules row.campaignId row.codeId (-1) transition.qualifiedUnits now =
        .ok store' := by
  simp only [transitionHeldReservation, bind_eq_ok] at hok
  obtain ⟨row, hselect, hok⟩ := hok
  split at hok
  · rename_i hreplay
    obtain ⟨rfl, rfl, hsame⟩ := replayed_ok hok
    refine .inl ⟨rfl, fun now' => ?_⟩
    simp only [transitionHeldReservation, bind_eq_ok]
    exact ⟨_, hselect, by rw [if_pos hreplay, hsame]; rfl⟩
  split at hok
  · rename_i hconsumed hreleased
    obtain ⟨rfl, rfl, hsame⟩ := replayed_ok hok
    refine .inl ⟨rfl, fun now' => ?_⟩
    simp only [transitionHeldReservation, bind_eq_ok]
    exact ⟨_, hselect, by rw [if_neg hconsumed, if_pos hreleased, hsame]; rfl⟩
  · simp only [bind_eq_ok, ensure_eq_ok, decide_eq_true_eq, pure, Except.pure] at hok
    obtain ⟨-, hsource, -, hheld, moved, hmoved, counted, hcounted, hresult⟩ := hok
    obtain ⟨rfl, rfl⟩ := Prod.mk.inj (Except.ok.inj hresult)
    exact .inr ⟨row, moved, selectRedemption_ok.mp hselect, hsource, hheld, rfl, hmoved, hcounted⟩

theorem transitionedRow_id (transition : HeldTransition) (fields : TransitionFields) (now : Int)
    (row : RedemptionRow) :
    (transitionedRow transition fields now row).id = row.id ∧
      (transitionedRow transition fields now row).campaignId = row.campaignId ∧
      (transitionedRow transition fields now row).codeId = row.codeId ∧
      (transitionedRow transition fields now row).acquisitionState = transition.target := by
  cases transition <;> exact ⟨rfl, rfl, rfl, rfl⟩

theorem HeldTransition.advances (transition : HeldTransition) :
    Advances transition.source transition.target := by
  cases transition
  · exact .void
  · exact .expired
  · exact .qualified

theorem transitionedRow_units {transition : HeldTransition} {fields : TransitionFields} {now : Int}
    {row : RedemptionRow} (hheld : row.capSlotState = .held) :
    (transitionedRow transition fields now row).units - row.units =
      (-1, transition.qualifiedUnits) := by
  cases transition <;>
    simp [transitionedRow, RedemptionRow.units, hheld, HeldTransition.qualifiedUnits]

theorem transitionHeldReservation_move {id : JsString} {transition : HeldTransition}
    {fields : TransitionFields} {now : Int} {updated : RedemptionRow} (hknown : KnownOwners store)
    (hok : transitionHeldReservation rules store id transition fields now = .ok (store', updated)) :
    TablesKept rules store store' ∧ RedemptionMove store store' := by
  obtain ⟨rfl, -⟩ | ⟨row, moved, hfound, hsource, hheld, rfl, hmoved, hcounted⟩ :=
    transitionHeldReservation_ok hok
  · exact ⟨.of_eq rfl rfl, .refl _⟩
  obtain ⟨hid, hcampaignId, hcodeId, htarget⟩ := transitionedRow_id transition fields now row
  obtain ⟨hcampaign, hcode⟩ := hknown row (findRow_mem hfound)
  obtain ⟨hchecked, rfl⟩ := updateRedemption_ok hid hmoved
  obtain ⟨hrows, hkept, hshift⟩ := adjustCounts_ok hcounted hcampaign hcode
  have hkey : row.id = id := findRow_key hfound
  refine ⟨⟨hkept.campaigns, hkept.codes, fun hchecks =>
    hkept.checks ⟨hchecks.campaigns, hchecks.codes⟩⟩, ?_⟩
  refine .advanced row _ (hkey.symm ▸ hfound) hid hcampaignId hcodeId ?_ hchecked hrows ?_
  · rw [hsource, htarget]
    exact .inr transition.advances
  · rw [transitionedRow_units hheld]
    exact ⟨hshift.campaigns, hshift.codes⟩

theorem markReferralCheckoutCreated_ok {id : JsString} {input : MarkReferralCheckoutCreatedInput}
    {now : Int} {updated : RedemptionRow}
    (hok : markReferralCheckoutCreated store id input now = .ok (store', updated)) :
    (store' = store ∧ ∃ row, store.findRedemption id = some row ∧
      row.acquisitionState = .checkoutCreated) ∨
    ∃ row customer subscription expiresAt, store.findRedemption id = some row ∧
      row.acquisitionState = .reserved ∧
      updated = checkoutCreatedRow input.stripeCheckoutSessionId customer subscription expiresAt
        now row ∧
      store.updateRedemption row updated = .ok store' := by
  simp only [markReferralCheckoutCreated, bind_eq_ok] at hok
  obtain ⟨decisionAt, -, customer, -, subscription, -, expiresAt, -, row, hselect, -, -, -, -,
    hok⟩ := hok
  have hfound := selectRedemption_ok.mp hselect
  split at hok
  · rename_i hcreated
    simp only [bind_eq_ok, pure, Except.pure] at hok
    obtain ⟨-, -, hresult⟩ := hok
    exact .inl ⟨(Prod.mk.inj (Except.ok.inj hresult)).1.symm, row, hfound, hcreated⟩
  · simp only [bind_eq_ok, ensure_eq_ok, decide_eq_true_eq, pure, Except.pure] at hok
    obtain ⟨-, hreserved, -, -, -, -, moved, hmoved, hresult⟩ := hok
    obtain ⟨rfl, rfl⟩ := Prod.mk.inj (Except.ok.inj hresult)
    exact .inr ⟨row, customer, subscription, expiresAt, hfound, hreserved, rfl, hmoved⟩

theorem markReferralCheckoutCompleted_ok {id : JsString}
    {input : MarkReferralCheckoutCompletedInput}
    {now : Int} {updated : RedemptionRow}
    (hok : markReferralCheckoutCompleted store id input now = .ok (store', updated)) :
    (store' = store ∧ ∃ row, store.findRedemption id = some row ∧
      row.acquisitionState = .checkoutCompleted) ∨
    ∃ row customer subscription, store.findRedemption id = some row ∧
      row.acquisitionState = .checkoutCreated ∧
      updated = checkoutCompletedRow customer subscription now row ∧
      store.updateRedemption row updated = .ok store' := by
  simp only [markReferralCheckoutCompleted, bind_eq_ok] at hok
  obtain ⟨session, -, customer, -, subscription, -, row, hselect, hok⟩ := hok
  have hfound := selectRedemption_ok.mp hselect
  split at hok
  · rename_i hcompleted
    simp only [bind_eq_ok, pure, Except.pure] at hok
    obtain ⟨-, -, hresult⟩ := hok
    exact .inl ⟨(Prod.mk.inj (Except.ok.inj hresult)).1.symm, row, hfound, hcompleted⟩
  · simp only [bind_eq_ok, ensure_eq_ok, decide_eq_true_eq, pure, Except.pure] at hok
    obtain ⟨-, hcreated, -, -, -, -, -, -, moved, hmoved, hresult⟩ := hok
    obtain ⟨rfl, rfl⟩ := Prod.mk.inj (Except.ok.inj hresult)
    exact .inr ⟨row, customer, subscription, hfound, hcreated, rfl, hmoved⟩

theorem updateRedemption_move {row updated : RedemptionRow}
    (hok : store.updateRedemption row updated = .ok store')
    (hfound : store.findRedemption row.id = some row)
    (hid : updated.id = row.id) (hcampaign : updated.campaignId = row.campaignId)
    (hcode : updated.codeId = row.codeId) (hslot : updated.capSlotState = row.capSlotState)
    (hadvance : row.acquisitionState = updated.acquisitionState ∨
      Advances row.acquisitionState updated.acquisitionState) :
    TablesKept rules store store' ∧ RedemptionMove store store' := by
  obtain ⟨hchecked, rfl⟩ := updateRedemption_ok hid hok
  refine ⟨.of_eq rfl rfl, .advanced row updated hfound hid hcampaign hcode hadvance hchecked rfl ?_⟩
  have hunits : updated.units - row.units = 0 := by simp [RedemptionRow.units, hslot]
  rw [hunits]
  exact .of_eq rfl rfl

theorem findRedemption_self {id : JsString} {row : RedemptionRow}
    (hfound : store.findRedemption id = some row) : store.findRedemption row.id = some row := by
  have hkey : row.id = id := findRow_key hfound
  rw [hkey]
  exact hfound

theorem markReferralCheckoutCreated_move {id : JsString} {input : MarkReferralCheckoutCreatedInput}
    {now : Int} {updated : RedemptionRow}
    (hok : markReferralCheckoutCreated store id input now = .ok (store', updated)) :
    TablesKept rules store store' ∧ RedemptionMove store store' := by
  obtain ⟨rfl, -⟩ | ⟨row, customer, subscription, expiresAt, hfound, hreserved, rfl, hmoved⟩ :=
    markReferralCheckoutCreated_ok hok
  · exact ⟨.of_eq rfl rfl, .refl _⟩
  · refine updateRedemption_move hmoved (findRedemption_self hfound) rfl rfl rfl rfl ?_
    rw [hreserved]
    exact .inr .created

theorem markReferralCheckoutCompleted_move {id : JsString}
    {input : MarkReferralCheckoutCompletedInput}
    {now : Int} {updated : RedemptionRow}
    (hok : markReferralCheckoutCompleted store id input now = .ok (store', updated)) :
    TablesKept rules store store' ∧ RedemptionMove store store' := by
  obtain ⟨rfl, -⟩ | ⟨row, customer, subscription, hfound, hcreated, rfl, hmoved⟩ :=
    markReferralCheckoutCompleted_ok hok
  · exact ⟨.of_eq rfl rfl, .refl _⟩
  · refine updateRedemption_move hmoved (findRedemption_self hfound) rfl rfl rfl rfl ?_
    rw [hcreated]
    exact .inr .completed

theorem updateCampaign_move {id : JsString} {update : CampaignRow → CampaignRow}
    (hok : store.updateCampaign rules id update = .ok store')
    (hcounts : ∀ row, (update row).counts = row.counts) :
    TablesKept rules store store' ∧ RedemptionMove store store' := by
  refine ⟨updateCampaign_kept hok, ?_⟩
  obtain ⟨-, rfl⟩ := updateCampaign_ok hok
  refine .kept rfl (funext fun other => ?_) rfl
  by_cases heq : other = id
  · subst heq
    cases hrow : store.campaigns other <;> simp [ReferralStore.campaignCounts, hrow, hcounts]
  · simp [ReferralStore.campaignCounts, heq]

theorem updateCampaignEconomics_ok {campaignId : JsString} {patch : CampaignEconomicsPatch}
    {now : Int}
    {row : CampaignRow}
    (hok : updateCampaignEconomics rules store campaignId patch now = .ok (store', row)) :
    store.updateCampaign rules campaignId (patch.set rules now) = .ok store' := by
  unfold updateCampaignEconomics at hok
  split at hok
  · cases hok
  split at hok
  · cases hok
  · simp only [bind_eq_ok, pure, Except.pure] at hok
    obtain ⟨updated, hupdated, hresult⟩ := hok
    rw [← (Prod.mk.inj (Except.ok.inj hresult)).1]
    exact hupdated

end Moves

/-! ## The service -/

inductive ReferralCall where
  | createReferralReservation (input : CreateReferralReservationInput)
  | markReferralCheckoutCreated (id : JsString) (input : MarkReferralCheckoutCreatedInput)
  | markReferralCheckoutCompleted (id : JsString) (input : MarkReferralCheckoutCompletedInput)
  | voidReferralReservation (id reason : JsString)
  | expireReferralReservation (id : JsString)
  | expireReferralCheckoutSession (id stripeCheckoutSessionId : JsString)
  | qualifyReferralRedemption (id : JsString) (input : QualifyReferralRedemptionInput)
  | qualifyReferralInvoicePayment (input : QualifyReferralInvoicePaymentInput)
  | updateCampaignEconomics (campaignId : JsString) (patch : CampaignEconomicsPatch)

/-- The store a call commits; identifiers and the clock are drawn anew by every call. -/
def perform (rules : TextRules) (store : ReferralStore) (call : ReferralCall) (draw : RandomDraw)
    (now : Int) : Outcome ReferralStore :=
  match call with
  | .createReferralReservation input =>
      (createReferralReservation rules store input draw now).map Prod.fst
  | .markReferralCheckoutCreated id input =>
    (markReferralCheckoutCreated store id input now).map Prod.fst
  | .markReferralCheckoutCompleted id input =>
      (markReferralCheckoutCompleted store id input now).map Prod.fst
  | .voidReferralReservation id reason =>
    (voidReferralReservation rules store id reason now).map Prod.fst
  | .expireReferralReservation id => (expireReferralReservation rules store id now).map Prod.fst
  | .expireReferralCheckoutSession id session =>
      (expireReferralCheckoutSession rules store id session now).map Prod.fst
  | .qualifyReferralRedemption id input =>
      (qualifyReferralRedemption rules store id input now).map Prod.fst
  | .qualifyReferralInvoicePayment input =>
      (qualifyReferralInvoicePayment rules store input now).map Prod.fst
  | .updateCampaignEconomics campaignId patch =>
      (updateCampaignEconomics rules store campaignId patch now).map Prod.fst

theorem map_fst_ok {α β : Type} {outcome : Outcome (α × β)} {first : α} :
    outcome.map Prod.fst = .ok first ↔ ∃ second, outcome = .ok (first, second) := by
  cases outcome with
  | error fault => simp [Except.map]
  | ok pair => obtain ⟨a, b⟩ := pair; simp [Except.map]

theorem perform_move {rules : TextRules} {store store' : ReferralStore} {call : ReferralCall}
    {draw : RandomDraw} {now : Int} (hknown : KnownOwners store)
    (hok : perform rules store call draw now = .ok store') :
    TablesKept rules store store' ∧ RedemptionMove store store' := by
  cases call with
  | createReferralReservation input =>
      obtain ⟨row, hok⟩ := map_fst_ok.mp hok
      exact createReferralReservation_move hok
  | markReferralCheckoutCreated id input =>
      obtain ⟨row, hok⟩ := map_fst_ok.mp hok
      exact markReferralCheckoutCreated_move hok
  | markReferralCheckoutCompleted id input =>
      obtain ⟨row, hok⟩ := map_fst_ok.mp hok
      exact markReferralCheckoutCompleted_move hok
  | voidReferralReservation id reason =>
      obtain ⟨row, hok⟩ := map_fst_ok.mp hok
      exact transitionHeldReservation_move hknown hok
  | expireReferralReservation id =>
      obtain ⟨row, hok⟩ := map_fst_ok.mp hok
      exact transitionHeldReservation_move hknown hok
  | expireReferralCheckoutSession id session =>
      obtain ⟨row, hok⟩ := map_fst_ok.mp hok
      simp only [expireReferralCheckoutSession, bind_eq_ok] at hok
      obtain ⟨-, -, -, -, hok⟩ := hok
      exact transitionHeldReservation_move hknown hok
  | qualifyReferralRedemption id input =>
      obtain ⟨row, hok⟩ := map_fst_ok.mp hok
      simp only [qualifyReferralRedemption, bind_eq_ok] at hok
      obtain ⟨subscription, -, customer, -, hok⟩ := hok
      exact transitionHeldReservation_move hknown hok
  | qualifyReferralInvoicePayment input =>
      obtain ⟨row, hok⟩ := map_fst_ok.mp hok
      simp only [qualifyReferralInvoicePayment, bind_eq_ok] at hok
      obtain ⟨subscription, -, customer, -, joined, -, -, -, -, -, -, -, hok⟩ := hok
      exact transitionHeldReservation_move hknown hok
  | updateCampaignEconomics campaignId patch =>
      obtain ⟨row, hok⟩ := map_fst_ok.mp hok
      exact updateCampaign_move (updateCampaignEconomics_ok hok) fun _ => rfl

end Raft.Referral
