import Raft.Referral.Arrivals
import Raft.Referral.Moves

/-!
# The order of the webhooks

The table of adjustments is determined by which facts have arrived and which of them
were applied, in the order of their application.  The applied facts depend on the
set of delivered facts only; the disposition depends on the last applied fact too
where the invoice has no paid fact.
-/

namespace Raft.Referral

open Raft.Foundation

/-! ## Facts about one invoice -/

structure PaidInvoice where
  redemptionId : JsString
  environment : JsString
  livemode : Bool
  invoiceId : JsString
  redemption_named : redemptionId ≠ []
  invoice_named : invoiceId ≠ []

def FinancialAdjustmentInput.Names (input : FinancialAdjustmentInput) (invoice : PaidInvoice) :
    Prop :=
  input.redemptionId = some invoice.redemptionId ∧ input.environment = invoice.environment ∧
    input.livemode = invoice.livemode ∧ input.stripeInvoiceId = invoice.invoiceId

structure Delivery where
  input : FinancialAdjustmentInput
  order : RowOrder
  now : Int

def deliver (rules : TextRules) (store : FinancialStore) (deliveries : List Delivery) :
    Outcome FinancialStore :=
  deliveries.foldlM (fun store delivery =>
    (recordReferralFinancialAdjustment rules store delivery.input delivery.order delivery.now).map
      Prod.fst)
    store

def arrivalsOf (rules : TextRules) (deliveries : List Delivery) : Arrivals :=
  deliveries.foldl (fun arrivals delivery =>
    arrivals.arrive (parkedRow rules delivery.input) delivery.order)
    .empty

/-! ## The table that arrivals leave -/

def render (redemptionId : JsString) (applied : List FinancialAdjustmentRow)
    (fact : FinancialAdjustmentRow) : FinancialAdjustmentRow :=
  if fact ∈ applied then fact.apply redemptionId else fact

/-- A parked row about the invoice. -/
structure FinancialAdjustmentRow.IsFactOf (fact : FinancialAdjustmentRow) (invoice : PaidInvoice) :
    Prop where
  observed : fact.observedRedemptionId = some invoice.redemptionId
  resolved : fact.resolvedRedemptionId = none
  parked : fact.processingState = .parked
  resolution : fact.resolution = none
  environment : fact.environment = invoice.environment
  livemode : fact.livemode = invoice.livemode
  invoiceId : fact.stripeInvoiceId = invoice.invoiceId

def SettledAs (base : RedemptionRow) (paid : Option PaidIdentityEvent)
    (applied : List FinancialAdjustmentRow) (row : RedemptionRow) : Prop :=
  match applied.getLast? with
  | none => row.qualificationDisposition = base.qualificationDisposition ∧
      row.financialRisk = base.financialRisk
  | some latest =>
      SettlesTo paid applied latest.fullEconomicReversal row.qualificationDisposition
        row.financialRisk

structure RedemptionRow.SamePurchase (row base : RedemptionRow) : Prop where
  state : row.acquisitionState = base.acquisitionState
  invoice : row.firstPaidInvoiceId = base.firstPaidInvoiceId
  server : row.referredServerId = base.referredServerId
  user : row.redeemingUserId = base.redeemingUserId

structure Represents (invoice : PaidInvoice) (base : RedemptionRow)
    (paidEvents : List PaidIdentityEvent)
    (store : FinancialStore) (arrivals : Arrivals) : Prop where
  sound : arrivals.Sound
  table : store.adjustments = arrivals.facts.map (render invoice.redemptionId arrivals.applied)
  keys : DistinctKeys (·.toAdjustmentKey) arrivals.facts
  facts : ∀ fact ∈ arrivals.facts, fact.IsFactOf invoice
  paid : store.paidEvents = paidEvents
  redemption : ∃ row, store.findRedemption invoice.redemptionId = some row ∧ row.SamePurchase base ∧
    SettledAs base (findPaidFact paidEvents base invoice.environment invoice.livemode
      invoice.invoiceId)
      arrivals.applied row

section Rows

variable {redemptionId : JsString} {applied facts : List FinancialAdjustmentRow}
variable {fact other : FinancialAdjustmentRow} {invoice : PaidInvoice}

theorem render_key (fact : FinancialAdjustmentRow) :
    (render redemptionId applied fact).toAdjustmentKey = fact.toAdjustmentKey := by
  unfold render
  split <;> rfl

theorem render_fact (fact : FinancialAdjustmentRow) :
    (render redemptionId applied fact).fact = fact.fact := by
  unfold render
  split <;> rfl

theorem FinancialAdjustmentRow.IsFactOf.ext (hfact : fact.IsFactOf invoice)
    (hother : other.IsFactOf invoice)
    (heq : fact.fact = other.fact) : fact = other := by
  have hparked (row : FinancialAdjustmentRow) (hrow : row.IsFactOf invoice) :
      row = { row.fact with observedRedemptionId := some invoice.redemptionId } := by
    obtain ⟨hobserved, hresolved, hstate, hresolution, -, -, -⟩ := hrow
    cases row
    simp_all [FinancialAdjustmentRow.fact]
  rw [hparked fact hfact, hparked other hother, heq]

theorem parkedRow_isFactOf (rules : TextRules) {input : FinancialAdjustmentInput}
    (hnames : input.Names invoice) :
    (parkedRow rules input).IsFactOf invoice :=
  ⟨hnames.1, rfl, rfl, rfl, hnames.2.1, hnames.2.2.1, hnames.2.2.2⟩

theorem updateRow_render (hkeys : DistinctKeys (·.toAdjustmentKey) facts) (hfact : fact ∈ facts)
    (hnew : fact ∉ applied) :
    updateRow (·.toAdjustmentKey) fact.toAdjustmentKey (·.apply redemptionId)
        (facts.map (render redemptionId applied)) =
      facts.map (render redemptionId (applied ++ [fact])) := by
  rw [updateRow, List.map_map]
  refine List.map_congr_left fun other hother => ?_
  simp only [Function.comp_apply, render_key]
  by_cases hkey : other.toAdjustmentKey = fact.toAdjustmentKey
  · obtain rfl := hkeys.eq_of_key hother hfact hkey
    simp [render, hnew]
  · have hne : other ≠ fact := fun heq => hkey (heq ▸ rfl)
    simp [render, hkey, hne]

theorem filter_render {p : FinancialAdjustmentRow → Bool} {wanted : FinancialAdjustmentRow → Bool}
    (happlied : ∀ fact ∈ facts, fact ∈ applied → p (fact.apply redemptionId) = wanted fact)
    (hparked : ∀ fact ∈ facts, fact ∉ applied → p fact = false) :
    (facts.map (render redemptionId applied)).filter p =
      (facts.filter fun fact => decide (fact ∈ applied) && wanted fact).map
        (·.apply redemptionId) := by
  induction facts with
  | nil => rfl
  | cons fact facts ih =>
      have htail := ih (fun other hother => happlied other (List.mem_cons_of_mem _ hother))
        fun other hother => hparked other (List.mem_cons_of_mem _ hother)
      rw [List.map_cons, List.filter_cons, List.filter_cons, htail]
      by_cases hmem : fact ∈ applied
      · simp only [render, hmem, if_true, happlied fact List.mem_cons_self hmem, decide_true,
          Bool.true_and]
        split <;> rfl
      · simp [render, hmem, hparked fact List.mem_cons_self hmem]

end Rows

section Represents

variable {rules : TextRules} {invoice : PaidInvoice} {base : RedemptionRow}
variable {paidEvents : List PaidIdentityEvent} {store inserted : FinancialStore}
  {arrivals : Arrivals}
variable {input : FinancialAdjustmentInput}

theorem insertAdjustment_ok {row : FinancialAdjustmentRow}
    (hok : insertAdjustment rules store input = .ok (inserted, row)) :
    (inserted = store ∧ findRow (·.toAdjustmentKey) (parkedRow rules input).toAdjustmentKey
      store.adjustments =
      some row) ∨
    (findRow (·.toAdjustmentKey) (parkedRow rules input).toAdjustmentKey store.adjustments = none ∧
      row = parkedRow rules input ∧
      inserted = { store with adjustments := store.adjustments ++ [parkedRow rules input] }) := by
  simp only [insertAdjustment, bind_eq_ok] at hok
  obtain ⟨-, -, hok⟩ := hok
  split at hok
  · rename_i existing hexisting
    obtain ⟨rfl, rfl⟩ := Prod.mk.inj (Except.ok.inj hok)
    exact .inl ⟨rfl, hexisting⟩
  · rename_i hnone
    obtain ⟨rfl, rfl⟩ := Prod.mk.inj (Except.ok.inj hok)
    exact .inr ⟨hnone, rfl, rfl⟩

theorem insertAdjustment_represents {row : FinancialAdjustmentRow} {done : Unit}
    (hstore : Represents invoice base paidEvents store arrivals) (hnames : input.Names invoice)
    (hok : insertAdjustment rules store input = .ok (inserted, row))
    (hreplay : assertSameFinancialAdjustmentReplay rules row input = .ok done) :
    Represents invoice base paidEvents inserted
      ⟨if parkedRow rules input ∈ arrivals.facts then arrivals.facts
        else arrivals.facts ++ [parkedRow rules input], arrivals.applied⟩ ∧
      row = render invoice.redemptionId arrivals.applied (parkedRow rules input) ∧
      (parkedRow rules input ∈ arrivals.applied → inserted = store) ∧
      ∀ fact ∈ arrivals.facts, fact.toAdjustmentKey = (parkedRow rules input).toAdjustmentKey →
        fact = parkedRow rules input := by
  have hshape := parkedRow_isFactOf rules hnames
  have hsame : row.fact = (parkedRow rules input).fact := by
    simpa [assertSameFinancialAdjustmentReplay] using hreplay
  have hfind (key : AdjustmentKey) : findRow (·.toAdjustmentKey) key store.adjustments =
      (findRow (·.toAdjustmentKey) key arrivals.facts).map
        (render invoice.redemptionId arrivals.applied) := by
    rw [hstore.table]
    exact findRow_map render_key
  obtain ⟨rfl, hexisting⟩ | ⟨hnone, rfl, rfl⟩ := insertAdjustment_ok hok
  · rw [hfind, Option.map_eq_some_iff] at hexisting
    obtain ⟨fact, hfact, rfl⟩ := hexisting
    have hmem := findRow_mem hfact
    rw [render_fact] at hsame
    obtain rfl := (hstore.facts fact hmem).ext hshape hsame
    refine ⟨?_, rfl, fun _ => rfl, fun other hother hkey => hstore.keys.eq_of_key hother hmem hkey⟩
    rw [if_pos hmem]
    exact hstore
  · have habsent : findRow (·.toAdjustmentKey) (parkedRow rules input).toAdjustmentKey
      arrivals.facts = none := by
      rw [hfind, Option.map_eq_none_iff] at hnone
      exact hnone
    have hfresh : parkedRow rules input ∉ arrivals.facts := fun hmem =>
      findRow_eq_none.mp habsent _ hmem rfl
    have hunapplied : parkedRow rules input ∉ arrivals.applied := fun hmem =>
      hfresh (hstore.sound.arrived _ hmem)
    refine ⟨?_, ?_, fun hmem => absurd hmem hunapplied, fun other hother hkey => ?_⟩
    · rw [if_neg hfresh]
      refine ⟨⟨fun fact hfact => List.mem_append_left _ (hstore.sound.arrived fact hfact),
        hstore.sound.nodup, hstore.sound.openings⟩, ?_, hstore.keys.append_singleton habsent,
        fun fact hfact => ?_, hstore.paid, hstore.redemption⟩
      · simp only [hstore.table, List.map_append, List.map_cons, List.map_nil, render, hunapplied,
          if_false]
      · obtain hold | rfl := List.mem_append.mp hfact |>.imp id List.mem_singleton.mp
        · exact hstore.facts fact hold
        · exact hshape
    · rw [render, if_neg hunapplied]
    · exact absurd hkey (findRow_eq_none.mp habsent other hother)

theorem hasLineage_iff (hstore : Represents invoice base paidEvents store arrivals)
    (hnames : input.Names invoice) {disputeId : JsString} :
    hasLineage store input invoice.redemptionId disputeId = true ↔
      ∃ fact ∈ arrivals.applied, fact.kind = .disputeOpened ∧
        fact.stripeDisputeId = some disputeId := by
  simp only [hasLineage, hstore.table, List.any_map, List.any_eq_true, Function.comp_apply,
    Bool.and_eq_true, Bool.or_eq_true, decide_eq_true_eq]
  constructor
  · rintro ⟨fact, hfact, ⟨⟨-, -⟩, -, hstate⟩, hdispute, hkind⟩
    have happlied : fact ∈ arrivals.applied := by
      by_contra hunapplied
      rw [render, if_neg hunapplied, (hstore.facts fact hfact).parked] at hstate
      cases hstate
    simp only [render, happlied, if_true, FinancialAdjustmentRow.apply] at hdispute hkind
    obtain hopened | ⟨-, hlost⟩ := hkind
    · exact ⟨fact, happlied, hopened, hdispute⟩
    · have hopening := hstore.sound.openings fact happlied
      simp only [appliesAmong, hlost, AdjustmentKind.isTerminal, Bool.not_true, Bool.false_or,
        Bool.and_eq_true, List.any_eq_true, decide_eq_true_eq] at hopening
      obtain ⟨-, opening, hmem, hopened, hsame⟩ := hopening
      exact ⟨opening, hmem, hopened, hsame.trans hdispute⟩
  · rintro ⟨fact, happlied, hopened, hdispute⟩
    have hfact := hstore.sound.arrived fact happlied
    have hshape := hstore.facts fact hfact
    refine ⟨fact, hfact, ?_⟩
    simp only [render, happlied, if_true, FinancialAdjustmentRow.apply, hopened, hdispute,
      hshape.environment, hshape.livemode, hnames.2.1, hnames.2.2.1, and_self, true_or]

theorem awaitsLineage_eq (rules : TextRules)
    (hstore : Represents invoice base paidEvents store arrivals)
    (hnames : input.Names invoice) :
    awaitsLineage store input invoice.redemptionId =
      !appliesAmong arrivals.applied (parkedRow rules input) := by
  have hkind : (parkedRow rules input).kind = input.kind := rfl
  have hdispute : (parkedRow rules input).stripeDisputeId = input.stripeDisputeId := rfl
  cases hid : input.stripeDisputeId with
  | none => simp [awaitsLineage, appliesAmong, isTruthy, hkind, hdispute, hid]
  | some disputeId =>
      have hlineage : hasLineage store input invoice.redemptionId disputeId =
          arrivals.applied.any fun other =>
            decide (other.kind = .disputeOpened) &&
              decide (other.stripeDisputeId = some disputeId) := by
        rw [Bool.eq_iff_iff, hasLineage_iff hstore hnames]
        simp
      simp only [awaitsLineage, appliesAmong, hkind, hdispute, hid, Option.getD_some, hlineage]
      cases input.kind.isTerminal <;> simp

theorem appliedFacts_eq {facts applied : List FinancialAdjustmentRow} {latest : LatestAdjustment}
    (htable : store.adjustments = facts.map (render invoice.redemptionId applied))
    (hshape : ∀ fact ∈ facts, fact.IsFactOf invoice)
    (hlatest : latest.environment = invoice.environment ∧ latest.livemode = invoice.livemode) :
    appliedFacts store invoice.redemptionId invoice.invoiceId latest =
      (facts.filter fun fact => decide (fact ∈ applied) && true).map
        (·.apply invoice.redemptionId) := by
  rw [appliedFacts, htable]
  refine filter_render (fun fact hfact _ => ?_) fun fact hfact _ => ?_
  · have hrow := hshape fact hfact
    simp [FinancialAdjustmentRow.apply, hrow.environment, hrow.livemode, hrow.invoiceId, hlatest.1,
      hlatest.2]
  · simp [(hshape fact hfact).parked]

theorem Arrivals.Sound.perm (hsound : arrivals.Sound)
    (hkeys : DistinctKeys (·.toAdjustmentKey) arrivals.facts) :
    (arrivals.facts.filter fun fact => decide (fact ∈ arrivals.applied) &&
      true).Perm arrivals.applied := by
  refine (List.perm_ext_iff_of_nodup (hkeys.of_map _ |>.filter _) hsound.nodup).mpr fun fact => ?_
  simp only [List.mem_filter, Bool.and_true, decide_eq_true_eq, and_iff_right_iff_imp]
  exact hsound.arrived fact

theorem findPaidFact_same {row : RedemptionRow} (hsame : row.SamePurchase base)
    (environment : JsString)
    (livemode : Bool) (invoiceId : JsString) :
    findPaidFact paidEvents row environment livemode invoiceId =
      findPaidFact paidEvents base environment livemode invoiceId := by
  simp only [findPaidFact, hsame.server, hsame.user]

theorem settledAs_concat {paid : Option PaidIdentityEvent} {applied : List FinancialAdjustmentRow}
    {fact : FinancialAdjustmentRow} {row : RedemptionRow} :
    SettledAs base paid (applied ++ [fact]) row ↔
      SettlesTo paid (applied ++ [fact]) fact.fullEconomicReversal row.qualificationDisposition
        row.financialRisk := by
  simp only [SettledAs, List.getLast?_concat]

theorem apply_represents {facts : List FinancialAdjustmentRow} {fact : FinancialAdjustmentRow}
    {row : RedemptionRow} {latest : LatestAdjustment} {disposition : QualificationDisposition}
    {risk : FinancialRisk} {updated : ReferralStore} {now : Int}
    (hqualified : base.firstPaidInvoiceId = some invoice.invoiceId)
    (hstore : Represents invoice base paidEvents store ⟨facts, arrivals.applied⟩)
    (hfact : fact ∈ facts)
    (hnew : fact ∉ arrivals.applied) (happlies : appliesAmong arrivals.applied fact = true)
    (hrow : store.findRedemption invoice.redemptionId = some row) (hsame : row.SamePurchase base)
    (hlatest : latest.environment = invoice.environment ∧ latest.livemode = invoice.livemode ∧
      latest.fullEconomicReversal = fact.fullEconomicReversal)
    (hfold : foldReferralFinancialDisposition { store with
      adjustments := updateRow (·.toAdjustmentKey) fact.toAdjustmentKey
        (·.apply invoice.redemptionId) store.adjustments } invoice.redemptionId row latest =
          .ok (disposition, risk))
    (hupdate : store.toReferralStore.updateRedemption row
      { row with
        qualificationDisposition := disposition, financialRisk := risk, updatedAt := now } =
        .ok updated) :
    Represents invoice base paidEvents
      { toReferralStore := updated
        adjustments := updateRow (·.toAdjustmentKey) fact.toAdjustmentKey
          (·.apply invoice.redemptionId) store.adjustments }
      ⟨facts, arrivals.applied ++ [fact]⟩ := by
  have htable : updateRow (·.toAdjustmentKey) fact.toAdjustmentKey (·.apply invoice.redemptionId)
      store.adjustments = facts.map (render invoice.redemptionId (arrivals.applied ++ [fact])) := by
    rw [hstore.table]
    exact updateRow_render hstore.keys hfact hnew
  have hsound : Arrivals.Sound ⟨facts, arrivals.applied ++ [fact]⟩ :=
    hstore.sound.extend (fun _ h => h) (by simpa using hfact) (List.nodup_singleton _)
      (by simpa using hnew) (by simpa using happlies)
  have hsettles := foldReferralFinancialDisposition_ok (hsame.invoice.trans hqualified)
    invoice.invoice_named hfold
  rw [appliedFacts_eq htable hstore.facts ⟨hlatest.1, hlatest.2.1⟩, findPaidFact_same hsame]
    at hsettles
  replace hsettles := hsettles.of_apply (hsound.perm hstore.keys)
  rw [hlatest.1, hlatest.2.1, hlatest.2.2] at hsettles
  have hpaid : updated.paidEvents = paidEvents := by
    obtain ⟨-, rfl⟩ := updateRedemption_ok rfl hupdate
    exact hstore.paid
  refine ⟨hsound, htable, hstore.keys, hstore.facts, hpaid,
    { row with qualificationDisposition := disposition, financialRisk := risk, updatedAt := now },
    findRedemption_updated hupdate hrow rfl,
    ⟨hsame.state, hsame.invoice, hsame.server, hsame.user⟩, settledAs_concat.mpr ?_⟩
  rw [← hstore.paid]
  exact hsettles

theorem recordFact_represents {status : RecordStatus} {now : Int} {store' : FinancialStore}
    (hqualified : base.acquisitionState = .qualified ∧ base.firstPaidInvoiceId =
      some invoice.invoiceId)
    (hstore : Represents invoice base paidEvents store arrivals) (hnames : input.Names invoice)
    (hok : recordFact rules store input now = .ok (store', status)) :
    Represents invoice base paidEvents store' (arrivals.offer (parkedRow rules input)) ∧
      (status = .recorded ↔ parkedRow rules input ∉ arrivals.applied ∧
        appliesAmong arrivals.applied (parkedRow rules input) = true) ∧
      ∀ fact ∈ arrivals.facts, fact.toAdjustmentKey = (parkedRow rules input).toAdjustmentKey →
        fact = parkedRow rules input := by
  simp only [recordFact, bind_eq_ok] at hok
  obtain ⟨⟨inserted, adjustment⟩, hinsert, ⟨⟩, hreplay, hok⟩ := hok
  obtain ⟨hinserted, hrendered, hkept, hkeys⟩ :=
    insertAdjustment_represents hstore hnames hinsert hreplay
  simp only at hok
  by_cases happlied : parkedRow rules input ∈ arrivals.applied
  · have hstate : adjustment.processingState = .applied := by
      rw [hrendered, render, if_pos happlied]
      rfl
    rw [if_pos hstate] at hok
    simp only [bind_eq_ok] at hok
    obtain ⟨-, -, hresult⟩ := hok
    obtain ⟨rfl, rfl⟩ := Prod.mk.inj (Except.ok.inj hresult)
    obtain rfl := hkept happlied
    refine ⟨?_, by simp [happlied], hkeys⟩
    rw [Arrivals.offer, if_pos happlied]
    exact hstore
  have hunapplied : adjustment = parkedRow rules input := by rw [hrendered, render, if_neg happlied]
  subst hunapplied
  have hnamed : isTruthy input.redemptionId = true := by
    rw [hnames.1]
    simpa [isTruthy] using invoice.redemption_named
  obtain ⟨row, hrow, hsame, -⟩ := hinserted.redemption
  have hgetD : input.redemptionId.getD [] = invoice.redemptionId := by
    rw [hnames.1, Option.getD_some]
  have hinvoice : row.firstPaidInvoiceId = some input.stripeInvoiceId := by
    rw [hsame.invoice, hqualified.2, hnames.2.2.2]
  have hawaits := awaitsLineage_eq rules hinserted hnames
  have hparked : (parkedRow rules input).processingState ≠ .applied := ProcessingState.noConfusion
  rw [if_neg hparked, hnamed, if_neg (by decide), hgetD] at hok
  simp only [hrow, bind_eq_ok] at hok
  obtain ⟨-, -, hok⟩ := hok
  rw [if_neg (not_not.mpr hinvoice), hawaits] at hok
  by_cases happlies : appliesAmong arrivals.applied (parkedRow rules input) = true
  · rw [if_neg (by simp [happlies])] at hok
    simp only [bind_eq_ok] at hok
    obtain ⟨⟨⟩, -, ⟨disposition, risk⟩, hfold, updated, hupdate, hresult⟩ := hok
    obtain ⟨rfl, rfl⟩ := Prod.mk.inj (Except.ok.inj hresult)
    refine ⟨?_, by simp [happlied, happlies], hkeys⟩
    rw [Arrivals.offer, if_neg happlied, if_pos happlies]
    refine apply_represents hqualified.2 hinserted ?_ happlied happlies hrow hsame ?_ hfold hupdate
    · by_cases hmem : parkedRow rules input ∈ arrivals.facts <;> simp [hmem]
    · exact ⟨hnames.2.1, hnames.2.2.1, rfl⟩
  · rw [if_pos (by simp [happlies])] at hok
    obtain ⟨rfl, rfl⟩ := Prod.mk.inj (Except.ok.inj hok)
    refine ⟨?_, by simp [happlies], hkeys⟩
    rw [Arrivals.offer, if_neg happlied, if_neg happlies]
    exact hinserted

theorem parkedTerminals_eq (hstore : Represents invoice base paidEvents store arrivals)
    {fact : FinancialAdjustmentRow} {disputeId : JsString}
    (hdispute : fact.stripeDisputeId = some disputeId) :
    store.adjustments.filter
        (·.isParkedTerminal invoice.redemptionId invoice.environment invoice.livemode disputeId) =
      arrivals.waiting fact := by
  rw [hstore.table, List.filter_map, Arrivals.waiting]
  have hselect : ∀ other ∈ arrivals.facts,
      (render invoice.redemptionId arrivals.applied other).isParkedTerminal invoice.redemptionId
        invoice.environment invoice.livemode disputeId =
      (decide (other ∉ arrivals.applied) &&
        (decide (other.stripeDisputeId = fact.stripeDisputeId) && other.kind.isTerminal)) := by
    intro other hother
    have hshape := hstore.facts other hother
    by_cases happlied : other ∈ arrivals.applied
    · simp [render, happlied, FinancialAdjustmentRow.isParkedTerminal, FinancialAdjustmentRow.apply]
    · simp [render, happlied, FinancialAdjustmentRow.isParkedTerminal, hshape.observed,
        hshape.environment, hshape.livemode, hshape.parked, hdispute]
  simp only [Function.comp_def, List.filter_congr hselect]
  refine (List.map_congr_left fun other hother => ?_).trans (List.map_id _)
  have hunapplied : other ∉ arrivals.applied := by
    simp only [List.mem_filter, Bool.and_eq_true, decide_eq_true_eq] at hother
    exact hother.2.1
  rw [render, if_neg hunapplied, id]

theorem replay_names {fact : FinancialAdjustmentRow} (hfact : fact.IsFactOf invoice) :
    (fact.replay invoice.redemptionId).Names invoice :=
  ⟨rfl, hfact.environment, hfact.livemode, hfact.invoiceId⟩

theorem terminals_represent (terminals : List FinancialAdjustmentRow) {now : Int}
    {store' : FinancialStore}
    (hqualified : base.acquisitionState = .qualified ∧ base.firstPaidInvoiceId =
      some invoice.invoiceId)
    (hstore : Represents invoice base paidEvents store arrivals) (hnodup : terminals.Nodup)
    (harrived : ∀ fact ∈ terminals, fact ∈ arrivals.facts)
    (hnew : ∀ fact ∈ terminals, fact ∉ arrivals.applied)
    (happlies : ∀ fact ∈ terminals, appliesAmong arrivals.applied fact = true)
    (hok : terminals.foldlM (fun store terminal =>
      (recordFact rules store (terminal.replay invoice.redemptionId) now).map Prod.fst) store =
        .ok store') :
    Represents invoice base paidEvents store'
      { arrivals with applied := arrivals.applied ++ terminals } := by
  induction terminals generalizing store arrivals with
  | nil =>
      obtain rfl := Except.ok.inj hok
      rw [List.append_nil]
      exact hstore
  | cons terminal terminals ih =>
      rw [List.foldlM_cons, bind_eq_ok] at hok
      obtain ⟨recorded, hrecorded, hrest⟩ := hok
      obtain ⟨status, hrecorded⟩ := map_fst_ok.mp hrecorded
      have hmem := harrived terminal List.mem_cons_self
      obtain ⟨hnext, -, hkeys⟩ :=
        recordFact_represents hqualified hstore (replay_names (hstore.facts terminal hmem))
          hrecorded
      rw [← hkeys terminal hmem rfl, Arrivals.offer, if_neg (hnew terminal List.mem_cons_self),
        if_pos (happlies terminal List.mem_cons_self), if_pos hmem] at hnext
      obtain ⟨hhead, htail⟩ := List.nodup_cons.mp hnodup
      have hall := ih hnext htail (fun fact hfact => harrived fact (List.mem_cons_of_mem _ hfact))
        (fun fact hfact => ?_) (fun fact hfact => ?_) hrest
      · simpa only [List.append_assoc, List.singleton_append] using hall
      · simp only [List.mem_append, List.mem_singleton, not_or]
        exact ⟨hnew fact (List.mem_cons_of_mem _ hfact), fun heq => hhead (heq ▸ hfact)⟩
      · exact appliesAmong_mono (fun _ => List.mem_append_left _)
          (happlies fact (List.mem_cons_of_mem _ hfact))

theorem mem_waiting {fact other : FinancialAdjustmentRow} :
    other ∈ arrivals.waiting fact ↔ other ∈ arrivals.facts ∧ other ∉ arrivals.applied ∧
      other.stripeDisputeId = fact.stripeDisputeId ∧ other.kind.isTerminal = true := by
  simp only [Arrivals.waiting, List.mem_filter, Bool.and_eq_true, decide_eq_true_eq]

theorem waiting_applies {applied : List FinancialAdjustmentRow}
    {fact other : FinancialAdjustmentRow}
    (hmem : fact ∈ applied) (hopened : fact.kind = .disputeOpened)
    (htruthy : isTruthy fact.stripeDisputeId = true) (hwaiting : other ∈ arrivals.waiting fact) :
    appliesAmong applied other = true := by
  obtain ⟨-, -, hdispute, -⟩ := mem_waiting.mp hwaiting
  simp only [appliesAmong, Bool.or_eq_true, Bool.and_eq_true, List.any_eq_true, decide_eq_true_eq]
  exact .inr ⟨hdispute ▸ htruthy, fact, hmem, hopened, hdispute.symm⟩

/-- A call leaves the table that the arrival of its fact leaves. -/
theorem record_represents {order : RowOrder} {now : Int} {status : RecordStatus}
    {store' : FinancialStore}
    (hqualified : base.acquisitionState = .qualified ∧ base.firstPaidInvoiceId =
      some invoice.invoiceId)
    (hstore : Represents invoice base paidEvents store arrivals) (hnames : input.Names invoice)
    (hok : recordReferralFinancialAdjustment rules store input order now = .ok (store', status)) :
    Represents invoice base paidEvents store' (arrivals.arrive (parkedRow rules input) order) := by
  simp only [recordReferralFinancialAdjustment, bind_eq_ok] at hok
  obtain ⟨⟨recorded, first⟩, hrecorded, hok⟩ := hok
  obtain ⟨hnext, hstatus, -⟩ := recordFact_represents hqualified hstore hnames hrecorded
  have hopens : (decide (first = .recorded) &&
      (decide (input.kind = .disputeOpened) && isTruthy input.stripeDisputeId)) =
      (decide (parkedRow rules input ∉ arrivals.applied) &&
        (decide ((parkedRow rules input).kind = .disputeOpened) &&
          isTruthy (parkedRow rules input).stripeDisputeId)) := by
    by_cases hopened : input.kind = .disputeOpened
    · have happlies : appliesAmong arrivals.applied (parkedRow rules input) = true := by
        simp [appliesAmong, parkedRow, hopened, AdjustmentKind.isTerminal]
      simp only [happlies, and_true] at hstatus
      simp only [hstatus]
      rfl
    · have hkind : (parkedRow rules input).kind ≠ .disputeOpened := hopened
      simp [hopened, hkind]
  rw [Arrivals.arrive, ← hopens]
  by_cases hrelease : (decide (first = .recorded) &&
      (decide (input.kind = .disputeOpened) && isTruthy input.stripeDisputeId)) = true
  · rw [if_pos hrelease] at hok ⊢
    simp only [bind_eq_ok] at hok
    obtain ⟨settled, hsettled, hresult⟩ := hok
    obtain ⟨rfl, rfl⟩ := Prod.mk.inj (Except.ok.inj hresult)
    simp only [Bool.and_eq_true, decide_eq_true_eq] at hrelease
    obtain ⟨hrecordedStatus, hopened, htruthy⟩ := hrelease
    have hdispute : (parkedRow rules input).stripeDisputeId =
      some (input.stripeDisputeId.getD []) := by
      change input.stripeDisputeId = _
      cases hid : input.stripeDisputeId with
      | none => simp [hid, isTruthy] at htruthy
      | some disputeId => rfl
    obtain ⟨hnew, happlies⟩ := hstatus.mp hrecordedStatus
    have hmem : parkedRow rules input ∈ (arrivals.offer (parkedRow rules input)).applied := by
      rw [Arrivals.offer, if_neg hnew, if_pos happlies]
      exact List.mem_append_right _ (List.mem_singleton_self _)
    rw [applyParkedDisputeTerminalAdjustments, hnames.1, Option.getD_some, hnames.2.1, hnames.2.2.1,
      parkedTerminals_eq hnext hdispute] at hsettled
    have hperm :=
      order.perm ((arrivals.offer (parkedRow rules input)).waiting (parkedRow rules input))
    refine terminals_represent _ hqualified hnext
      (hperm.nodup_iff.mpr (hnext.keys.of_map _ |>.filter _))
      (fun fact hfact => ?_) (fun fact hfact => ?_) (fun fact hfact => ?_) hsettled
    · exact (mem_waiting.mp (hperm.mem_iff.mp hfact)).1
    · exact (mem_waiting.mp (hperm.mem_iff.mp hfact)).2.1
    · exact waiting_applies hmem hopened htruthy (hperm.mem_iff.mp hfact)
  · rw [if_neg hrelease] at hok ⊢
    obtain ⟨rfl, rfl⟩ := Prod.mk.inj (Except.ok.inj hok)
    exact hnext

theorem mem_applied_iff (hstore : Represents invoice base paidEvents store arrivals)
    (hcomplete : arrivals.Complete) (fact : FinancialAdjustmentRow) :
    fact ∈ arrivals.applied ↔ fact ∈ arrivals.facts ∧ appliesAmong arrivals.facts fact = true :=
  ⟨fun happlied => ⟨hstore.sound.arrived fact happlied,
      appliesAmong_mono hstore.sound.arrived (hstore.sound.openings fact happlied)⟩,
    fun ⟨hfact, happlies⟩ => hcomplete fact hfact happlies⟩

theorem deliver_represents {deliveries : List Delivery} {store' : FinancialStore}
    (hqualified : base.acquisitionState = .qualified ∧ base.firstPaidInvoiceId =
      some invoice.invoiceId)
    (hstore : Represents invoice base paidEvents store arrivals) (hcomplete : arrivals.Complete)
    (hnames : ∀ delivery ∈ deliveries, delivery.input.Names invoice)
    (hok : deliver rules store deliveries = .ok store') :
    let after := deliveries.foldl (fun arrivals delivery =>
      arrivals.arrive (parkedRow rules delivery.input) delivery.order) arrivals
    Represents invoice base paidEvents store' after ∧ after.Complete ∧
      ∀ fact, fact ∈ after.facts ↔
        fact ∈ arrivals.facts ∨ fact ∈ deliveries.map fun delivery =>
          parkedRow rules delivery.input := by
  induction deliveries generalizing store arrivals with
  | nil =>
      obtain rfl := Except.ok.inj hok
      exact ⟨hstore, hcomplete, by simp⟩
  | cons delivery deliveries ih =>
      rw [deliver, List.foldlM_cons, bind_eq_ok] at hok
      obtain ⟨recorded, hrecorded, hrest⟩ := hok
      obtain ⟨status, hrecorded⟩ := map_fst_ok.mp hrecorded
      have hnext :=
        record_represents hqualified hstore (hnames delivery List.mem_cons_self) hrecorded
      obtain ⟨hafter, hdone, hfacts⟩ := ih hnext (hcomplete.arrive hstore.sound delivery.order)
        (fun other hother => hnames other (List.mem_cons_of_mem _ hother)) hrest
      refine ⟨hafter, hdone, fun fact => (hfacts fact).trans ?_⟩
      rw [arrive_facts, mem_offer_facts hstore.sound, List.map_cons, List.mem_cons, or_assoc]

end Represents

/-! ## Two orders of the same facts -/

structure FinancialStore.Starts (store : FinancialStore) (invoice : PaidInvoice)
    (base : RedemptionRow) :
    Prop where
  adjustments : store.adjustments = []
  redemption : store.findRedemption invoice.redemptionId = some base
  qualified : base.acquisitionState = .qualified
  invoice : base.firstPaidInvoiceId = some invoice.invoiceId

def factsOf (rules : TextRules) (deliveries : List Delivery) : List FinancialAdjustmentRow :=
  deliveries.map fun delivery => parkedRow rules delivery.input

/-- The delivered facts that apply: all but the ends of a dispute that was never opened. -/
def settledFacts (rules : TextRules) (deliveries : List Delivery) : List FinancialAdjustmentRow :=
  (factsOf rules deliveries).filter (appliesAmong (factsOf rules deliveries))

def lastReversal (rules : TextRules) (deliveries : List Delivery) : Option Bool :=
  (arrivalsOf rules deliveries).applied.getLast?.map (·.fullEconomicReversal)

namespace FinancialStore

variable (store : FinancialStore)

def disposition (invoice : PaidInvoice) : Option QualificationDisposition :=
  (store.findRedemption invoice.redemptionId).map (·.qualificationDisposition)

def risk (invoice : PaidInvoice) : Option FinancialRisk :=
  (store.findRedemption invoice.redemptionId).map (·.financialRisk)

def appliedRows : List FinancialAdjustmentRow :=
  store.adjustments.filter fun row => decide (row.processingState = .applied)

end FinancialStore

section Orders

variable {rules : TextRules} {invoice : PaidInvoice} {base : RedemptionRow}
  {store store' : FinancialStore}

theorem FinancialStore.Starts.represents (hstart : store.Starts invoice base) :
    Represents invoice base store.paidEvents store .empty where
  sound := ⟨fun _ hfact => absurd hfact List.not_mem_nil, List.nodup_nil,
    fun _ hfact => absurd hfact List.not_mem_nil⟩
  table := by rw [hstart.adjustments]; rfl
  keys := List.nodup_nil
  facts _ hfact := absurd hfact List.not_mem_nil
  paid := rfl
  redemption := ⟨base, hstart.redemption, ⟨rfl, rfl, rfl, rfl⟩, rfl, rfl⟩

theorem deliver_from_start {deliveries : List Delivery} (hstart : store.Starts invoice base)
    (hnames : ∀ delivery ∈ deliveries, delivery.input.Names invoice)
    (hok : deliver rules store deliveries = .ok store') :
    Represents invoice base store.paidEvents store' (arrivalsOf rules deliveries) ∧
      ∀ fact, fact ∈ (arrivalsOf rules deliveries).applied ↔
        fact ∈ settledFacts rules deliveries := by
  obtain ⟨hafter, hcomplete, hfacts⟩ := deliver_represents ⟨hstart.qualified, hstart.invoice⟩
    hstart.represents (fun _ hfact => absurd hfact List.not_mem_nil) hnames hok
  replace hfacts (fact : FinancialAdjustmentRow) :
      fact ∈ (arrivalsOf rules deliveries).facts ↔ fact ∈ factsOf rules deliveries :=
    (hfacts fact).trans (or_iff_right List.not_mem_nil)
  refine ⟨hafter, fun fact => ?_⟩
  refine (mem_applied_iff hafter hcomplete fact).trans ?_
  rw [settledFacts, List.mem_filter]
  refine and_congr (hfacts fact) ?_
  exact ⟨appliesAmong_mono fun other => (hfacts other).mp, appliesAmong_mono fun other =>
    (hfacts other).mpr⟩

theorem mem_settledFacts_congr {first second : List Delivery}
    (hsame : ∀ fact, fact ∈ factsOf rules first ↔ fact ∈ factsOf rules second)
    (fact : FinancialAdjustmentRow) :
    fact ∈ settledFacts rules first ↔ fact ∈ settledFacts rules second := by
  simp only [settledFacts, List.mem_filter]
  refine and_congr (hsame fact) ?_
  exact ⟨appliesAmong_mono fun other => (hsame other).mp, appliesAmong_mono fun other =>
    (hsame other).mpr⟩

theorem mem_appliedRows {paidEvents : List PaidIdentityEvent} {arrivals : Arrivals}
    (hstore : Represents invoice base paidEvents store arrivals) (row : FinancialAdjustmentRow) :
    row ∈ store.appliedRows ↔ ∃ fact ∈ arrivals.applied, fact.apply invoice.redemptionId = row := by
  have hrows : store.appliedRows = (arrivals.facts.filter fun fact =>
      decide (fact ∈ arrivals.applied) && true).map (·.apply invoice.redemptionId) := by
    rw [FinancialStore.appliedRows, hstore.table]
    refine filter_render (fun fact hfact _ => rfl) fun fact hfact _ => ?_
    simp [(hstore.facts fact hfact).parked]
  rw [hrows, List.mem_map]
  refine exists_congr fun fact => and_congr_left fun _ => ?_
  exact (hstore.sound.perm hstore.keys).mem_iff

theorem SettlesTo.agree {paid : Option PaidIdentityEvent}
    {facts others : List FinancialAdjustmentRow}
    {full fullOther : Bool} {disposition dispositionOther : QualificationDisposition}
    {risk riskOther : FinancialRisk} (hperm : facts.Perm others)
    (hfirst : SettlesTo paid facts full disposition risk)
    (hsecond : SettlesTo paid others fullOther dispositionOther riskOther) :
    risk = riskOther ∧ (disposition = dispositionOther ↔
      paid.isSome = true ∨ LostIn facts ∨ full = fullOther) := by
  have hopen :=
    hfirst.disputed.trans ((openIn_congr fun _ => hperm.mem_iff).trans hsecond.disputed.symm)
  have hlost : LostIn others ↔ LostIn facts := lostIn_congr fun _ => hperm.mem_iff.symm
  have hdisposition : disposition = dispositionOther ↔
      (disposition = .reversed ↔ dispositionOther = .reversed) := by
    obtain rfl | rfl := hfirst.disposed <;> obtain rfl | rfl := hsecond.disposed <;> simp
  refine ⟨by cases risk <;> cases riskOther <;> simp_all, ?_⟩
  rw [hdisposition, hfirst.reversed, hsecond.reversed, hlost]
  cases paid with
  | some paidFact =>
      have hnet := netAdjustment_perm hperm
      simp [ReversedBy, hnet]
  | none =>
      by_cases hwas : LostIn facts
      · simp [hwas]
      · simp only [hwas, false_or, ReversedBy, Option.isSome_none, Bool.false_eq_true]
        exact Bool.eq_iff_iff.symm

/-- Whatever order delivers the same facts, the same facts are applied and the risk is the
same.  The disposition is the same exactly if the invoice has a paid fact, or some dispute
is lost by a fact of its highest sequence, or the facts applied last agree on whether they
reverse the whole invoice. -/
theorem disposition_order_independent_iff (first second : List Delivery)
    {store₁ store₂ : FinancialStore}
    (hstart : store.Starts invoice base)
    (hfirst : ∀ delivery ∈ first, delivery.input.Names invoice)
    (hsecond : ∀ delivery ∈ second, delivery.input.Names invoice)
    (hsame : ∀ fact, fact ∈ factsOf rules first ↔ fact ∈ factsOf rules second)
    (hrun₁ : deliver rules store first = .ok store₁)
    (hrun₂ : deliver rules store second = .ok store₂) :
    (∀ row, row ∈ store₁.appliedRows ↔ row ∈ store₂.appliedRows) ∧
    store₁.risk invoice = store₂.risk invoice ∧
    (store₁.disposition invoice = store₂.disposition invoice ↔
      (findPaidFact store.paidEvents base invoice.environment invoice.livemode
        invoice.invoiceId).isSome = true ∨
        LostIn (settledFacts rules first) ∨
          lastReversal rules first = lastReversal rules second) := by
  obtain ⟨hafter₁, happlied₁⟩ := deliver_from_start hstart hfirst hrun₁
  obtain ⟨hafter₂, happlied₂⟩ := deliver_from_start hstart hsecond hrun₂
  have hmem (fact : FinancialAdjustmentRow) :
      fact ∈ (arrivalsOf rules first).applied ↔ fact ∈ (arrivalsOf rules second).applied :=
    (happlied₁ fact).trans ((mem_settledFacts_congr hsame fact).trans (happlied₂ fact).symm)
  have hperm := (List.perm_ext_iff_of_nodup hafter₁.sound.nodup hafter₂.sound.nodup).mpr hmem
  refine ⟨fun row => ?_, ?_⟩
  · rw [mem_appliedRows hafter₁, mem_appliedRows hafter₂]
    simp only [hmem]
  obtain ⟨row₁, hrow₁, -, hsettled₁⟩ := hafter₁.redemption
  obtain ⟨row₂, hrow₂, -, hsettled₂⟩ := hafter₂.redemption
  rw [lostIn_congr fun fact => (happlied₁ fact).symm]
  simp only [FinancialStore.risk, FinancialStore.disposition, hrow₁, hrow₂, Option.map_some,
    Option.some.injEq, lastReversal]
  unfold SettledAs at hsettled₁ hsettled₂
  cases hlast₁ : (arrivalsOf rules first).applied.getLast? with
  | none =>
      have hempty := List.getLast?_eq_none_iff.mp hlast₁
      have hlast₂ : (arrivalsOf rules second).applied.getLast? = none := by
        rw [List.getLast?_eq_none_iff, ← List.perm_nil]
        exact hempty ▸ hperm.symm
      rw [hlast₁] at hsettled₁
      rw [hlast₂] at hsettled₂
      simp [hsettled₁.1, hsettled₁.2, hsettled₂.1, hsettled₂.2, hlast₂]
  | some last₁ =>
      cases hlast₂ : (arrivalsOf rules second).applied.getLast? with
      | none =>
          rw [List.getLast?_eq_none_iff.mp hlast₂, List.perm_nil] at hperm
          rw [hperm] at hlast₁
          cases hlast₁
      | some last₂ =>
          rw [hlast₁] at hsettled₁
          rw [hlast₂] at hsettled₂
          obtain ⟨hrisk, hdisposition⟩ := hsettled₁.agree hperm hsettled₂
          refine ⟨hrisk, hdisposition.trans ?_⟩
          simp only [Option.map_some, Option.some.injEq]

end Orders

/-! ## A dispute lost and then won -/

def plainRules : TextRules := ⟨id, id⟩

def disputedInvoice : PaidInvoice where
  redemptionId := js "r"
  environment := js "stripe"
  livemode := false
  invoiceId := js "in"
  redemption_named := by decide
  invoice_named := by decide

def disputedRedemption : RedemptionRow where
  id := js "r"
  campaignId := js "c"
  codeId := js "k"
  referrerUserId := js "u"
  referredServerId := js "s"
  redeemingUserId := js "b"
  stripeCustomerId := none
  stripeCheckoutSessionId := none
  stripeSubscriptionId := none
  firstPaidInvoiceId := some (js "in")
  targetProductScope := .pro
  targetBillingInterval := .monthly
  acquisitionState := .qualified
  qualificationDisposition := .qualified
  financialRisk := .clear
  capSlotState := .consumed
  reservationExpiresAt := 1
  referralCheckoutIdempotencyKey := js "i"
  internalReason := none
  reservedAt := 0
  checkoutCreatedAt := none
  checkoutCompletedAt := none
  qualifiedAt := some 0
  terminalAt := none
  updatedAt := 0

def disputedStore (paidEvents : List PaidIdentityEvent) : FinancialStore where
  campaigns := fun _ => none
  codes := fun _ => none
  redemptions := [disputedRedemption]
  coverage := []
  paidEvents
  adjustments := []

def paidInFull : PaidIdentityEvent where
  environment := js "stripe"
  livemode := false
  stripeInvoiceId := js "in"
  stripeCustomerId := none
  serverId := none
  payerUserId := none
  ownerUserId := none
  identityResolutionState := .parked
  amountPaid := 1000
  resolution := some ⟨js "s", js "b", js "b"⟩

def disputeInput (kind : AdjustmentKind) (sequence : Int) (stripeEventId : JsString)
    (fullEconomicReversal : Bool) : FinancialAdjustmentInput where
  redemptionId := some (js "r")
  environment := js "stripe"
  livemode := false
  kind
  providerFactId := js "dp"
  providerFactSequence := some sequence
  stripeEventId
  stripeInvoiceId := js "in"
  stripeRefundId := none
  stripeCreditNoteId := none
  stripeDisputeId := some (js "dp")
  stripeChargeId := none
  currency := js "usd"
  amount := 1000
  netRevenueDelta := if kind = .disputeWon then 0 else -1000
  fullEconomicReversal := some fullEconomicReversal

def delivered (inputs : List FinancialAdjustmentInput) : List Delivery :=
  inputs.map fun input => ⟨input, ⟨id, fun rows => .refl rows⟩, 0⟩

def disputeOpening : FinancialAdjustmentInput := disputeInput .disputeOpened 1 (js "e1") false

def disputeLoss : FinancialAdjustmentInput := disputeInput .disputeLost 2 (js "e2") true

def disputeWin : FinancialAdjustmentInput := disputeInput .disputeWon 3 (js "e3") false

theorem delivered_names (inputs : List FinancialAdjustmentInput)
    (hinputs : ∀ input ∈ inputs, input.Names disputedInvoice) :
    ∀ delivery ∈ delivered inputs, delivery.input.Names disputedInvoice := by
  simpa [delivered] using hinputs

theorem disputedStore_starts (paidEvents : List PaidIdentityEvent) :
    (disputedStore paidEvents).Starts disputedInvoice disputedRedemption :=
  ⟨rfl, rfl, rfl, rfl⟩

/-- The loss that arrives after the win it precedes reverses the redemption. -/
theorem late_loss_reverses :
    (∀ fact, fact ∈ factsOf plainRules (delivered [disputeOpening, disputeLoss, disputeWin]) ↔
      fact ∈ factsOf plainRules (delivered [disputeOpening, disputeWin, disputeLoss])) ∧
    (deliver plainRules (disputedStore [])
      (delivered [disputeOpening, disputeLoss, disputeWin])).map
      (·.disposition disputedInvoice) = .ok (some .qualified) ∧
    (deliver plainRules (disputedStore [])
      (delivered [disputeOpening, disputeWin, disputeLoss])).map
      (·.disposition disputedInvoice) = .ok (some .reversed) := by
  refine ⟨fun fact => ?_, by rfl, by rfl⟩
  exact (List.Perm.cons _ (List.Perm.swap _ _ _)).mem_iff

theorem paid_dispute_agrees : ∃ store₁ store₂,
    deliver plainRules (disputedStore [paidInFull])
      (delivered [disputeOpening, disputeLoss, disputeWin]) =
      .ok store₁ ∧
    deliver plainRules (disputedStore [paidInFull])
      (delivered [disputeOpening, disputeWin, disputeLoss]) =
      .ok store₂ ∧
    store₁.disposition disputedInvoice = store₂.disposition disputedInvoice := by
  obtain ⟨store₁, hrun₁⟩ : ∃ store, deliver plainRules (disputedStore [paidInFull])
      (delivered [disputeOpening, disputeLoss, disputeWin]) = .ok store := ⟨_, rfl⟩
  obtain ⟨store₂, hrun₂⟩ : ∃ store, deliver plainRules (disputedStore [paidInFull])
      (delivered [disputeOpening, disputeWin, disputeLoss]) = .ok store := ⟨_, rfl⟩
  have hnames (inputs : List FinancialAdjustmentInput)
      (hinputs : ∀ input ∈ inputs, input = disputeOpening ∨ input = disputeLoss ∨
        input = disputeWin) :
      ∀ delivery ∈ delivered inputs, delivery.input.Names disputedInvoice := by
    refine delivered_names inputs fun input hinput => ?_
    obtain rfl | rfl | rfl := hinputs input hinput <;> exact ⟨rfl, rfl, rfl, rfl⟩
  have hsame : ∀ fact, fact ∈ factsOf plainRules
    (delivered [disputeOpening, disputeLoss, disputeWin]) ↔
      fact ∈ factsOf plainRules (delivered [disputeOpening, disputeWin, disputeLoss]) := fun fact =>
    (List.Perm.cons _ (List.Perm.swap _ _ _)).mem_iff
  have hboth := disposition_order_independent_iff _ _ (disputedStore_starts [paidInFull])
    (hnames _ (by simp)) (hnames _ (by simp)) hsame hrun₁ hrun₂
  exact ⟨store₁, store₂, hrun₁, hrun₂, hboth.2.2.mpr (.inl rfl)⟩

end Raft.Referral
