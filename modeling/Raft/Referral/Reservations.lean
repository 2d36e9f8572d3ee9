import Raft.Referral.Tables

/-!
# Reservations and their transitions

A service call is one serialized transaction.  It returns the store it commits
together with its row, or the fault that rolled it back.
-/

namespace Raft.Referral

open Raft.Foundation

/-! ## Eligibility -/

structure ReferralEligibilityInput where
  environment : JsString
  livemode : Bool
  historyOriginAt : Int
  decisionAt : Int
  referrerUserId : Option JsString
  redeemingUserId : JsString
  referredServerId : JsString
  stripeCustomerId : Option JsString
  deriving DecidableEq

def PaidHistoryCoverage.covers (coverage : PaidHistoryCoverage) (input : ReferralEligibilityInput) :
    Bool :=
  ((decide (coverage.environment = input.environment) &&
    decide (coverage.livemode = input.livemode)) &&
    (coverage.completedAt.isSome && decide (coverage.coverageOriginAt ≤ input.historyOriginAt))) &&
      (decide (input.decisionAt ≤ coverage.coverageWatermarkAt) &&
        decide (coverage.unresolvedIdentityCount = 0))

namespace PaidIdentityEvent

variable (event : PaidIdentityEvent)

def counts (input : ReferralEligibilityInput) : Bool :=
  (decide (event.environment = input.environment) && decide (event.livemode = input.livemode)) &&
    (decide (event.identityResolutionState = .resolved) || event.resolution.isSome)

def payer : Option JsString := event.payerUserId.or (event.resolution.map (·.payerUserId))

def owner : Option JsString := event.ownerUserId.or (event.resolution.map (·.ownerUserId))

def server : Option JsString := event.serverId.or (event.resolution.map (·.serverId))

end PaidIdentityEvent

def evaluateReferralEligibility (store : ReferralStore) (input : ReferralEligibilityInput) :
    Option ReferralDiscountErrorCode :=
  if isTruthy input.referrerUserId &&
    decide (input.referrerUserId = some input.redeemingUserId) then
    some .selfReferral
  else if (store.coverage.filter (·.covers input)).length ≠ 1 then some .paidHistoryIncomplete
  else if store.paidEvents.any fun event => event.counts input &&
      (decide (event.payer = some input.redeemingUserId) ||
        decide (event.owner = some input.redeemingUserId)) then some .priorPaidUser
  else if store.paidEvents.any fun event =>
      event.counts input &&
        decide (event.server = some input.referredServerId) then some .priorPaidServer
  else if isTruthy input.stripeCustomerId && store.paidEvents.any fun event =>
      event.counts input && decide (event.stripeCustomerId = input.stripeCustomerId) then
    some .priorPaidCustomer
  else none

def ReferralDiscountErrorCode.text : ReferralDiscountErrorCode → String
  | .paidHistoryIncomplete => "paid_history_incomplete"
  | .selfReferral => "self_referral"
  | .priorPaidUser => "prior_paid_user"
  | .priorPaidServer => "prior_paid_server"
  | .priorPaidCustomer => "prior_paid_customer"
  | .campaignNotRedeemable => "campaign_not_redeemable"
  | .codeNotRedeemable => "code_not_redeemable"
  | .capExhausted => "cap_exhausted"
  | .activeClaimExists => "active_claim_exists"
  | .capSlotNotHeld => "cap_slot_not_held"
  | .campaignEconomicsLocked => "campaign_economics_locked"
  | .financialAdjustmentUnjoinable => "financial_adjustment_unjoinable"
  | .financialAdjustmentBeforeQualification => "financial_adjustment_before_qualification"
  | .acquisitionReplayMismatch => "acquisition_replay_mismatch"
  | .financialAdjustmentResolutionConflict => "financial_adjustment_resolution_conflict"
  | .referralScopeMismatch => "referral_scope_mismatch"
  | .invalidTransition => "invalid_transition"
  | .invalidReservationWindow => "invalid_reservation_window"

def assertEligible : Option ReferralDiscountErrorCode → Outcome Unit
  | none => .ok ()
  | some reason => .error (.discount reason (js "Referral eligibility denied: " ++ js reason.text))

/-! ## The counters -/

def CampaignRow.adjust (live qualified now : Int) (row : CampaignRow) : CampaignRow :=
  { row with
    liveReservedCount := row.liveReservedCount + live
    qualifiedCount := row.qualifiedCount + qualified
    updatedAt := now }

def CodeRow.adjust (live qualified now : Int) (row : CodeRow) : CodeRow :=
  { row with
    liveReservedCount := row.liveReservedCount + live
    qualifiedCount := row.qualifiedCount + qualified
    updatedAt := now }

/-- The two statements that follow a redemption's slot. -/
def ReferralStore.adjustCounts (rules : TextRules) (store : ReferralStore)
    (campaignId codeId : JsString)
    (live qualified now : Int) : Outcome ReferralStore :=
  store.updateCampaign rules campaignId (·.adjust live qualified now) >>= fun store =>
    store.updateCode rules codeId (·.adjust live qualified now)

/-! ## Admission -/

structure CreateReferralReservationInput extends ReferralEligibilityInput where
  campaignId : JsString
  codeId : JsString
  targetProductScope : Option ProductScope
  targetBillingInterval : Option BillingInterval
  reservationExpiresAt : Int
  referralCheckoutIdempotencyKey : Option JsString
  deriving DecidableEq

def normalizeProductScope (scope : Option ProductScope) : ProductScope := scope.getD .pro

def normalizeBillingInterval (interval : Option BillingInterval) : BillingInterval :=
  interval.getD .monthly

def CampaignRow.isRedeemable (row : CampaignRow) (decisionAt : Int) : Bool :=
  (decide (row.status = .active) && decide (row.providerState = .ready)) &&
    (row.startsAt.all fun startsAt => decide (startsAt ≤ decisionAt)) &&
      (row.expiresAt.all fun expiresAt => decide (decisionAt < expiresAt)) &&
        hasCapacity row.maxPaidRedemptions row.liveReservedCount row.qualifiedCount

def CodeRow.isRedeemable (row : CodeRow) (input : CreateReferralReservationInput) : Bool :=
  (decide (row.campaignId = input.campaignId) &&
    decide (some row.referrerUserId = input.referrerUserId)) &&
    (decide (row.status = .active) && decide (row.providerState = .ready)) &&
      (row.expiresAt.all fun expiresAt => decide (input.decisionAt < expiresAt)) &&
        hasCapacity row.maxPaidRedemptions row.liveReservedCount row.qualifiedCount

def redeemableCampaign (store : ReferralStore) (input : CreateReferralReservationInput) :
    Outcome CampaignRow :=
  match store.campaigns input.campaignId with
  | none => .error (.discount .campaignNotRedeemable (js "Referral campaign is not redeemable."))
  | some campaign =>
      if campaign.isRedeemable input.decisionAt then .ok campaign
      else
        .error (.discount
          (if hasCapacity campaign.maxPaidRedemptions campaign.liveReservedCount
            campaign.qualifiedCount then
            .campaignNotRedeemable else .capExhausted)
          (js "Referral campaign is not redeemable."))

def redeemableCode (store : ReferralStore) (input : CreateReferralReservationInput) :
    Outcome CodeRow :=
  match store.codes input.codeId with
  | none => .error (.discount .codeNotRedeemable (js "Referral code is not redeemable."))
  | some code =>
      if code.isRedeemable input then .ok code
      else
        .error (.discount
          (if hasCapacity code.maxPaidRedemptions code.liveReservedCount code.qualifiedCount then
            .codeNotRedeemable else .capExhausted)
          (js "Referral code is not redeemable."))

def mapUniqueClaimError {α : Type} : Outcome α → Outcome α
  | .error .uniqueViolation =>
      .error (.discount .activeClaimExists
        (js "A referral redemption claim already exists for this buyer identity."))
  | outcome => outcome

structure RandomDraw where
  id : JsString
  idempotencyKey : JsString

def reservedRow (input : CreateReferralReservationInput) (code : CodeRow) (draw : RandomDraw)
    (now : Int) : RedemptionRow where
  id := draw.id
  campaignId := input.campaignId
  codeId := input.codeId
  referrerUserId := code.referrerUserId
  referredServerId := input.referredServerId
  redeemingUserId := input.redeemingUserId
  stripeCustomerId := input.stripeCustomerId
  stripeCheckoutSessionId := none
  stripeSubscriptionId := none
  firstPaidInvoiceId := none
  targetProductScope := normalizeProductScope input.targetProductScope
  targetBillingInterval := normalizeBillingInterval input.targetBillingInterval
  acquisitionState := .reserved
  qualificationDisposition := .none
  financialRisk := .clear
  capSlotState := .held
  reservationExpiresAt := input.reservationExpiresAt
  referralCheckoutIdempotencyKey :=
    input.referralCheckoutIdempotencyKey.getD (js "referral-checkout:" ++ draw.idempotencyKey)
  internalReason := none
  reservedAt := now
  checkoutCreatedAt := none
  checkoutCompletedAt := none
  qualifiedAt := none
  terminalAt := none
  updatedAt := now

section Calls

variable (rules : TextRules) (store : ReferralStore)

def createReferralReservation (input : CreateReferralReservationInput) (draw : RandomDraw)
    (now : Int) :
    Outcome (ReferralStore × RedemptionRow) := do
  ensure (input.decisionAt < input.reservationExpiresAt)
    (.discount .invalidReservationWindow (js "Referral reservation expiry must be in the future."))
  assertEligible (evaluateReferralEligibility store input.toReferralEligibilityInput)
  let campaign ← redeemableCampaign store input
  ensure (campaignSupportsFrozenScope campaign (normalizeProductScope input.targetProductScope)
      (normalizeBillingInterval input.targetBillingInterval))
    (.discount .referralScopeMismatch
      (js "Referral campaign does not apply to the requested product and billing interval."))
  let code ← redeemableCode store input
  let counted ← store.adjustCounts rules input.campaignId input.codeId 1 0 now
  let row := reservedRow input code draw now
  let inserted ← mapUniqueClaimError (counted.insertRedemption row)
  pure (inserted, row)

/-! ## Leaving the held slot -/

inductive HeldTransition where
  | void
  | checkoutExpired
  | qualified
  deriving DecidableEq

namespace HeldTransition

def source : HeldTransition → AcquisitionState
  | .void => .reserved
  | .checkoutExpired => .checkoutCreated
  | .qualified => .checkoutCompleted

def target : HeldTransition → AcquisitionState
  | .void => .void
  | .checkoutExpired => .checkoutExpired
  | .qualified => .qualified

def sourceMessage : HeldTransition → String
  | .void => "Referral redemption must be reserved before provider void."
  | .checkoutExpired => "Referral redemption must be checkout_created before checkout_expired."
  | .qualified => "Referral redemption must be checkout_completed before qualification."

end HeldTransition

/-- The columns a caller sets along; the outer `none` is an absent field. -/
structure TransitionFields where
  firstPaidInvoiceId : Option (Option JsString)
  stripeSubscriptionId : Option (Option JsString)
  stripeCustomerId : Option (Option JsString)
  internalReason : Option (Option JsString)
  deriving DecidableEq

def noFields : TransitionFields := ⟨none, none, none, none⟩

def TransitionFields.set (fields : TransitionFields) (row : RedemptionRow) : RedemptionRow :=
  { row with
    firstPaidInvoiceId := fields.firstPaidInvoiceId.getD row.firstPaidInvoiceId
    stripeSubscriptionId := fields.stripeSubscriptionId.getD row.stripeSubscriptionId
    stripeCustomerId := fields.stripeCustomerId.getD row.stripeCustomerId
    internalReason := fields.internalReason.getD row.internalReason }

def TransitionFields.replays (fields : TransitionFields) (row : RedemptionRow) : Bool :=
  (decide (some row.firstPaidInvoiceId = fields.firstPaidInvoiceId) &&
    decide (some row.stripeSubscriptionId = fields.stripeSubscriptionId)) &&
      decide (some row.stripeCustomerId = fields.stripeCustomerId)

def transitionedRow (transition : HeldTransition) (fields : TransitionFields) (now : Int)
    (row : RedemptionRow) : RedemptionRow :=
  match transition with
  | .qualified =>
      { fields.set row with
        acquisitionState := .qualified
        qualificationDisposition := .qualified
        financialRisk := .clear
        capSlotState := .consumed
        qualifiedAt := some now
        updatedAt := now }
  | .void | .checkoutExpired =>
      { fields.set row with
        acquisitionState := transition.target
        capSlotState := .released
        terminalAt := some now
        updatedAt := now }

def HeldTransition.qualifiedUnits : HeldTransition → Int
  | .qualified => 1
  | .void | .checkoutExpired => 0

def redemptionNotFound (id : JsString) : ReferralFault :=
  .other (js "Referral redemption not found: " ++ id)

def selectRedemption (id : JsString) : Outcome RedemptionRow :=
  match store.findRedemption id with
  | none => .error (redemptionNotFound id)
  | some row => .ok row

def acquisitionReplayMismatch (message : String) : ReferralFault :=
  .discount .acquisitionReplayMismatch (js message)

def invalidTransition (message : String) : ReferralFault :=
  .discount .invalidTransition (js message)

def transitionHeldReservation (id : JsString) (transition : HeldTransition)
    (fields : TransitionFields)
    (now : Int) : Outcome (ReferralStore × RedemptionRow) := do
  let row ← selectRedemption store id
  if decide (transition = .qualified) && decide (row.capSlotState = .consumed) then
    ensure (fields.replays row)
      (acquisitionReplayMismatch "Qualified referral replay does not match the canonical payload.")
    pure (store, row)
  else if decide (transition ≠ .qualified) && decide (row.capSlotState = .released) then
    ensure (row.acquisitionState = transition.target)
      (invalidTransition "Referral terminal replay does not match the canonical terminal state.")
    pure (store, row)
  else
    ensure (row.acquisitionState = transition.source) (invalidTransition transition.sourceMessage)
    ensure (row.capSlotState = .held)
      (.discount .capSlotNotHeld (js "Referral redemption cap slot is not held."))
    let updated := transitionedRow transition fields now row
    let moved ← store.updateRedemption row updated
    let counted ← moved.adjustCounts rules row.campaignId row.codeId (-1)
      transition.qualifiedUnits now
    pure (counted, updated)

def voidReferralReservation (id reason : JsString) (now : Int) :
    Outcome (ReferralStore × RedemptionRow) :=
  transitionHeldReservation rules store id .void
    { noFields with internalReason := some (some reason) } now

def expireReferralReservation (id : JsString) (now : Int) :
    Outcome (ReferralStore × RedemptionRow) :=
  transitionHeldReservation rules store id .checkoutExpired noFields now

def expireReferralCheckoutSession (id stripeCheckoutSessionId : JsString) (now : Int) :
    Outcome (ReferralStore × RedemptionRow) := do
  let row ← selectRedemption store id
  ensure (row.stripeCheckoutSessionId = some stripeCheckoutSessionId)
    (acquisitionReplayMismatch
      "Checkout-expired session does not match the canonical checkout session.")
  transitionHeldReservation rules store id .checkoutExpired noFields now

/-! ## Checkout -/

def assertHasCanonicalField {α : Type} (value : Option α) (field : String) : Outcome α :=
  match value with
  | none =>
      .error (.discount .acquisitionReplayMismatch
        (js "Canonical acquisition field " ++ js field ++ js " is required."))
  | some value => .ok value

structure MarkReferralCheckoutCreatedInput where
  decisionAt : Option Int
  stripeCheckoutSessionId : JsString
  stripeCustomerId : Option (Option JsString)
  stripeSubscriptionId : Option (Option JsString)
  reservationExpiresAt : Option Int
  deriving DecidableEq

def checkoutCreatedRow (stripeCheckoutSessionId : JsString)
    (stripeCustomerId stripeSubscriptionId : Option JsString) (reservationExpiresAt now : Int)
    (row : RedemptionRow) : RedemptionRow :=
  { row with
    acquisitionState := .checkoutCreated
    stripeCheckoutSessionId := some stripeCheckoutSessionId
    stripeCustomerId
    stripeSubscriptionId
    reservationExpiresAt
    checkoutCreatedAt := some now
    updatedAt := now }

def preserves (held given : Option JsString) : Bool := decide (held = none) || decide (held = given)

def markReferralCheckoutCreated (id : JsString) (input : MarkReferralCheckoutCreatedInput)
    (now : Int) :
    Outcome (ReferralStore × RedemptionRow) := do
  let decisionAt ← assertHasCanonicalField input.decisionAt "decisionAt"
  let stripeCustomerId ← assertHasCanonicalField input.stripeCustomerId "stripeCustomerId"
  let stripeSubscriptionId ← assertHasCanonicalField input.stripeSubscriptionId
    "stripeSubscriptionId"
  let reservationExpiresAt ← assertHasCanonicalField input.reservationExpiresAt
    "reservationExpiresAt"
  let row ← selectRedemption store id
  ensure (row.reservedAt ≤ decisionAt) (.discount .invalidReservationWindow
    (js "Checkout decision time must not precede the original reservation time."))
  ensure (decisionAt < reservationExpiresAt) (.discount .invalidReservationWindow
    (js "Checkout reservation expiry must remain after the checkout decision time."))
  if row.acquisitionState = .checkoutCreated then
    ensure ((decide (row.stripeCheckoutSessionId = some input.stripeCheckoutSessionId) &&
        decide (row.stripeCustomerId = stripeCustomerId)) &&
          (decide (row.stripeSubscriptionId = stripeSubscriptionId) &&
            decide (row.reservationExpiresAt = reservationExpiresAt)))
      (acquisitionReplayMismatch "Checkout-created replay does not match the canonical payload.")
    pure (store, row)
  else
    ensure (row.acquisitionState = .reserved)
      (invalidTransition "Referral redemption must be reserved before checkout_created.")
    ensure (preserves row.stripeCustomerId stripeCustomerId)
      (acquisitionReplayMismatch
        "Checkout-created customer must preserve the reservation customer identity.")
    ensure (preserves row.stripeSubscriptionId stripeSubscriptionId)
      (acquisitionReplayMismatch
        "Checkout-created subscription must preserve the reservation subscription identity.")
    let updated := checkoutCreatedRow input.stripeCheckoutSessionId stripeCustomerId
      stripeSubscriptionId reservationExpiresAt now row
    let moved ← store.updateRedemption row updated
    pure (moved, updated)

structure MarkReferralCheckoutCompletedInput where
  stripeCheckoutSessionId : Option JsString
  stripeCustomerId : Option (Option JsString)
  stripeSubscriptionId : Option (Option JsString)
  deriving DecidableEq

def checkoutCompletedRow (stripeCustomerId stripeSubscriptionId : Option JsString) (now : Int)
    (row : RedemptionRow) : RedemptionRow :=
  { row with
    acquisitionState := .checkoutCompleted
    stripeCustomerId
    stripeSubscriptionId
    checkoutCompletedAt := some now
    updatedAt := now }

def markReferralCheckoutCompleted (id : JsString) (input : MarkReferralCheckoutCompletedInput)
    (now : Int) : Outcome (ReferralStore × RedemptionRow) := do
  let stripeCheckoutSessionId ←
    assertHasCanonicalField input.stripeCheckoutSessionId "stripeCheckoutSessionId"
  let stripeCustomerId ← assertHasCanonicalField input.stripeCustomerId "stripeCustomerId"
  let stripeSubscriptionId ← assertHasCanonicalField input.stripeSubscriptionId
    "stripeSubscriptionId"
  let row ← selectRedemption store id
  if row.acquisitionState = .checkoutCompleted then
    ensure ((decide (row.stripeCheckoutSessionId = some stripeCheckoutSessionId) &&
        decide (row.stripeCustomerId = stripeCustomerId)) &&
          decide (row.stripeSubscriptionId = stripeSubscriptionId))
      (acquisitionReplayMismatch "Checkout-completed replay does not match the canonical payload.")
    pure (store, row)
  else
    ensure (row.acquisitionState = .checkoutCreated)
      (invalidTransition "Referral redemption must be checkout_created before checkout_completed.")
    ensure (row.stripeCheckoutSessionId = some stripeCheckoutSessionId)
      (acquisitionReplayMismatch
        "Checkout-completed session does not match the checkout-created session.")
    ensure (preserves row.stripeCustomerId stripeCustomerId)
      (acquisitionReplayMismatch
        "Checkout-completed customer does not match the checkout-created customer.")
    ensure (preserves row.stripeSubscriptionId stripeSubscriptionId)
      (acquisitionReplayMismatch
        "Checkout-completed subscription does not match the checkout-created subscription.")
    let updated := checkoutCompletedRow stripeCustomerId stripeSubscriptionId now row
    let moved ← store.updateRedemption row updated
    pure (moved, updated)

/-! ## Qualification -/

structure QualifyReferralRedemptionInput where
  firstPaidInvoiceId : JsString
  stripeSubscriptionId : Option (Option JsString)
  stripeCustomerId : Option (Option JsString)
  deriving DecidableEq

def qualifiedFields (firstPaidInvoiceId : JsString)
    (stripeSubscriptionId stripeCustomerId : Option JsString) :
    TransitionFields :=
  ⟨some (some firstPaidInvoiceId), some stripeSubscriptionId, some stripeCustomerId, none⟩

def qualifyReferralRedemption (id : JsString) (input : QualifyReferralRedemptionInput) (now : Int) :
    Outcome (ReferralStore × RedemptionRow) := do
  let stripeSubscriptionId ← assertHasCanonicalField input.stripeSubscriptionId
    "stripeSubscriptionId"
  let stripeCustomerId ← assertHasCanonicalField input.stripeCustomerId "stripeCustomerId"
  transitionHeldReservation rules store id .qualified
    (qualifiedFields input.firstPaidInvoiceId stripeSubscriptionId stripeCustomerId) now

structure QualifyReferralInvoicePaymentInput extends QualifyReferralRedemptionInput where
  redemptionId : JsString
  stripePromotionCodeId : JsString
  stripeCouponId : JsString
  stripePriceId : JsString
  billingInterval : BillingInterval
  expectedPriceIds : List JsString
  deriving DecidableEq

def selectJoined (id : JsString) : Outcome (RedemptionRow × CodeRow × CampaignRow) :=
  match store.findRedemption id with
  | none => .error (redemptionNotFound id)
  | some row =>
      match store.codes row.codeId, store.campaigns row.campaignId with
      | some code, some campaign => .ok (row, code, campaign)
      | _, _ => .error (redemptionNotFound id)

def qualifyReferralInvoicePayment (input : QualifyReferralInvoicePaymentInput) (now : Int) :
    Outcome (ReferralStore × RedemptionRow) := do
  let stripeSubscriptionId ← assertHasCanonicalField input.stripeSubscriptionId
    "stripeSubscriptionId"
  let stripeCustomerId ← assertHasCanonicalField input.stripeCustomerId "stripeCustomerId"
  let (row, code, campaign) ← selectJoined store input.redemptionId
  ensure (input.expectedPriceIds.contains input.stripePriceId)
    (.discount .financialAdjustmentUnjoinable
      (js "Referral invoice line is not an expected Pro price."))
  ensure ((decide (row.targetProductScope = .pro) &&
      decide (row.targetBillingInterval = input.billingInterval)) &&
        campaignSupportsFrozenScope campaign .pro input.billingInterval)
    (.discount .referralScopeMismatch (js
      "Referral invoice product or billing interval does not match the frozen reservation scope."))
  ensure (decide (code.stripePromotionCodeId = some input.stripePromotionCodeId) &&
      decide (campaign.stripeCouponId = some input.stripeCouponId))
    (.discount .financialAdjustmentUnjoinable
      (js "Referral invoice discount does not match the canonical promotion/coupon."))
  transitionHeldReservation rules store input.redemptionId .qualified
    (qualifiedFields input.firstPaidInvoiceId stripeSubscriptionId stripeCustomerId) now

/-! ## Economics -/

structure CampaignEconomicsPatch where
  percentOff : Option Int
  durationMonths : Option Int
  currency : Option JsString
  productScope : Option ProductScope
  billingIntervalScope : Option BillingIntervalScope
  maxPaidRedemptions : Option (Option Int)
  providerStrategy : Option JsString
  mutationReason : JsString
  deriving DecidableEq

def CampaignEconomicsPatch.set (patch : CampaignEconomicsPatch) (now : Int) (row : CampaignRow) :
    CampaignRow :=
  { row with
    percentOff := patch.percentOff.getD row.percentOff
    durationMonths := patch.durationMonths.getD row.durationMonths
    currency := (patch.currency.map rules.toLowerCase).getD row.currency
    productScope := patch.productScope.getD row.productScope
    billingIntervalScope := patch.billingIntervalScope.getD row.billingIntervalScope
    maxPaidRedemptions := patch.maxPaidRedemptions.getD row.maxPaidRedemptions
    providerStrategy := patch.providerStrategy.getD row.providerStrategy
    mutationReason := patch.mutationReason
    updatedAt := now }

def updateCampaignEconomics (campaignId : JsString) (patch : CampaignEconomicsPatch) (now : Int) :
    Outcome (ReferralStore × CampaignRow) :=
  match store.campaigns campaignId with
  | none => .error (.other (js "Referral campaign not found: " ++ campaignId))
  | some row =>
      if row.providerProvisioningStartedAt.isSome then
        .error (.discount .campaignEconomicsLocked
          (js "Referral campaign economics are locked after provider provisioning starts."))
      else do
        let updated ← store.updateCampaign rules campaignId (patch.set rules now)
        pure (updated, patch.set rules now row)

end Calls

end Raft.Referral
