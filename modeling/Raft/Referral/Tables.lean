import Raft.Foundation.JsString
import Raft.Foundation.KeyedRows

/-!
# The tables of the referral programme

Campaigns and codes carry two hand-kept counters of their redemptions.  A
statement fails when a check of its table or a unique index refuses the row, and
a failed service call rolls its whole transaction back: it returns no store.
-/

namespace Raft.Referral

open Raft.Foundation

/-! ## Faults -/

inductive ReferralDiscountErrorCode where
  | paidHistoryIncomplete
  | selfReferral
  | priorPaidUser
  | priorPaidServer
  | priorPaidCustomer
  | campaignNotRedeemable
  | codeNotRedeemable
  | capExhausted
  | activeClaimExists
  | capSlotNotHeld
  | campaignEconomicsLocked
  | financialAdjustmentUnjoinable
  | financialAdjustmentBeforeQualification
  | acquisitionReplayMismatch
  | financialAdjustmentResolutionConflict
  | referralScopeMismatch
  | invalidTransition
  | invalidReservationWindow
  deriving DecidableEq

inductive ReferralFault where
  | discount (code : ReferralDiscountErrorCode) (message : JsString)
  /-- A plain `Error`. -/
  | other (message : JsString)
  /-- Postgres error 23505. -/
  | uniqueViolation
  /-- Postgres error 23514. -/
  | checkViolation
  deriving DecidableEq

abbrev Outcome (α : Type) := Except ReferralFault α

def ensure (condition : Bool) (fault : ReferralFault) : Outcome Unit :=
  if condition then .ok () else .error fault

theorem bind_eq_ok {α β : Type} {attempt : Outcome α} {next : α → Outcome β} {result : β} :
    (attempt >>= next) = .ok result ↔ ∃ value, attempt = .ok value ∧ next value = .ok result := by
  cases attempt with
  | error fault => simp [bind, Except.bind]
  | ok value => simp [bind, Except.bind]

@[simp] theorem ensure_eq_ok {condition : Bool} {fault : ReferralFault} {done : Unit} :
    ensure condition fault = .ok done ↔ condition = true := by
  cases condition <;> simp [ensure]

def isTruthy (text : Option JsString) : Bool := text.any fun text => !text.isEmpty

/-! ## Campaigns and codes -/

inductive CampaignStatus where
  | draft
  | active
  | paused
  | archived
  deriving DecidableEq

inductive CodeStatus where
  | active
  | paused
  | revoked
  | expired
  deriving DecidableEq

inductive ProviderState where
  | pending
  | ready
  | failed
  | disabled
  deriving DecidableEq

inductive ProductScope where
  | pro
  deriving DecidableEq

inductive BillingInterval where
  | monthly
  | annual
  deriving DecidableEq

inductive BillingIntervalScope where
  | monthly
  | annual
  | both
  deriving DecidableEq

def BillingInterval.scope : BillingInterval → BillingIntervalScope
  | .monthly => .monthly
  | .annual => .annual

/-- The columns of a campaign that no reservation writes. -/
structure CampaignSettings where
  status : CampaignStatus
  providerState : ProviderState
  providerProvisioningStartedAt : Option Int
  stripeCouponId : Option JsString
  providerStrategy : JsString
  percentOff : Int
  durationMonths : Int
  currency : JsString
  productScope : ProductScope
  billingIntervalScope : BillingIntervalScope
  maxPaidRedemptions : Option Int
  startsAt : Option Int
  expiresAt : Option Int
  mutationReason : JsString
  deriving DecidableEq

structure CampaignRow extends CampaignSettings where
  liveReservedCount : Int
  qualifiedCount : Int
  updatedAt : Int
  deriving DecidableEq

structure CodeSettings where
  campaignId : JsString
  referrerUserId : JsString
  normalizedCode : JsString
  status : CodeStatus
  providerState : ProviderState
  stripePromotionCodeId : Option JsString
  maxPaidRedemptions : Option Int
  expiresAt : Option Int
  deriving DecidableEq

structure CodeRow extends CodeSettings where
  liveReservedCount : Int
  qualifiedCount : Int
  updatedAt : Int
  deriving DecidableEq

/-- The checks `counts_nonnegative`, `cap_nonnegative` and `counts_within_cap`. -/
def countsChecked (maxPaidRedemptions : Option Int) (liveReservedCount qualifiedCount : Int) :
    Bool :=
  (decide (0 ≤ liveReservedCount) && decide (0 ≤ qualifiedCount)) &&
    maxPaidRedemptions.all fun cap =>
      decide (0 ≤ cap) && decide (liveReservedCount + qualifiedCount ≤ cap)

/-- How the platform lowers text: the language in a patch, the database in a check. -/
structure TextRules where
  toLowerCase : JsString → JsString
  lower : JsString → JsString

def CampaignRow.checked (rules : TextRules) (row : CampaignRow) : Bool :=
  ((decide (0 < row.percentOff) && decide (row.percentOff ≤ 100)) &&
    decide (0 < row.durationMonths)) &&
    (decide (row.currency = rules.lower row.currency) &&
      countsChecked row.maxPaidRedemptions row.liveReservedCount row.qualifiedCount)

def CodeRow.checked (rules : TextRules) (row : CodeRow) : Bool :=
  decide (row.normalizedCode = rules.lower row.normalizedCode) &&
    countsChecked row.maxPaidRedemptions row.liveReservedCount row.qualifiedCount

def hasCapacity (maxPaidRedemptions : Option Int) (liveReservedCount qualifiedCount : Int) : Bool :=
  maxPaidRedemptions.all fun cap => decide (liveReservedCount + qualifiedCount < cap)

def campaignSupportsFrozenScope (campaign : CampaignRow) (productScope : ProductScope)
    (billingInterval : BillingInterval) : Bool :=
  decide (campaign.productScope = productScope) &&
    (decide (campaign.billingIntervalScope = .both) ||
      decide (campaign.billingIntervalScope = billingInterval.scope))

/-! ## Redemptions -/

inductive AcquisitionState where
  | reserved
  | checkoutCreated
  | checkoutCompleted
  | qualified
  | checkoutExpired
  | void
  deriving DecidableEq

inductive QualificationDisposition where
  | none
  | qualified
  | reversed
  deriving DecidableEq

inductive FinancialRisk where
  | clear
  | disputed
  deriving DecidableEq

inductive CapSlotState where
  | held
  | consumed
  | released
  deriving DecidableEq

structure RedemptionRow where
  id : JsString
  campaignId : JsString
  codeId : JsString
  referrerUserId : JsString
  referredServerId : JsString
  redeemingUserId : JsString
  stripeCustomerId : Option JsString
  stripeCheckoutSessionId : Option JsString
  stripeSubscriptionId : Option JsString
  firstPaidInvoiceId : Option JsString
  targetProductScope : ProductScope
  targetBillingInterval : BillingInterval
  acquisitionState : AcquisitionState
  qualificationDisposition : QualificationDisposition
  financialRisk : FinancialRisk
  capSlotState : CapSlotState
  reservationExpiresAt : Int
  referralCheckoutIdempotencyKey : JsString
  internalReason : Option JsString
  reservedAt : Int
  checkoutCreatedAt : Option Int
  checkoutCompletedAt : Option Int
  qualifiedAt : Option Int
  terminalAt : Option Int
  updatedAt : Int
  deriving DecidableEq

/-- `IN ('reserved', 'checkout_created', 'checkout_completed')` -/
def AcquisitionState.isActive : AcquisitionState → Bool
  | .reserved | .checkoutCreated | .checkoutCompleted => true
  | .qualified | .checkoutExpired | .void => false

def RedemptionRow.isActive (row : RedemptionRow) : Bool := row.acquisitionState.isActive

def RedemptionRow.isSuccess (row : RedemptionRow) : Bool := row.acquisitionState = .qualified

def AcquisitionState.capSlot : AcquisitionState → CapSlotState
  | .reserved | .checkoutCreated | .checkoutCompleted => .held
  | .qualified => .consumed
  | .checkoutExpired | .void => .released

/-- The checks `qualification_consistent` and `cap_slot_consistent`. -/
def RedemptionRow.checked (row : RedemptionRow) : Bool :=
  (decide (row.acquisitionState = .qualified) == decide (row.qualificationDisposition ≠ .none)) &&
    decide (row.capSlotState = row.acquisitionState.capSlot)

def sharesValue (first second : Option JsString) : Bool := first.isSome && decide (first = second)

/-- The unique indexes: the session, the invoice, and for the active rows and the
successful rows each the server, the user and the customer. -/
def RedemptionRow.conflictsWith (row other : RedemptionRow) : Bool :=
  let sameBuyer := (decide (row.referredServerId = other.referredServerId) ||
    decide (row.redeemingUserId = other.redeemingUserId)) ||
      sharesValue row.stripeCustomerId other.stripeCustomerId
  (sharesValue row.stripeCheckoutSessionId other.stripeCheckoutSessionId ||
    sharesValue row.firstPaidInvoiceId other.firstPaidInvoiceId) ||
      ((row.isActive && other.isActive) && sameBuyer || (row.isSuccess && other.isSuccess) &&
        sameBuyer)

/-! ## Paid history -/

structure PaidHistoryCoverage where
  environment : JsString
  livemode : Bool
  coverageOriginAt : Int
  coverageWatermarkAt : Int
  completedAt : Option Int
  unresolvedIdentityCount : Nat
  deriving DecidableEq

inductive IdentityResolutionState where
  | resolved
  | parked
  deriving DecidableEq

structure PaidIdentityResolution where
  serverId : JsString
  payerUserId : JsString
  ownerUserId : JsString
  deriving DecidableEq

/-- A paid invoice with the resolution row that refers to it, of which there is at most one. -/
structure PaidIdentityEvent where
  environment : JsString
  livemode : Bool
  stripeInvoiceId : JsString
  stripeCustomerId : Option JsString
  serverId : Option JsString
  payerUserId : Option JsString
  ownerUserId : Option JsString
  identityResolutionState : IdentityResolutionState
  amountPaid : Int
  resolution : Option PaidIdentityResolution
  deriving DecidableEq

/-! ## The store -/

structure ReferralStore where
  campaigns : JsString → Option CampaignRow
  codes : JsString → Option CodeRow
  redemptions : List RedemptionRow
  coverage : List PaidHistoryCoverage
  paidEvents : List PaidIdentityEvent

def emptyStore : ReferralStore := ⟨fun _ => none, fun _ => none, [], [], []⟩

namespace ReferralStore

variable (store : ReferralStore)

def findRedemption (id : JsString) : Option RedemptionRow := findRow (·.id) id store.redemptions

def updateCampaign (rules : TextRules) (id : JsString) (update : CampaignRow → CampaignRow) :
    Outcome ReferralStore :=
  match store.campaigns id with
  | none => .ok store
  | some row =>
      if (update row).checked rules then
        .ok { store with campaigns := Function.update store.campaigns id (some (update row)) }
      else .error .checkViolation

def updateCode (rules : TextRules) (id : JsString) (update : CodeRow → CodeRow) :
    Outcome ReferralStore :=
  match store.codes id with
  | none => .ok store
  | some row =>
      if (update row).checked rules then
        .ok { store with codes := Function.update store.codes id (some (update row)) }
      else .error .checkViolation

def insertRedemption (row : RedemptionRow) : Outcome ReferralStore :=
  if !row.checked then .error .checkViolation
  else if store.redemptions.any fun other => decide (other.id = row.id) ||
    row.conflictsWith other then
    .error .uniqueViolation
  else .ok { store with redemptions := store.redemptions ++ [row] }

def updateRedemption (row updated : RedemptionRow) : Outcome ReferralStore :=
  if !updated.checked then .error .checkViolation
  else if store.redemptions.any fun other => decide (other.id ≠ row.id) &&
    updated.conflictsWith other then
    .error .uniqueViolation
  else .ok { store with
    redemptions := updateRow (·.id) row.id (fun _ => { updated with id := row.id })
      store.redemptions }

end ReferralStore

end Raft.Referral
