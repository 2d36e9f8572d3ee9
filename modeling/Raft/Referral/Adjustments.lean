import Raft.Foundation.Grouping
import Raft.Referral.Tables

/-!
# Financial adjustments

A provider fact about a paid invoice is inserted parked, and applied once it names
a qualified redemption with that invoice.  The end of a dispute waits for its
opening.  Every application folds all applied facts of the redemption anew.
-/

namespace Raft.Referral

open Raft.Foundation

inductive AdjustmentKind where
  | refund
  | creditNote
  | disputeOpened
  | disputeWon
  | disputeLost
  deriving DecidableEq

def AdjustmentKind.isTerminal : AdjustmentKind → Bool
  | .disputeWon | .disputeLost => true
  | .refund | .creditNote | .disputeOpened => false

def AdjustmentKind.isDispute : AdjustmentKind → Bool
  | .disputeOpened | .disputeWon | .disputeLost => true
  | .refund | .creditNote => false

def AdjustmentKind.isRevenue : AdjustmentKind → Bool
  | .refund | .creditNote => true
  | .disputeOpened | .disputeWon | .disputeLost => false

structure FinancialAdjustmentInput where
  redemptionId : Option JsString
  environment : JsString
  livemode : Bool
  kind : AdjustmentKind
  providerFactId : JsString
  providerFactSequence : Option Int
  stripeEventId : JsString
  stripeInvoiceId : JsString
  stripeRefundId : Option JsString
  stripeCreditNoteId : Option JsString
  stripeDisputeId : Option JsString
  stripeChargeId : Option JsString
  currency : JsString
  amount : Int
  netRevenueDelta : Int
  fullEconomicReversal : Option Bool
  deriving DecidableEq

/-- The unique index over provider facts. -/
structure AdjustmentKey where
  environment : JsString
  livemode : Bool
  kind : AdjustmentKind
  providerFactId : JsString
  stripeEventId : JsString
  deriving DecidableEq

inductive ProcessingState where
  | parked
  | applied
  deriving DecidableEq

structure FinancialAdjustmentRow extends AdjustmentKey where
  providerFactSequence : Int
  stripeInvoiceId : JsString
  stripeRefundId : Option JsString
  stripeCreditNoteId : Option JsString
  stripeDisputeId : Option JsString
  stripeChargeId : Option JsString
  currency : JsString
  amount : Int
  netRevenueDelta : Int
  fullEconomicReversal : Bool
  observedRedemptionId : Option JsString
  resolvedRedemptionId : Option JsString
  processingState : ProcessingState
  /-- The redemption of the resolution row that refers to this one, of which there is
  at most one. -/
  resolution : Option JsString
  deriving DecidableEq

/-- The checks `amount_nonnegative`, `currency_lower` and `applied_has_redemption`. -/
def FinancialAdjustmentRow.checked (rules : TextRules) (row : FinancialAdjustmentRow) : Bool :=
  (decide (0 ≤ row.amount) && decide (row.currency = rules.lower row.currency)) &&
    (decide (row.processingState ≠ .applied) || row.resolvedRedemptionId.isSome)

structure FinancialStore extends ReferralStore where
  adjustments : List FinancialAdjustmentRow

def parkedRow (rules : TextRules) (input : FinancialAdjustmentInput) : FinancialAdjustmentRow where
  environment := input.environment
  livemode := input.livemode
  kind := input.kind
  providerFactId := input.providerFactId
  stripeEventId := input.stripeEventId
  providerFactSequence := input.providerFactSequence.getD 0
  stripeInvoiceId := input.stripeInvoiceId
  stripeRefundId := input.stripeRefundId
  stripeCreditNoteId := input.stripeCreditNoteId
  stripeDisputeId := input.stripeDisputeId
  stripeChargeId := input.stripeChargeId
  currency := rules.toLowerCase input.currency
  amount := input.amount
  netRevenueDelta := input.netRevenueDelta
  fullEconomicReversal := input.fullEconomicReversal.getD false
  observedRedemptionId := input.redemptionId
  resolvedRedemptionId := none
  processingState := .parked
  resolution := none

/-- The columns of a provider fact, without what became of it. -/
def FinancialAdjustmentRow.fact (row : FinancialAdjustmentRow) : FinancialAdjustmentRow :=
  { row with
    observedRedemptionId := none
    resolvedRedemptionId := none
    processingState := .parked
    resolution := none }

def assertSameFinancialAdjustmentReplay (rules : TextRules) (row : FinancialAdjustmentRow)
    (input : FinancialAdjustmentInput) : Outcome Unit :=
  ensure (row.fact = (parkedRow rules input).fact) (.discount .financialAdjustmentUnjoinable
    (js "Referral financial adjustment replay does not match the canonical provider fact."))

/-! ## The fold -/

inductive DisputeState where
  | opened
  | won
  | lost
  deriving DecidableEq

/-- The facts of a dispute that carry its highest sequence. -/
def currentFacts (facts : List FinancialAdjustmentRow) : List FinancialAdjustmentRow :=
  facts.filter fun fact =>
    decide (some fact.providerFactSequence = (facts.map (·.providerFactSequence)).max?)

def disputeState (facts : List FinancialAdjustmentRow) : Outcome DisputeState := do
  let hasLost := (currentFacts facts).any fun fact => decide (fact.kind = .disputeLost)
  let hasWon := (currentFacts facts).any fun fact => decide (fact.kind = .disputeWon)
  ensure (!(hasLost && hasWon)) (.discount .financialAdjustmentUnjoinable
    (js "Referral dispute same-second terminal facts conflict for this lineage."))
  pure (if hasLost then .lost else if hasWon then .won else .opened)

def FinancialAdjustmentRow.isDisputeFact (fact : FinancialAdjustmentRow) : Bool :=
  isTruthy fact.stripeDisputeId && fact.kind.isDispute

def disputeGroups (facts : List FinancialAdjustmentRow) :
    InsertionMap JsString (List FinancialAdjustmentRow) :=
  groupFold (·.stripeDisputeId.getD []) (fun group fact => group.getD [] ++ [fact]) .empty
    (facts.filter (·.isDisputeFact))

structure LatestAdjustment where
  environment : JsString
  livemode : Bool
  kind : AdjustmentKind
  fullEconomicReversal : Bool

def appliedFacts (store : FinancialStore) (redemptionId invoiceId : JsString)
    (latest : LatestAdjustment) :
    List FinancialAdjustmentRow :=
  store.adjustments.filter fun row =>
    (decide (row.resolvedRedemptionId = some redemptionId) &&
      decide (row.environment = latest.environment)) &&
      (decide (row.livemode = latest.livemode) && decide (row.processingState = .applied)) &&
        decide (row.stripeInvoiceId = invoiceId)

def findPaidFact (paidEvents : List PaidIdentityEvent) (row : RedemptionRow)
    (environment : JsString)
    (livemode : Bool) (invoiceId : JsString) : Option PaidIdentityEvent :=
  paidEvents.find? fun event =>
    (decide (event.environment = environment) && decide (event.livemode = livemode)) &&
      decide (event.stripeInvoiceId = invoiceId) && event.resolution.any fun resolution =>
        decide (resolution.serverId = row.referredServerId) &&
          decide (resolution.payerUserId = row.redeemingUserId)

def netAdjustment (facts : List FinancialAdjustmentRow) : Int :=
  ((facts.filter (·.kind.isRevenue)).map (·.netRevenueDelta)).sum

def disputeDisposition (states : List DisputeState) : QualificationDisposition × FinancialRisk :=
  (if states.any fun state => decide (state = .lost) then .reversed
    else if states.any fun state => decide (state = .won) then .qualified
    else .qualified,
   if states.any fun state => decide (state = .opened) then .disputed
    else if states.any fun state => decide (state = .won) || decide (state = .lost) then .clear
    else .clear)

def foldReferralFinancialDisposition (store : FinancialStore) (redemptionId : JsString)
    (row : RedemptionRow) (latest : LatestAdjustment) :
    Outcome (QualificationDisposition × FinancialRisk) :=
  match row.firstPaidInvoiceId with
  | none => .ok (.qualified, .clear)
  | some invoiceId =>
      if invoiceId.isEmpty then .ok (.qualified, .clear)
      else do
        let facts := appliedFacts store redemptionId invoiceId latest
        let states ← (disputeGroups facts).values.mapM disputeState
        let hasOpenDispute := states.any fun state => decide (state = .opened)
        let (disposition, risk) := disputeDisposition states
        let reversedRisk := if hasOpenDispute then risk else .clear
        match findPaidFact store.paidEvents row latest.environment latest.livemode invoiceId with
        | some paidFact =>
            if paidFact.amountPaid + netAdjustment facts ≤ 0 then pure (.reversed, reversedRisk)
            else if !(states.any fun state => decide (state = .lost)) && latest.kind.isRevenue then
              pure (.qualified, risk)
            else pure (disposition, risk)
        | none =>
            if latest.fullEconomicReversal then pure (.reversed, reversedRisk)
            else pure (disposition, risk)

/-! ## Recording a fact -/

inductive RecordStatus where
  | recorded
  | duplicate
  | parked
  deriving DecidableEq

section Record

variable (rules : TextRules) (store : FinancialStore) (input : FinancialAdjustmentInput)

/-- `INSERT … ON CONFLICT DO NOTHING`, and the row that is there afterwards. -/
def insertAdjustment : Outcome (FinancialStore × FinancialAdjustmentRow) := do
  let row := parkedRow rules input
  ensure (row.checked rules) .checkViolation
  match findRow (·.toAdjustmentKey) row.toAdjustmentKey store.adjustments with
  | some existing => pure (store, existing)
  | none => pure ({ store with adjustments := store.adjustments ++ [row] }, row)

def hasLineage (redemptionId disputeId : JsString) : Bool :=
  store.adjustments.any fun row =>
    (decide (row.resolvedRedemptionId = some redemptionId) &&
      decide (row.environment = input.environment)) &&
      (decide (row.livemode = input.livemode) && decide (row.processingState = .applied)) &&
        (decide (row.stripeDisputeId = some disputeId) &&
          (decide (row.kind = .disputeOpened) ||
            (decide (input.kind ≠ .disputeLost) && decide (row.kind = .disputeLost))))

def awaitsLineage (redemptionId : JsString) : Bool :=
  input.kind.isTerminal && !(isTruthy input.stripeDisputeId &&
    hasLineage store input redemptionId (input.stripeDisputeId.getD []))

def FinancialAdjustmentRow.apply (redemptionId : JsString) (row : FinancialAdjustmentRow) :
    FinancialAdjustmentRow :=
  { row with
    resolvedRedemptionId := some redemptionId
    processingState := .applied
    resolution := some redemptionId }

def latestOf : LatestAdjustment :=
  ⟨input.environment, input.livemode, input.kind, input.fullEconomicReversal.getD false⟩

def recordFact (now : Int) : Outcome (FinancialStore × RecordStatus) := do
  let (inserted, adjustment) ← insertAdjustment rules store input
  assertSameFinancialAdjustmentReplay rules adjustment input
  if adjustment.processingState = .applied then
    ensure (!(isTruthy input.redemptionId) ||
      decide (adjustment.resolvedRedemptionId = input.redemptionId))
      (.discount .financialAdjustmentResolutionConflict
        (js "Referral financial adjustment is already resolved to a different redemption."))
    pure (inserted, .duplicate)
  else if !(isTruthy input.redemptionId) then pure (inserted, .parked)
  else
    let redemptionId := input.redemptionId.getD []
    match inserted.findRedemption redemptionId with
    | none => .error (.other (js "Referral redemption not found: " ++ redemptionId))
    | some row => do
        ensure (row.acquisitionState = .qualified)
          (.discount .financialAdjustmentBeforeQualification
          (js "Referral financial adjustment requires a qualified redemption."))
        if row.firstPaidInvoiceId ≠ some input.stripeInvoiceId then pure (inserted, .parked)
        else if awaitsLineage inserted input redemptionId then pure (inserted, .parked)
        else do
          ensure (adjustment.resolution.all fun resolved => decide (resolved = redemptionId))
            (.discount .financialAdjustmentResolutionConflict (js
              "Referral financial adjustment resolution conflicts with the canonical resolution."))
          let applied := { inserted with
            adjustments := updateRow (·.toAdjustmentKey) adjustment.toAdjustmentKey
              (·.apply redemptionId) inserted.adjustments }
          let (disposition, risk) ←
            foldReferralFinancialDisposition applied redemptionId row (latestOf input)
          let updated ← applied.toReferralStore.updateRedemption row
            { row with
              qualificationDisposition := disposition, financialRisk := risk, updatedAt := now }
          pure ({ applied with toReferralStore := updated }, .recorded)

end Record

structure RowOrder where
  arrange : List FinancialAdjustmentRow → List FinancialAdjustmentRow
  perm : ∀ rows, (arrange rows).Perm rows

def FinancialAdjustmentRow.isParkedTerminal (redemptionId environment : JsString) (livemode : Bool)
    (disputeId : JsString) (row : FinancialAdjustmentRow) : Bool :=
  (decide (row.observedRedemptionId = some redemptionId) &&
    decide (row.environment = environment)) &&
    (decide (row.livemode = livemode) && decide (row.processingState = .parked)) &&
      (decide (row.stripeDisputeId = some disputeId) && row.kind.isTerminal)

def FinancialAdjustmentRow.replay (redemptionId : JsString) (row : FinancialAdjustmentRow) :
    FinancialAdjustmentInput where
  redemptionId := some redemptionId
  environment := row.environment
  livemode := row.livemode
  kind := row.kind
  providerFactId := row.providerFactId
  providerFactSequence := some row.providerFactSequence
  stripeEventId := row.stripeEventId
  stripeInvoiceId := row.stripeInvoiceId
  stripeRefundId := row.stripeRefundId
  stripeCreditNoteId := row.stripeCreditNoteId
  stripeDisputeId := row.stripeDisputeId
  stripeChargeId := row.stripeChargeId
  currency := row.currency
  amount := row.amount
  netRevenueDelta := row.netRevenueDelta
  fullEconomicReversal := some row.fullEconomicReversal

/-- The parked ends of a dispute; none of them opens a dispute, so none recurses further. -/
def applyParkedDisputeTerminalAdjustments (rules : TextRules) (store : FinancialStore)
    (redemptionId environment : JsString) (livemode : Bool) (disputeId : JsString)
    (order : RowOrder)
    (now : Int) : Outcome FinancialStore :=
  (order.arrange (store.adjustments.filter
    (·.isParkedTerminal redemptionId environment livemode disputeId))).foldlM
      (fun store terminal =>
        (recordFact rules store (terminal.replay redemptionId) now).map Prod.fst) store

def recordReferralFinancialAdjustment (rules : TextRules) (store : FinancialStore)
    (input : FinancialAdjustmentInput) (order : RowOrder) (now : Int) :
    Outcome (FinancialStore × RecordStatus) := do
  let (recorded, status) ← recordFact rules store input now
  if decide (status = .recorded) && (decide (input.kind = .disputeOpened) &&
    isTruthy input.stripeDisputeId) then
    let settled ← applyParkedDisputeTerminalAdjustments rules recorded (input.redemptionId.getD [])
      input.environment input.livemode (input.stripeDisputeId.getD []) order now
    pure (settled, status)
  else pure (recorded, status)

end Raft.Referral
