import Muefs.Model.Filing
import Muefs.Model.People

/-!
# The fee state of a filing

* `paidCents` : the completed payments that count towards a filing;
* `feeState` : source, total, balance and what the viewer may do about them;
* `waiverActions` : the decisions on a fee waiver that are open to a member of the court's staff.
-/

namespace Muefs

structure FilingFeeState where
  filingId : FilingId
  version : Nat
  paymentVersion : Nat
  source : FeeSource
  assessmentId : Option TransactionId
  authorityReference : Option String
  items : List FeeItem
  totalCents : Option Cents
  paidCents : Cents
  balanceDueCents : Option Cents
  overpaidCents : Cents
  reviewRequestedAt : Option Instant
  reviewReason : Option String
  assessmentStale : Bool
  canRequestReview : Bool
  canAssess : Bool
  canPay : Bool
  canRequestWaiver : Bool
  obligationMet : Bool
  paymentsSimulated : Bool
  canManageExternalPayments : Bool
  canRecordExternalPayment : Bool
  deriving DecidableEq

/-- The account for which a fee state is computed. -/
structure Viewer where
  id : UserId
  account : Account

/-- A payment that `fee_state` counts. -/
def Payment.counts (cfg : Settings) (filerId : UserId) (payment : Payment) : Bool :=
  payment.status == .completed && payment.payerId == some filerId && decide (0 < payment.amountCents)
    && (cfg.allowDemoMode || !payment.isSimulated)

def paidCents (cfg : Settings) (file : FilingFile) : Cents :=
  ((file.payments.filter (Payment.counts cfg file.filing.filerId)).map Payment.amountCents).sum

/-- The assessment that the filing refers to. -/
def FilingFile.assessment (file : FilingFile) : Option FilingTransaction :=
  match file.filing.feeAssessmentId with
  | none => none
  | some id => file.transactions.find? fun t => t.id == id && t.eventType == .feeAssessed

/-- `assessment_stale`, before a waiver overrides it. -/
def FilingFile.assessmentStale (file : FilingFile) : Bool :=
  file.filing.feeAssessmentId.isSome &&
    (file.assessment.bind fun t => t.details.assessment).map AssessmentDetails.filingVersion
      != some file.filing.feeVersion

/-- Where the total comes from: source, total, authority and items. -/
structure Pricing where
  source : FeeSource
  totalCents : Option Cents := none
  authorityReference : Option String := none
  items : List FeeItem := []
  deriving DecidableEq

/-- Court pricing, from the assessment. -/
def AssessmentDetails.pricing (a : AssessmentDetails) : Pricing where
  source := .court
  totalCents := some a.totalCents
  authorityReference := some a.authorityReference
  items := a.items

/-- The branches of `fee_state` that set the source. -/
def pricing (cfg : Settings) (file : FilingFile) (caseType : Option CaseType) : Pricing :=
  let filing := file.filing
  if filing.filingType = .serviceOnly then { source := .serviceOnly, totalCents := some 0 }
  else if filing.feeWaiverGranted = some true then { source := .waiver, totalCents := some 0 }
  else
    match filing.feeWaiverGranted, filing.feeWaiverAmountDueCents with
    | some false, some due => {
        source := .waiver
        totalCents := some due
        items := [{
          feeType := "waiver_decision"
          amountCents := due
          description := "Amount due under the signed fee waiver decision" }] }
    | _, _ =>
      match file.assessment.bind fun t => t.details.assessment with
      | some assessment =>
        if file.assessmentStale then { source := .unassessed } else assessment.pricing
      | none =>
        if filing.feeAssessmentId = none ∧ cfg.allowDemoMode = true ∧ filing.feeReviewRequestedAt = none then
          match caseType with
          | some caseType =>
            if filing.filingType = .initial ∨ caseType.filingFeeCents = 0 then {
              source := .demo
              totalCents := some caseType.filingFeeCents
              items := [{
                feeType := "demo_example"
                amountCents := caseType.filingFeeCents
                description := "Synthetic example amount, not court assessed" }] }
            else { source := .unassessed }
          | none => { source := .unassessed }
        else { source := .unassessed }

/-- A fee waiver was requested and is not decided. -/
def FilingEnvelope.waiverPending (filing : FilingEnvelope) : Bool :=
  filing.feeWaiverRequested && filing.feeWaiverGranted.isNone

/-- The later of two transactions in the order of `occurred_at` and `id`. -/
def laterOf (a b : FilingTransaction) : FilingTransaction :=
  if b.occurredAt < a.occurredAt ∨ (b.occurredAt = a.occurredAt ∧ b.id < a.id) then a else b

/-- The reason of the latest request for a fee review. -/
def FilingFile.reviewReason (file : FilingFile) : Option String :=
  match file.transactions.filter fun t => t.eventType == .feeReviewRequested with
  | [] => none
  | t :: ts => (ts.foldl laterOf t).details.reason

/-- Fees can still be reviewed or assessed. -/
def FilingEnvelope.reviewable (filing : FilingEnvelope) : Bool :=
  filing.filingType != .serviceOnly && filing.status != .rejected && filing.status != .served
    && !filing.feeWaiverRequested && filing.feeWaiverGranted.isNone

/-- `fee_state`. The case type is read for the demonstration price only. -/
def feeState (cfg : Settings) (file : FilingFile) (caseType : Option CaseType) (viewer : Option Viewer) :
    FilingFeeState :=
  let filing := file.filing
  let paid := paidCents cfg file
  let price := pricing cfg file caseType
  let ruled := price.source == .waiver || price.source == .serviceOnly
  let balance := price.totalCents.map (· - paid)
  let isOwner := viewer.any fun v => v.id == filing.filerId
  let canManage := viewer.any fun v =>
    v.id == filing.filerId && v.account.user.isActive && v.account.user.userType != .publicUser
  let open_ := filing.status != .rejected && filing.status != .served && !filing.waiverPending
  let canManageExternal := cfg.externalPaymentsEnabled && !isOwner &&
    viewer.any fun v => v.account.isCourtAdministrator filing.courtId
  { filingId := filing.id
    version := filing.feeVersion
    paymentVersion := filing.paymentVersion
    source := price.source
    assessmentId := if ruled then none else file.assessment.map FilingTransaction.id
    authorityReference := price.authorityReference
    items := price.items
    totalCents := price.totalCents
    paidCents := paid
    balanceDueCents := balance
    overpaidCents := (price.totalCents.map fun total => paid - total).getD 0
    reviewRequestedAt := filing.feeReviewRequestedAt
    reviewReason := if filing.feeReviewRequestedAt.isSome then file.reviewReason else none
    assessmentStale := !ruled && file.assessmentStale
    canRequestReview := filing.reviewable && canManage && filing.feeReviewRequestedAt.isNone
    canAssess := filing.reviewable && !isOwner && viewer.any fun v => v.account.isCourtStaff filing.courtId
    canPay := canManage && decide (0 < balance.getD 0) && open_
    canRequestWaiver := canManage && filing.submittedAt.isNone && filing.feeWaiverGranted.isNone
      && filing.filingType != .serviceOnly && filing.status == .draft
    obligationMet := balance == some 0 || filing.waiverPending
    paymentsSimulated := cfg.paymentsAreSimulated && cfg.allowDemoMode
    canManageExternalPayments := canManageExternal
    canRecordExternalPayment := canManageExternal && (price.source == .court || price.source == .waiver)
      && decide (0 < balance.getD 0) && open_ }

/-- What a payment or credit is entered against. -/
def FilingFeeState.basis (fees : FilingFeeState) : FeeBasis where
  source := fees.source
  assessmentId := fees.assessmentId
  version := fees.version
  authorityReference := fees.authorityReference
  items := fees.items
  totalCents := fees.totalCents
  previousPaidCents := fees.paidCents

/-- `waiver_state`'s `allowed_actions` -/
def waiverActions (filing : FilingEnvelope) (userId : UserId) (account : Account) : List WaiverAction :=
  if filing.waiverPending && filing.submittedAt.isSome && filing.filerId != userId
      && filing.status != .rejected && filing.status != .served then
    (if account.hasRole filing.courtId .judge then [.grantJudicial, .denyJudicial] else []) ++
    if account.hasRole filing.courtId .clerk && filing.feeWaiverReferredAt.isNone then
      [.grantPublicAssistance, .grantLegalServices, .refer]
    else []
  else []

end Muefs
