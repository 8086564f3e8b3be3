import Muefs.Portal.Filings

/-!
# Fee reviews, assessments, waivers and payments

* `requestFeeReview`, `assessFees` : the filer asks, a member of the court's staff answers;
* `decideFeeWaiver` : referral, grant and denial of a fee waiver;
* `processPayment` : a (simulated) payment through the portal;
* `recordExternalPayment`, `reverseExternalPayment` : a credit from a receipt of another system, and its reversal.
-/

namespace Muefs
open RowLocks

/-! ## Review and assessment -/

/-- `FeeReviewRequest` -/
structure FeeReviewRequest where
  expectedVersion : Nat
  reason : String

/-- `POST /filings/{filing_id}/fee-review`. Its nested transaction ends with the request. -/
def requestFeeReview (cfg : Settings) (userId : UserId) (filingId : FilingId) (data : FeeReviewRequest) :
    Portal Response := do
  signedInFiler userId
  require (strip data.reason ≠ "") (.http 422 "Explain the requested fee review")
  let account ← lockFiler userId
  let row ← lockFiling filingId
  let file ← expect row (.http 404 "Filing not found")
  require (file.filing.filerId = userId) (.http 403 "Only the filer may request this fee review")
  let caseType ← look (.caseType file.filing.caseTypeId)
  require ((feeState cfg file caseType (some ⟨userId, account⟩)).canRequestReview = true ∧
      file.filing.feeVersion = data.expectedVersion)
    (.http 409 "This fee record changed. Refresh before requesting review")
  verifyFilingDocuments file none
  let time ← now
  let claimed := { file with filing := { file.filing with
    feeVersion := file.filing.feeVersion + 1
    feeReviewRequestedAt := some time } }
  let (saved, _) ← recordTransaction cfg (claimed.retain time) .feeReviewRequested userId (some (strip data.reason))
    none { documents := some file.documentResponses }
  saveFiling filingId saved
  let caseType ← look (.caseType file.filing.caseTypeId)
  return .fees (feeState cfg saved caseType (some ⟨userId, account⟩))

/-- `FeeAssessmentRequest` -/
structure FeeAssessmentRequest where
  expectedVersion : Nat
  authorityReference : String
  reason : String
  items : List FeeItem

def FeeAssessmentRequest.total (data : FeeAssessmentRequest) : Cents := (data.items.map FeeItem.amountCents).sum

/-- `POST /clerk/filings/{filing_id}/fees`. Its nested transaction ends with the request. -/
def assessFees (cfg : Settings) (userId : UserId) (filingId : FilingId) (data : FeeAssessmentRequest) :
    Portal Response := do
  require (data.total ≤ 100000000) (.http 422 "The assessment total exceeds the supported amount")
  let account ← lockCurrentUser userId
  let row ← lockFiling filingId
  let file ← expect row (.http 404 "Filing not found")
  require (account.isCourtStaff file.filing.courtId = true)
    (.http 403 "Not authorized to assess fees for this court")
  require (file.filing.filerId ≠ userId)
    (.http 403 "Another court reviewer must assess fees for your own filing")
  let caseType ← look (.caseType file.filing.caseTypeId)
  let fees := feeState cfg file caseType (some ⟨userId, account⟩)
  require (fees.canAssess = true ∧ file.filing.feeVersion = data.expectedVersion)
    (.http 409 "This fee record changed or is governed by a waiver decision. Refresh it")
  verifyFilingDocuments file none
  let time ← now
  let claimed := { file with filing := { file.filing with
    feeVersion := file.filing.feeVersion + 1
    feeReviewRequestedAt := none } }
  let (saved, t) ← recordTransaction cfg (claimed.retain time) .feeAssessed userId (some data.reason) none {
    documents := some file.documentResponses
    assessment := some {
      filingVersion := data.expectedVersion + 1
      authorityReference := data.authorityReference
      items := data.items
      totalCents := data.total
      previousAssessmentId := fees.assessmentId
      previousTotalCents := fees.totalCents } }
  let saved := { saved with filing := { saved.filing with feeAssessmentId := some t.id } }
  saveFiling filingId saved
  let caseType ← look (.caseType file.filing.caseTypeId)
  return .fees (feeState cfg saved caseType (some ⟨userId, account⟩))

/-! ## Waivers -/

/-- `_decidable_filing`, on the row it read, with the account as it is read then -/
def decidableFiling (row : Option FilingFile) (userId : UserId) (account : Option Account) (action : WaiverAction)
    (expectedFeeVersion : Nat) : Portal FilingFile := do
  let file ← expect row (.http 404 "Filing not found")
  let roles := account.getD { user := { email := "", firstName := "", lastName := "", userType := .publicUser } }
  require (roles.isCourtStaff file.filing.courtId = true) (.http 403 "Not authorized for this court")
  require (file.filing.waiverPending = true) (.http 409 "There is no undecided fee waiver request")
  require (action ∈ waiverActions file.filing userId roles)
    (.http 403 "This waiver action requires the appropriate court role and pending request")
  require (file.filing.feeVersion = expectedFeeVersion)
    (.http 409 "The fee waiver request changed. Refresh and review it before deciding")
  return file

/-- The form of a waiver decision. -/
structure WaiverForm where
  action : WaiverAction
  reason : String := ""
  amountDueCents : Option Cents := none
  expectedFeeVersion : Nat
  file : Option Upload := none

/-- The event of a decision. -/
def WaiverAction.event : WaiverAction → EventType
  | .refer => .waiverReferred
  | .denyJudicial => .waiverDenied
  | _ => .waiverGranted

/-- `_record_decision` without a document: a referral. -/
def recordReferral (cfg : Settings) (filingId : FilingId) (file : FilingFile) (userId : UserId) (reason : String) :
    Portal Response := do
  let time ← now
  let (saved, _) ← recordTransaction cfg { file with filing := { file.filing with
    feeVersion := file.filing.feeVersion + 1
    feeReviewRequestedAt := none
    feeWaiverReferredAt := some time } } .waiverReferred userId (some reason) none { waiverBasis := some .refer }
  saveFiling filingId saved
  return .filing saved

/-- `_record_decision` with the signed decision. -/
def recordDecision (cfg : Settings) (filingId : FilingId) (file : FilingFile) (userId : UserId) (form : WaiverForm)
    (doc : FilingDocument) : Portal Response := do
  let time ← now
  let doc ← insertDocument filingId doc
  let granted := form.action != .denyJudicial
  let due := if granted = true then some 0 else form.amountDueCents
  let (saved, _) ← recordTransaction cfg { file with
    filing := { file.filing with
      feeVersion := file.filing.feeVersion + 1
      feeReviewRequestedAt := none
      feeWaiverGranted := some granted
      feeWaiverDecidedAt := some time
      feeWaiverAmountDueCents := due }
    documents := file.documents ++ [doc] } form.action.event userId (some (strip form.reason)) none {
      waiverBasis := some form.action
      documents := some [doc.response]
      amountDueCents := due }
  saveFiling filingId saved
  return .filing saved

/-- The part of `decide_fee_waiver` that holds locks. -/
def decideLocked (userId : UserId) (filingId : FilingId) (form : WaiverForm)
    (record : FilingFile → Portal Response) : Portal Response := do
  let account ← lockCurrentUser userId
  let row ← lockFiling filingId
  let file ← decidableFiling row userId (some account) form.action form.expectedFeeVersion
  record file

/-- `POST /clerk/filings/{filing_id}/fee-waiver` -/
def decideFeeWaiver (cfg : Settings) (userId : UserId) (filingId : FilingId) (form : WaiverForm) :
    Portal Response := do
  let row ← getFiling filingId
  let account ← look (.user userId)
  let _ ← decidableFiling row userId account form.action form.expectedFeeVersion
  require (form.action ≠ .denyJudicial ∨ (strip form.reason ≠ "" ∧ form.amountDueCents ≠ none))
    (.http 400 "Denial requires the order's reason and amount due")
  require (form.action = .refer ∨ form.file.isSome = true)
    (.http 400 "Attach the signed waiver or judicial order as a PDF")
  match form.file with
  | none => decideLocked userId filingId form fun file => recordReferral cfg filingId file userId (strip form.reason)
  | some upload => do
    require (form.action ≠ .refer) (.http 400 "Referral does not enter a court decision")
    let doc ← storeDocumentUpload cfg filingId upload "FEE_WAIVER_ORDER" "Signed fee waiver decision" true
    (decideLocked userId filingId form fun file => recordDecision cfg filingId file userId form doc).onRaise
      (act doc.fileKey none)

/-! ## Portal payments -/

/-- `PaymentProcessRequest` -/
structure PaymentProcessRequest where
  envelopeId : FilingId
  expectedFeeVersion : Nat
  paymentMethod : PaymentMethod
  amountCents : Cents
  positive : 0 < amountCents

/-- `payment_service.process_payment` -/
def makePayment (cfg : Settings) (data : PaymentProcessRequest) (payerId : UserId) (basis : FeeBasis) :
    Portal Payment := do
  require (cfg.paymentsAreSimulated = true ∧ cfg.allowDemoMode = true) (.paymentsNotConfigured
    ("Payment processing is not configured. Set PAYMENTS_ARE_SIMULATED=true " ++
      "only for demonstration, or wire a payment processor."))
  let id ← newId
  let ref ← newId
  let time ← now
  return {
    id
    feeBasis := some basis
    amountCents := data.amountCents
    status := .completed
    paymentMethod := some data.paymentMethod
    payerId := some payerId
    description := some ("[SIMULATED: no funds moved] Filing #" ++ toString data.envelopeId)
    transactionRef := some ("MUEFS-" ++ toString ref)
    processedAt := some time }

/-- `POST /payments/process` -/
def processPayment (cfg : Settings) (userId : UserId) (data : PaymentProcessRequest) : Portal Response := do
  signedInFiler userId
  let account ← lockFiler userId
  let row ← lockFiling data.envelopeId
  let file ← expect row (.http 404 "Filing not found")
  require (file.filing.filerId = userId) (.http 403 "Not authorized to pay for this filing")
  let caseType ← look (.caseType file.filing.caseTypeId)
  let fees := feeState cfg file caseType (some ⟨userId, account⟩)
  require (fees.version = data.expectedFeeVersion)
    (.http 409 "The fee record changed. Refresh and review it before payment")
  let due ← expect fees.balanceDueCents (.http 409 "A current court fee assessment is required before payment")
  require (fees.canPay = true) (.http 409 "This filing is not awaiting payment")
  require (data.amountCents = due) (.http 400 ("Payment amount (" ++ toString data.amountCents ++
    ") does not match amount due (" ++ toString due ++ ")"))
  let payment ← makePayment cfg data userId fees.basis
  let (saved, _) ← recordTransaction cfg { file with
    filing := { file.filing with
      paymentId := some payment.id
      paymentVersion := file.filing.paymentVersion + 1 }
    payments := file.payments ++ [payment] } .paymentRecorded userId none none {
      payment := some {
        id := payment.id
        amountCents := payment.amountCents
        transactionRef := payment.transactionRef
        isSimulated := payment.isSimulated
        feeBasis := some fees.basis } }
  saveFiling data.envelopeId saved
  return .payment payment

/-! ## External credits -/

/-- `ExternalPaymentRequest` -/
structure ExternalPaymentRequest where
  expectedFeeVersion : Nat
  expectedPaymentVersion : Nat
  amountCents : Cents
  receiptSystem : String
  receiptReference : String
  receivedAt : Instant
  reason : String
  positive : 0 < amountCents
  reasonGiven : reason ≠ "" := by decide

/-- `request_sha256` -/
def ExternalPaymentRequest.fingerprint (data : ExternalPaymentRequest) (filingId : FilingId) (actorId : UserId) :
    Digest ExternalPaymentFields := .of {
  filingId
  actorId
  expectedFeeVersion := data.expectedFeeVersion
  expectedPaymentVersion := data.expectedPaymentVersion
  amountCents := data.amountCents
  receiptSystem := data.receiptSystem
  receiptReference := data.receiptReference
  receivedAt := data.receivedAt
  reason := data.reason }

/-- `receipt_key` of `record_external_payment` -/
def receiptKey (cfg : Settings) (courtId : CourtId) (system reference : String) : ReceiptKey :=
  .of (courtId, spaced (cfg.casefold system), spaced (cfg.casefold reference))

/-- `lock_payment_filing` -/
def lockPaymentFiling (cfg : Settings) (filingId : FilingId) (userId : UserId) : Portal (FilingFile × Account) := do
  let account ← lockCurrentUser userId
  let row ← lockFiling filingId
  let file ← expect row (.http 404 "Filing not found")
  require (userId ≠ file.filing.filerId ∧ account.isCourtAdministrator file.filing.courtId = true)
    (.http 403 "A separate administrator assigned to this court is required")
  require (cfg.externalPaymentsEnabled = true)
    (.http 503 "External payment recording is not enabled for this deployment")
  return (file, account)

/-- The refusal after an `IntegrityError` of `record_external_payment`. -/
def duplicateCredit (key : Uuid) (receipt : ReceiptKey) : Portal Response := do
  let duplicate ← look (.externalReceipt receipt)
  let requested ← look (.externalRequest key)
  match duplicate with
  | some ref => .raise (.http 409 ("This receipt is already credited to filing #" ++ toString ref.envelopeId ++
      ". Review its payment records before entering another credit"))
  | none =>
    if requested.isSome = true then .raise (.http 409 "This request key was already used for another payment")
    else .raise (.integrity "payments")

/-- The external credit that `record_external_payment` inserts. -/
def externalCredit (cfg : Settings) (data : ExternalPaymentRequest) (file : FilingFile) (actorId : UserId)
    (account : Account) (key : Uuid) (basis : FeeBasis) (id : PaymentId) : Payment where
  id := id
  feeBasis := some basis
  externalRequestKey := some key
  externalReceiptKey := some (receiptKey cfg file.filing.courtId data.receiptSystem data.receiptReference)
  externalReceipt := some {
    system := data.receiptSystem
    reference := data.receiptReference
    receivedAt := data.receivedAt
    recordedBy := actorId
    recordedByName := account.user.fullName
    reason := data.reason
    requestSha256 := data.fingerprint file.filing.id actorId }
  isSimulated := cfg.allowDemoMode
  amountCents := data.amountCents
  status := .completed
  payerId := some file.filing.filerId
  description := some "Credit from an external receipt; no funds moved by this portal"
  transactionRef := some ("MUEFS-EXT-" ++ toString key)
  processedAt := some data.receivedAt

/-- The nested transaction of `record_external_payment`. An `IntegrityError` in it ends the request. -/
def insertCredit (cfg : Settings) (filingId : FilingId) (data : ExternalPaymentRequest) (file : FilingFile)
    (actorId : UserId) (account : Account) (key : Uuid) (basis : FeeBasis) : Portal Response := do
  let receipt := receiptKey cfg file.filing.courtId data.receiptSystem data.receiptReference
  let requested ← lockUpdate (.externalRequest key)
  let credited ← lockUpdate (.externalReceipt receipt)
  if requested.isSome = true ∨ credited.isSome = true then duplicateCredit key receipt
  else do
    let id ← newId
    let payment := externalCredit cfg data file actorId account key basis id
    let (saved, _) ← recordTransaction cfg { file with
      filing := { file.filing with
        paymentId := some id
        paymentVersion := file.filing.paymentVersion + 1 }
      payments := file.payments ++ [payment] } .feePaymentRecorded actorId (some data.reason) none {
        payment := some {
          id
          amountCents := payment.amountCents
          transactionRef := payment.transactionRef
          isSimulated := payment.isSimulated
          feeBasis := some basis
          externalReceipt := payment.externalReceipt } }
    let ref : CreditRef := ⟨filingId, id, data.fingerprint file.filing.id actorId⟩
    write (.externalRequest key) fun _ => some ref
    write (.externalReceipt receipt) fun _ => some ref
    saveFiling filingId saved
    return .payment payment

/-- `POST /filings/{filing_id}/external-payments` -/
def recordExternalPayment (cfg : Settings) (userId : UserId) (filingId : FilingId) (key : Uuid)
    (data : ExternalPaymentRequest) : Portal Response := do
  let (file, account) ← lockPaymentFiling cfg filingId userId
  let previous ← look (.externalRequest key)
  match previous with
  | some ref => do
    require (ref.envelopeId = filingId ∧ ref.requestSha256 = data.fingerprint file.filing.id userId)
      (.http 409 "This request key was already used for a different payment record")
    let payment ← expect (file.payments.find? fun p => p.id == ref.paymentId)
      (.http 409 "This request key was already used for a different payment record")
    return .payment payment
  | none => do
    let time ← now
    require (data.receivedAt ≤ time) (.http 422 "The external receipt time cannot be in the future")
    let caseType ← look (.caseType file.filing.caseTypeId)
    let fees := feeState cfg file caseType (some ⟨userId, account⟩)
    require (data.expectedFeeVersion = fees.version ∧ data.expectedPaymentVersion = fees.paymentVersion)
      (.http 409 "The fee or payment record changed. Refresh and review it before recording a credit")
    require (fees.canRecordExternalPayment = true)
      (.http 409 "No unpaid court-assessed or denied-waiver amount is available for this credit")
    let due ← expect fees.balanceDueCents
      (.http 409 "No unpaid court-assessed or denied-waiver amount is available for this credit")
    require (data.amountCents ≤ due) (.http 409 "The credit exceeds this filing's current amount due")
    insertCredit cfg filingId data file userId account key fees.basis

/-- `ExternalPaymentReversal` -/
structure ExternalPaymentReversal where
  expectedPaymentVersion : Nat
  reason : String
  reasonGiven : reason ≠ "" := by decide

/-- Set a payment's status. -/
def FilingFile.setStatus (file : FilingFile) (id : PaymentId) (status : PaymentStatus) : FilingFile :=
  { file with payments := file.payments.map fun p => if p.id = id then { p with status } else p }

section Fields

variable (file : FilingFile) (id : PaymentId) (status : PaymentStatus)

@[simp] theorem FilingFile.setStatus_filing : (file.setStatus id status).filing = file.filing := rfl
@[simp] theorem FilingFile.setStatus_documents : (file.setStatus id status).documents = file.documents := rfl
@[simp] theorem FilingFile.setStatus_transactions : (file.setStatus id status).transactions = file.transactions := rfl
@[simp] theorem FilingFile.setStatus_copies : (file.setStatus id status).copies = file.copies := rfl

end Fields

/-- A payment that is no longer completed leaves `uq_payment_external_receipt`. -/
def releaseReceipt : Option ReceiptKey → Portal Unit
  | some receipt => do
    let _ ← lockUpdate (.externalReceipt receipt)
    write (.externalReceipt receipt) fun _ => none
  | none => return ()

/-- `POST /filings/{filing_id}/external-payments/{payment_id}/reverse` -/
def reverseExternalPayment (cfg : Settings) (userId : UserId) (filingId : FilingId) (paymentId : PaymentId)
    (data : ExternalPaymentReversal) : Portal Response := do
  let (file, _) ← lockPaymentFiling cfg filingId userId
  let payment ← expect (file.payments.find? fun p => p.id == paymentId && p.externalRequestKey.isSome)
    (.http 404 "External payment credit not found")
  if payment.status = .reversed then return .payment payment
  else do
    require (payment.status = .completed) (.http 409 "This payment is not an active external credit")
    require (file.filing.paymentVersion = data.expectedPaymentVersion)
      (.http 409 "The payment record changed. Refresh before reversing the credit")
    let reversed := { file.setStatus paymentId .reversed with
      filing := { file.filing with paymentVersion := file.filing.paymentVersion + 1 } }
    let (saved, _) ← recordTransaction cfg reversed .feePaymentReversed userId (some data.reason) none {
      payment := some {
        id := payment.id
        amountCents := payment.amountCents
        transactionRef := payment.transactionRef
        isSimulated := payment.isSimulated
        externalReceipt := payment.externalReceipt } }
    releaseReceipt payment.externalReceiptKey
    saveFiling filingId saved
    return .payment { payment with status := .reversed }

end Muefs
