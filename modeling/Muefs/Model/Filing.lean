import Muefs.Model.Calendar

/-!
# Filings

* `FilingEnvelope`, `FilingDocument`, `Payment`, `FilingTransaction`, `DocumentPublicCopy` : the rows of one filing;
* `FilingFile` : a filing with everything that changes only under its envelope's row lock;
* `FilingFile.currentDocuments` : the `documents` relationship: not removed, and not a court's own document;
* `FilingFile.detailsToken`, `FilingFile.submissionToken` : what the client has to send back to change or submit it.
-/

namespace Muefs

/-! ## Enumerations -/

inductive FilingStatus where
  | draft
  | submitted
  | underReview
  | accepted
  | rejected
  | returned
  | served
  deriving DecidableEq, Repr

/-- `filing_type`. The portal writes three of them; older records hold `motion` or something unsupported. -/
inductive FilingType where
  | initial
  | subsequent
  | motion
  | serviceOnly
  | other (name : String)
  deriving DecidableEq, Repr

/-- `event_type` -/
inductive EventType where
  | submitted
  | serviceRecorded
  | accepted
  | rejected
  | returned
  | cmsFailed
  | filingDateAssessed
  | filingDateOrdered
  | waiverReferred
  | waiverGranted
  | waiverDenied
  | feeReviewRequested
  | feeAssessed
  | paymentRecorded
  | feePaymentRecorded
  | feePaymentReversed
  | publicCopyPublished
  | documentWithheld
  deriving DecidableEq, Repr

inductive PaymentStatus where
  | pending
  | completed
  | failed
  | refunded
  | waived
  | reversed
  deriving DecidableEq, Repr

inductive PaymentMethod where
  | creditCard
  | debitCard
  | ach
  | waiver
  deriving DecidableEq, Repr

/-- `FilingFeeState.source` -/
inductive FeeSource where
  | court
  | waiver
  | serviceOnly
  | demo
  | unassessed
  deriving DecidableEq, Repr

/-! ## Documents -/

/-- The key of a stored object: where it belongs and a number drawn for it. -/
inductive FileKey where
  | document (filing : FilingId) (uuid : Nat) (extension : String)
  | order (filing : FilingId) (uuid : Nat)
  | publicCopy (document : DocumentId) (uuid : Nat)
  deriving DecidableEq, Repr

/-- `PRIVATE_DOCUMENT_TYPES` -/
def privateDocumentTypes : List String := ["FEE_WAIVER", "FEE_WAIVER_ORDER"]

/-- `COURT_DOCUMENT_TYPES` -/
def courtDocumentTypes : List String := ["FEE_WAIVER_ORDER", "FILING_DATE_ORDER"]

structure FilingDocument where
  id : DocumentId
  documentTypeCode : String
  title : String
  fileKey : FileKey
  fileSizeBytes : Nat
  mimeType : String
  pageCount : Option Nat
  sha256Hash : Digest Content
  isConfidential : Bool
  isTextSearchable : Bool
  piiWarnings : Option (List String)
  uploadedAt : Instant
  retainedAt : Option Instant := none
  removedAt : Option Instant := none
  accessVersion : Nat := 0
  publicCopyId : Option CopyId := none
  deriving DecidableEq

/-- `FilingDocumentResponse` -/
structure DocumentResponse where
  id : DocumentId
  documentTypeCode : String
  title : String
  fileSizeBytes : Nat
  mimeType : String
  pageCount : Option Nat
  sha256Hash : Digest Content
  isConfidential : Bool
  isTextSearchable : Bool
  uploadedAt : Instant
  deriving DecidableEq

/-- `FilingDocumentResponse.model_validate` -/
def FilingDocument.response (doc : FilingDocument) : DocumentResponse where
  id := doc.id
  documentTypeCode := doc.documentTypeCode
  title := doc.title
  fileSizeBytes := doc.fileSizeBytes
  mimeType := doc.mimeType
  pageCount := doc.pageCount
  sha256Hash := doc.sha256Hash
  isConfidential := doc.isConfidential
  isTextSearchable := doc.isTextSearchable
  uploadedAt := doc.uploadedAt

/-- The condition of the `documents` relationship. -/
def FilingDocument.isCurrent (doc : FilingDocument) : Bool :=
  doc.removedAt.isNone && !courtDocumentTypes.contains doc.documentTypeCode

abbrev Fingerprint := DocumentId × Digest Content × Nat

def FilingDocument.fingerprint (doc : FilingDocument) : Fingerprint := (doc.id, doc.sha256Hash, doc.fileSizeBytes)

def DocumentResponse.fingerprint (doc : DocumentResponse) : Fingerprint := (doc.id, doc.sha256Hash, doc.fileSizeBytes)

@[simp] theorem FilingDocument.response_fingerprint (doc : FilingDocument) :
    doc.response.fingerprint = doc.fingerprint := rfl

structure DocumentPublicCopy where
  id : CopyId
  documentId : DocumentId
  createdBy : UserId
  title : String
  fileKey : FileKey
  fileSizeBytes : Nat
  mimeType : String
  pageCount : Nat
  sha256Hash : Digest Content
  isTextSearchable : Bool
  piiWarnings : List String
  createdAt : Instant
  deriving DecidableEq

/-- `PublicCopyResponse` -/
structure CopyResponse where
  id : CopyId
  documentId : DocumentId
  title : String
  fileSizeBytes : Nat
  mimeType : String
  pageCount : Nat
  sha256Hash : Digest Content
  isTextSearchable : Bool
  piiWarnings : List String
  createdAt : Instant
  deriving DecidableEq

def DocumentPublicCopy.response (copy : DocumentPublicCopy) : CopyResponse where
  id := copy.id
  documentId := copy.documentId
  title := copy.title
  fileSizeBytes := copy.fileSizeBytes
  mimeType := copy.mimeType
  pageCount := copy.pageCount
  sha256Hash := copy.sha256Hash
  isTextSearchable := copy.isTextSearchable
  piiWarnings := copy.piiWarnings
  createdAt := copy.createdAt

/-- The fields that the upload's request key is bound to. -/
structure UploadFields where
  documentTypeCode : String
  title : String
  isConfidential : Bool
  filename : Option String
  contentType : Option String
  size : Nat
  sha256 : Digest Content
  deriving DecidableEq

/-- `DocumentUploadRequest` -/
structure UploadRequest where
  key : Uuid
  fingerprint : Digest UploadFields
  documentId : Option DocumentId
  deriving DecidableEq

/-! ## Fees and payments -/

structure FeeItem where
  feeType : String
  amountCents : Cents
  description : String
  deriving DecidableEq

/-- The fees a payment or credit was entered against. -/
structure FeeBasis where
  source : FeeSource
  assessmentId : Option TransactionId
  version : Nat
  authorityReference : Option String
  items : List FeeItem
  totalCents : Option Cents
  previousPaidCents : Cents
  deriving DecidableEq

/-- The request for an external credit, as its key is bound to it. -/
structure ExternalPaymentFields where
  filingId : FilingId
  actorId : UserId
  expectedFeeVersion : Nat
  expectedPaymentVersion : Nat
  amountCents : Cents
  receiptSystem : String
  receiptReference : String
  receivedAt : Instant
  reason : String
  deriving DecidableEq

structure ExternalReceipt where
  system : String
  reference : String
  receivedAt : Instant
  recordedBy : UserId
  recordedByName : String
  reason : String
  requestSha256 : Digest ExternalPaymentFields
  deriving DecidableEq

/-- What makes two external receipts the same: court, system and reference, without case and spacing. -/
abbrev ReceiptKey := Digest (CourtId × String × String)

structure Payment where
  id : PaymentId
  feeBasis : Option FeeBasis
  externalRequestKey : Option Uuid := none
  externalReceiptKey : Option ReceiptKey := none
  externalReceipt : Option ExternalReceipt := none
  isSimulated : Bool := true
  amountCents : Cents
  status : PaymentStatus
  paymentMethod : Option PaymentMethod := none
  transactionRef : Option String
  payerId : Option UserId
  description : Option String
  processedAt : Option Instant
  deriving DecidableEq

/-! ## The filing's record -/

/-- `filing_date_basis` -/
inductive DateBasis where
  | calendar (assessment : FilingDateAssessment)
  | courtOrder (filingDate : Date) (orderDocumentId : DocumentId) (orderSignedDate : Date)
      (authorityReference : String) (submissionNumber : Nat)
  deriving DecidableEq

/-- `basis.get("source") == "court_order"` -/
def DateBasis.isCourtOrder : DateBasis → Bool
  | .calendar _ => false
  | .courtOrder .. => true

/-- `basis.get("order_document_id")` -/
def DateBasis.orderDocumentId : DateBasis → Option DocumentId
  | .calendar _ => none
  | .courtOrder _ id _ _ _ => some id

structure PaymentSnapshot where
  id : PaymentId
  amountCents : Cents
  transactionRef : Option String
  status : Option PaymentStatus := none
  isSimulated : Bool
  feeBasis : Option FeeBasis := none
  externalReceipt : Option ExternalReceipt := none
  deriving DecidableEq

structure FeeAssessmentSnapshot where
  source : FeeSource
  assessmentId : Option TransactionId
  version : Nat
  authorityReference : Option String
  items : List FeeItem
  totalCents : Option Cents
  paidCents : Cents
  balanceDueCents : Option Cents
  overpaidCents : Cents
  deriving DecidableEq

/-- What only a submission's record holds. -/
structure ReceiptDetails where
  courtId : CourtId
  courtName : String
  caseId : Option CaseId
  caseNumber : Option String
  caseTitle : Option String
  filingType : FilingType
  filingDescription : Option String
  feeWaiverRequested : Bool
  payments : List PaymentSnapshot
  feeAssessment : FeeAssessmentSnapshot
  deriving DecidableEq

/-- What only a court's fee assessment holds. -/
structure AssessmentDetails where
  filingVersion : Nat
  authorityReference : String
  items : List FeeItem
  totalCents : Cents
  previousAssessmentId : Option TransactionId
  previousTotalCents : Option Cents
  deriving DecidableEq

structure CaseDateChange where
  caseId : CaseId
  caseNumber : String
  previousFilingDate : Option Date
  filingDate : Date
  deriving DecidableEq

inductive WaiverAction where
  | grantPublicAssistance
  | grantLegalServices
  | refer
  | grantJudicial
  | denyJudicial
  deriving DecidableEq, Repr

/-- `details` of a transaction; a key that was not written is `none`. -/
structure Details where
  reason : Option String := none
  documents : Option (List DocumentResponse) := none
  filingDateBasis : Option DateBasis := none
  receipt : Option ReceiptDetails := none
  assessment : Option AssessmentDetails := none
  waiverBasis : Option WaiverAction := none
  amountDueCents : Option Cents := none
  payment : Option PaymentSnapshot := none
  previousFilingDate : Option Date := none
  previousFilingDateBasis : Option DateBasis := none
  caseDateChange : Option CaseDateChange := none
  caseId : Option CaseId := none
  cmsCaseNumber : Option String := none
  cmsFilingId : Option String := none
  documentId : Option DocumentId := none
  publicCopy : Option CopyResponse := none
  withdrawnCopyId : Option CopyId := none
  deriving DecidableEq

structure FilingTransaction where
  id : TransactionId
  submissionNumber : Nat
  eventType : EventType
  actorId : UserId
  actorName : String
  occurredAt : Instant
  details : Details
  idempotencyKey : Option Uuid
  deriving DecidableEq

/-! ## The filing -/

/-- The values that `creation_fingerprint` hashes. -/
structure CreationFields where
  courtId : CourtId
  caseId : Option CaseId
  caseTypeId : CaseTypeId
  filingType : FilingType
  caseTitle : Option String
  filingDescription : Option String
  feeWaiverRequested : Bool
  feeWaiverReason : Option String
  deriving DecidableEq

structure FilingEnvelope where
  id : FilingId
  courtId : CourtId
  caseId : Option CaseId
  caseTypeId : CaseTypeId
  filerId : UserId
  creationKey : Option Uuid
  creationSha256 : Option (Digest CreationFields)
  filingType : FilingType
  status : FilingStatus := .draft
  caseTitle : Option String
  filingDescription : Option String
  filedAt : Option Instant := none
  submittedAt : Option Instant := none
  reviewedAt : Option Instant := none
  reviewerId : Option UserId := none
  rejectionReason : Option String := none
  paymentId : Option PaymentId := none
  paymentVersion : Nat := 0
  feeWaiverRequested : Bool
  feeWaiverGranted : Option Bool := none
  feeWaiverReason : Option String
  feeWaiverReferredAt : Option Instant := none
  feeWaiverDecidedAt : Option Instant := none
  feeWaiverAmountDueCents : Option Cents := none
  cmsCaseNumber : Option String := none
  cmsFilingId : Option String := none
  cmsError : Option String := none
  submissionCount : Nat := 0
  filingDate : Option Date := none
  filingDateBasis : Option DateBasis := none
  filingDateVersion : Nat := 0
  feeVersion : Nat := 0
  feeReviewRequestedAt : Option Instant := none
  feeAssessmentId : Option TransactionId := none
  deriving DecidableEq

/-- An envelope with the rows that change only under its lock. Documents stand in the order of their ids, transactions
and payments in the order of their commits. -/
structure FilingFile where
  filing : FilingEnvelope
  documents : List FilingDocument := []
  uploads : List UploadRequest := []
  transactions : List FilingTransaction := []
  payments : List Payment := []
  copies : List DocumentPublicCopy := []
  deriving DecidableEq

/-- The `documents` relationship. -/
def FilingFile.currentDocuments (file : FilingFile) : List FilingDocument :=
  file.documents.filter FilingDocument.isCurrent

/-! ## Tokens -/

/-- The values that `details_token` hashes. -/
structure DetailsValues where
  id : FilingId
  status : FilingStatus
  submissionCount : Nat
  caseTitle : Option String
  filingDescription : Option String
  feeWaiverRequested : Bool
  feeWaiverReason : Option String
  deriving DecidableEq

abbrev DetailsToken := Digest DetailsValues

def FilingEnvelope.detailsToken (filing : FilingEnvelope) : DetailsToken := .of {
  id := filing.id
  status := filing.status
  submissionCount := filing.submissionCount
  caseTitle := filing.caseTitle
  filingDescription := filing.filingDescription
  feeWaiverRequested := filing.feeWaiverRequested
  feeWaiverReason := filing.feeWaiverReason }

/-- The values of one document in `submission_token`. -/
structure DocumentValues where
  id : DocumentId
  documentTypeCode : String
  title : String
  sha256Hash : Digest Content
  fileSizeBytes : Nat
  mimeType : String
  pageCount : Option Nat
  isConfidential : Bool
  isTextSearchable : Bool
  deriving DecidableEq

def FilingDocument.values (doc : FilingDocument) : DocumentValues where
  id := doc.id
  documentTypeCode := doc.documentTypeCode
  title := doc.title
  sha256Hash := doc.sha256Hash
  fileSizeBytes := doc.fileSizeBytes
  mimeType := doc.mimeType
  pageCount := doc.pageCount
  isConfidential := doc.isConfidential
  isTextSearchable := doc.isTextSearchable

/-- The values that `submission_token` hashes. -/
structure SubmissionValues where
  detailsToken : DetailsToken
  courtId : CourtId
  caseId : Option CaseId
  caseTypeId : CaseTypeId
  filingType : FilingType
  feeVersion : Nat
  paymentId : Option PaymentId
  paymentVersion : Nat
  feeWaiverRequested : Bool
  feeWaiverGranted : Option Bool
  feeWaiverReason : Option String
  feeWaiverAmountDueCents : Option Cents
  documents : List DocumentValues
  deriving DecidableEq

abbrev SubmissionToken := Digest SubmissionValues

def FilingFile.submissionToken (file : FilingFile) : SubmissionToken := .of {
  detailsToken := file.filing.detailsToken
  courtId := file.filing.courtId
  caseId := file.filing.caseId
  caseTypeId := file.filing.caseTypeId
  filingType := file.filing.filingType
  feeVersion := file.filing.feeVersion
  paymentId := file.filing.paymentId
  paymentVersion := file.filing.paymentVersion
  feeWaiverRequested := file.filing.feeWaiverRequested
  feeWaiverGranted := file.filing.feeWaiverGranted
  feeWaiverReason := file.filing.feeWaiverReason
  feeWaiverAmountDueCents := file.filing.feeWaiverAmountDueCents
  documents := file.currentDocuments.map FilingDocument.values }

end Muefs
