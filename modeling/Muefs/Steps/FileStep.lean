import Muefs.Steps.Accounts

/-!
# What a commit can do

* `Created`, `FileStep` : a new filing, and every change of a filing, each with what its request had read and locked;
* `RowStep` : the change of any row; `Changes` : every row that a commit changes, changes in one of these ways.

`db` is the store before the commit, `db'` the store after it, `tr` the trace of the request `r`. All that a claim about
the code needs of an endpoint is read off here; the endpoints' programs are opened once, where they are shown to make
these changes and no others.
-/

namespace Muefs
open RowLocks

/-! ## What a request knew -/

def Seen (tr : Trace) (f : FilingId) (file : FilingFile) : Prop := ⟨.look (.envelope f), some file⟩ ∈ tr

/-- The account in the store, active. -/
structure Active (db : Store) (userId : UserId) (account : Account) : Prop where
  stored : db (.user userId) = some account
  active : account.user.isActive = true

/-- The account in the store, active and not public. -/
structure ActiveFiler (db : Store) (userId : UserId) (account : Account) : Prop extends Active db userId account where
  notPublic : account.user.userType ≠ .publicUser

/-- An active account with this right in the court of the filing, which is not its own. -/
structure Staff (db : Store) (userId : UserId) (may : Account → CourtId → Bool) (file : FilingFile) : Prop where
  account : ∃ account, Active db userId account ∧ may account file.filing.courtId = true
  other : file.filing.filerId ≠ userId

/-- The filing's current documents are those of a read in this trace, and their stored bytes, and no others, were read
and matched. -/
structure Matched (tr : Trace) (f : FilingId) (file seen : FilingFile) : Prop where
  looked : Seen tr f seen
  nonempty : seen.currentDocuments ≠ []
  verified : ∀ doc ∈ seen.currentDocuments, Verified tr doc
  only : ReadsOnly tr seen.currentDocuments
  same : file.currentDocuments.map FilingDocument.fingerprint = seen.currentDocuments.map FilingDocument.fingerprint

/-- The case type was read to price the filing. -/
def Priced (tr : Trace) (filing : FilingEnvelope) (caseType : Option CaseType) : Prop :=
  ⟨.look (.caseType filing.caseTypeId), caseType⟩ ∈ tr

def Scheduled (tr : Trace) (filing : FilingEnvelope) (calendars : List CourtCalendar) : Prop :=
  ⟨.look (.calendars filing.courtId), calendars⟩ ∈ tr

def FileKey.uuid : FileKey → Nat
  | .document _ uuid _ | .order _ uuid | .publicCopy _ uuid => uuid

/-- A document that this request inserts, under numbers it drew. -/
structure NewDocument (tr : Trace) (doc : FilingDocument) : Prop where
  id_new : ⟨.fresh, doc.id⟩ ∈ tr
  key_new : ⟨.fresh, doc.fileKey.uuid⟩ ∈ tr
  current : doc.removedAt = none
  unpublished : doc.publicCopyId = none

/-! ## New filings -/

/-- A filing that a request creates. -/
structure Created (r : Request) (db : Store) (tr : Trace) (f : FilingId) (userId : UserId)
    (data : FilingEnvelopeCreate) (key : Uuid) (file' : FilingFile) : Prop where
  request : r = .createFiling userId data key
  filer : ∃ account, ActiveFiler db userId account ∧ Accepts db data.destination ⟨userId, account⟩
  drew : ⟨.fresh, f⟩ ∈ tr
  unrecorded : db (.creationKey userId key) = none
  file_eq : file' = { filing := newEnvelope f userId data key (data.caseId.bind fun id => db (.case id)) }

/-! ## Changes of a filing -/

/-- What `update_details` checked. -/
structure Editable (file : FilingFile) (data : FilingEnvelopeUpdate) : Prop where
  loaded : data.expectedDetailsToken = none ∨ data.expectedDetailsToken = some file.filing.detailsToken
  isOpen : file.filing.status.isOpen = true
  waiver : file.filing.submittedAt = none ∨
    ((data.feeWaiverRequested = none ∨ data.feeWaiverRequested = some file.filing.feeWaiverRequested) ∧
      (data.feeWaiverReason = none ∨ data.feeWaiverReason = file.filing.feeWaiverReason))

/-- What `upload_document` checked, the document, and the record of its request key. -/
structure Uploadable (tr : Trace) (file : FilingFile) (userId : UserId) (key : Uuid) (form : UploadForm)
    (upload : Upload) (doc : FilingDocument) (request : UploadRequest) : Prop where
  isOpen : file.filing.status.isOpen = true
  filer : file.filing.filerId = userId
  unrecorded : file.uploadRequest key = none
  recorded : request = {
    key
    fingerprint := form.fingerprint upload doc.sha256Hash doc.fileSizeBytes
    documentId := some doc.id }
  stored : doc.sha256Hash = .of upload.content ∧ doc.fileSizeBytes = upload.content.length
  new : NewDocument tr doc
  unretained : doc.retainedAt = none
  notCourt : courtDocumentTypes.contains doc.documentTypeCode = false

/-- What `remove_document` checked. -/
structure Removable (file : FilingFile) (documentId : DocumentId) (doc : FilingDocument) : Prop where
  isOpen : file.filing.status.isOpen = true
  mem : doc ∈ file.currentDocuments
  id_eq : doc.id = documentId

/-- What `request_fee_review` checked. -/
structure Reviewable (tr : Trace) (file : FilingFile) (userId : UserId) : Prop where
  filer : file.filing.filerId = userId
  reviewable : file.filing.reviewable = true
  unrequested : file.filing.feeReviewRequestedAt = none
  verified : ∀ doc ∈ file.currentDocuments, Verified tr doc

/-- What `assess_fees` checked, and the assessment. -/
structure Assessable (db : Store) (tr : Trace) (file : FilingFile) (userId : UserId) (data : FeeAssessmentRequest)
    (a : AssessmentDetails) : Prop where
  staff : Staff db userId Account.isCourtStaff file
  reviewable : file.filing.reviewable = true
  verified : ∀ doc ∈ file.currentDocuments, Verified tr doc
  version : a.filingVersion = file.filing.feeVersion + 1
  total : a.totalCents = data.total

/-- What `_decidable_filing` checked under the lock. -/
structure WaiverOpen (db : Store) (file : FilingFile) (userId : UserId) (action : WaiverAction) (expected : Nat) :
    Prop where
  staff : Staff db userId Account.isCourtStaff file
  version : file.filing.feeVersion = expected
  account : ∃ account, Active db userId account ∧ action ∈ waiverActions file.filing userId account
  pending : file.filing.waiverPending = true

/-- What a decision comes with: the amount due, and the signed order. -/
structure WaiverDecidable (db : Store) (tr : Trace) (file : FilingFile) (userId : UserId) (form : WaiverForm)
    (due : Option Cents) (doc : FilingDocument) : Prop
    extends WaiverOpen db file userId form.action form.expectedFeeVersion where
  granted : form.action ≠ .denyJudicial → due = some 0
  denied : form.action = .denyJudicial → due = form.amountDueCents ∧ due ≠ none
  new : NewDocument tr doc
  retained : doc.retainedAt.isSome = true
  type_eq : doc.documentTypeCode = "FEE_WAIVER_ORDER"

/-- What `process_payment` checked, and the payment. -/
structure Payable (cfg : Settings) (db : Store) (tr : Trace) (file : FilingFile) (userId : UserId)
    (caseType : Option CaseType) (payment : Payment) : Prop where
  filer : file.filing.filerId = userId
  priced : Priced tr file.filing caseType
  due : (feeState cfg file caseType none).balanceDueCents = some payment.amountCents
  demo : cfg.allowDemoMode = true
  id_new : ⟨.fresh, payment.id⟩ ∈ tr
  positive : 0 < payment.amountCents
  completed : payment.status = .completed
  payer : payment.payerId = some userId
  simulated : payment.isSimulated = true
  notExternal : payment.externalRequestKey = none ∧ payment.externalReceiptKey = none

/-- What `record_external_payment` checked; `ref` is the index entry of the credit. -/
structure Creditable (cfg : Settings) (db db' : Store) (tr : Trace) (f : FilingId) (file : FilingFile)
    (userId : UserId) (key : Uuid) (data : ExternalPaymentRequest) (caseType : Option CaseType) (id : PaymentId) :
    Prop where
  staff : Staff db userId Account.isCourtAdministrator file
  priced : Priced tr file.filing caseType
  due : ∃ due, (feeState cfg file caseType none).balanceDueCents = some due ∧ data.amountCents ≤ due
  id_new : ⟨.fresh, id⟩ ∈ tr
  keyFree : db (.externalRequest key) = none
  receiptFree : db (.externalReceipt (receiptKey cfg file.filing.courtId data.receiptSystem data.receiptReference)) =
    none
  keyTaken : db' (.externalRequest key) = some ⟨f, id, data.fingerprint file.filing.id userId⟩
  receiptTaken :
    db' (.externalReceipt (receiptKey cfg file.filing.courtId data.receiptSystem data.receiptReference)) =
      some ⟨f, id, data.fingerprint file.filing.id userId⟩

/-- What `reverse_external_payment` checked. -/
structure Reversible (db db' : Store) (file : FilingFile) (userId : UserId) (paymentId : PaymentId)
    (payment : Payment) : Prop where
  staff : Staff db userId Account.isCourtAdministrator file
  found : file.payments.find? (fun p => p.id == paymentId && p.externalRequestKey.isSome) = some payment
  completed : payment.status = .completed
  released : ∀ k, payment.externalReceiptKey = some k → db' (.externalReceipt k) = none

/-- What `submit_filing` checked. -/
structure Submittable (cfg : Settings) (db : Store) (tr : Trace) (f : FilingId) (file seen : FilingFile)
    (userId : UserId) (key : Option Uuid) (token : SubmissionToken) (caseType : Option CaseType) : Prop where
  owner : ∃ seen, Seen tr f seen ∧ seen.filing.filerId = userId
  filer : ∃ account, ActiveFiler db userId account ∧
    Accepts db file.filing.destination ⟨file.filing.filerId, account⟩
  isOpen : file.filing.status.isOpen = true
  unrecorded : file.hasKey key = false
  token_eq : token = file.submissionToken
  priced : Priced tr file.filing caseType
  obligation : (feeState cfg file caseType none).obligationMet = true
  matched : Matched tr f file seen

/-- The filing date of a submission: assessed if there was none, else the one there was. -/
inductive SubmittedDate (cfg : Settings) (tr : Trace) (filing : FilingEnvelope) (filedAt : Instant) :
    Option Date → Option DateBasis → Prop where
  | assessed (calendars : List CourtCalendar) (assessment : FilingDateAssessment) (hcal : Scheduled tr filing calendars)
      (hassess : filingDateForReceipt cfg calendars filedAt = .ok assessment) (hnone : filing.filingDate = none)
      (hcourt : filing.filingType ≠ .serviceOnly) :
      SubmittedDate cfg tr filing filedAt assessment.filingDate (some (.calendar assessment))
  | kept (h : filing.filingType = .serviceOnly ∨ filing.filingDate ≠ none) :
      SubmittedDate cfg tr filing filedAt filing.filingDate filing.filingDateBasis

theorem SubmittedDate.mono {cfg : Settings} {tr tr' : Trace} {filing : FilingEnvelope} {filedAt : Instant}
    {date : Option Date} {basis : Option DateBasis} (h : SubmittedDate cfg tr filing filedAt date basis)
    (htr : ∀ e ∈ tr, e.Heard → e ∈ tr') : SubmittedDate cfg tr' filing filedAt date basis := by
  cases h with
  | assessed calendars assessment hcal hassess hnone hcourt =>
    exact .assessed calendars assessment (htr _ hcal trivial) hassess hnone hcourt
  | kept h => exact .kept h

/-- The request is a review of the filing with this action. -/
inductive Reviews (f : FilingId) (userId : UserId) (count : Nat) : ReviewAction → Request → Prop where
  | single (data : ClerkReviewRequest) (cms : Cms) (hcount : data.expectedSubmissionCount = count) :
      Reviews f userId count data.action (.reviewFiling userId f data cms)
  | batch (data : BatchReviewRequest) (cms : Cms) (hitem : ⟨f, count⟩ ∈ data.filings) :
      Reviews f userId count .accept (.batchReviewFilings userId data cms)

theorem Reviews.request {f : FilingId} {userId : UserId} {count : Nat} {action : ReviewAction} {r : Request}
    (h : Reviews f userId count action r) :
    (∃ data cms, r = .reviewFiling userId f data cms ∧ data.action = action ∧ data.expectedSubmissionCount = count) ∨
      ∃ data cms, r = .batchReviewFilings userId data cms ∧ action = .accept ∧ ⟨f, count⟩ ∈ data.filings := by
  cases h with
  | single data cms hcount => exact .inl ⟨data, cms, rfl, rfl, hcount⟩
  | batch data cms hitem => exact .inr ⟨data, cms, rfl, rfl, hitem⟩

/-- What every review checked. -/
structure InReview (db : Store) (tr : Trace) (f : FilingId) (file : FilingFile) (userId : UserId) (count : Nat) :
    Prop where
  staff : ∃ seen, Seen tr f seen ∧ Staff db userId Account.isCourtStaff seen
  inReview : file.filing.status.inReview = true
  count_eq : file.filing.submissionCount = count

/-- What an acceptance verified before its lock: the filing `seen`, and the order behind its date. -/
structure Examined (tr : Trace) (f : FilingId) (seen : FilingFile) (order : Option FilingDocument) : Prop where
  envelope : ∃ rows, Seen tr f rows ∧ rows.filing = seen.filing
  documents : ∃ rows, Seen tr f rows ∧ rows.documents = seen.documents
  ordered : seen.filing.hasOrderedDate = true →
    ∃ rows doc, Seen tr seen.filing.id rows ∧ doc ∈ rows.documents ∧ some doc.id = seen.filing.orderDocumentId ∧
      order = some doc
  unordered : seen.filing.hasOrderedDate = false → order = none
  verified : ∀ doc ∈ seen.currentDocuments ++ order.toList, Verified tr doc

/-- What an acceptance checked under the lock, against what it had verified. -/
structure Acceptable (db : Store) (tr : Trace) (f : FilingId) (file seen : FilingFile)
    (order : Option FilingDocument) : Prop extends Examined tr f seen order where
  version : file.filing.filingDateVersion = seen.filing.filingDateVersion
  same : file.reviewFingerprintsNow seen.filing.hasOrderedDate =
    (seen.currentDocuments ++ order.toList).map FilingDocument.fingerprint
  destination : file.filing.filingType ≠ .serviceOnly
  case : ∀ id, file.filing.caseId = some id → ∃ c, db (.case id) = some c ∧ c.row.courtId = file.filing.courtId ∧
    c.row.caseTypeId = file.filing.caseTypeId

/-- The filing with the date that an acceptance finds for it. -/
inductive Dated (cfg : Settings) (tr : Trace) (reviewerId : UserId) (receivedAt : Instant) (file : FilingFile) :
    Bool → FilingFile → Prop where
  | ordered : Dated cfg tr reviewerId receivedAt file true file
  | kept (calendars : List CourtCalendar) (assessment : FilingDateAssessment)
      (hcal : Scheduled tr file.filing calendars)
      (hassess : filingDateForReceipt cfg calendars receivedAt = .ok assessment)
      (hsame : file.filing.filingDateBasis = some (.calendar assessment)) :
      Dated cfg tr reviewerId receivedAt file false file
  | assessed (calendars : List CourtCalendar) (assessment : FilingDateAssessment)
      (hcal : Scheduled tr file.filing calendars)
      (hassess : filingDateForReceipt cfg calendars receivedAt = .ok assessment) (previous : Option Date)
      (dated : FilingFile) (t : FilingTransaction)
      (hrec : Recorded cfg tr { file with filing := { file.filing with
          filingDate := assessment.filingDate
          filingDateBasis := some (.calendar assessment) } }
        .filingDateAssessed reviewerId none {
          previousFilingDate := previous
          filingDateBasis := some (.calendar assessment) } dated t) :
      Dated cfg tr reviewerId receivedAt file false dated

theorem Examined.mono {tr tr' : Trace} {f : FilingId} {seen : FilingFile} {order : Option FilingDocument}
    (h : Examined tr f seen order) (htr : ∀ e ∈ tr, e.Heard → e ∈ tr') : Examined tr' f seen order where
  envelope := h.envelope.imp fun _ hrows => ⟨htr _ hrows.1 trivial, hrows.2⟩
  documents := h.documents.imp fun _ hrows => ⟨htr _ hrows.1 trivial, hrows.2⟩
  ordered ho := by
    obtain ⟨rows, doc, hrows, hdoc⟩ := h.ordered ho
    exact ⟨rows, doc, htr _ hrows trivial, hdoc⟩
  unordered := h.unordered
  verified doc hd := (h.verified doc hd).mono htr

theorem Dated.mono {cfg : Settings} {tr tr' : Trace} {reviewerId : UserId} {receivedAt : Instant}
    {file dated : FilingFile} {ordered : Bool} (h : Dated cfg tr reviewerId receivedAt file ordered dated)
    (htr : ∀ e ∈ tr, e.Heard → e ∈ tr') : Dated cfg tr' reviewerId receivedAt file ordered dated := by
  cases h with
  | ordered => exact .ordered
  | kept calendars assessment hcal hassess hsame =>
    exact .kept calendars assessment (htr _ hcal trivial) hassess hsame
  | assessed calendars assessment hcal hassess previous _ t hrec =>
    exact .assessed calendars assessment (htr _ hcal trivial) hassess previous dated t (hrec.mono htr)

/-- What `record_filing_date_order` checked, and the order. -/
structure Orderable (db : Store) (tr : Trace) (file : FilingFile) (userId : UserId) (doc : FilingDocument) : Prop where
  staff : Staff db userId Account.isCourtStaff file
  unblocked : orderBlock file.filing = none
  new : NewDocument tr doc
  retained : doc.retainedAt.isSome = true
  type_eq : doc.documentTypeCode = "FILING_DATE_ORDER"

/-- What the publication endpoints checked: the document, by its index entry, and the staff member. -/
structure Publishable (db : Store) (tr : Trace) (f : FilingId) (file : FilingFile) (userId : UserId)
    (documentId : DocumentId) (doc : FilingDocument) : Prop where
  staff : Staff db userId Account.isCourtStaff file
  indexed : ⟨.look (.document documentId), some f⟩ ∈ tr
  found : file.document documentId = some doc

/-- The bytes of this copy were read and matched in this trace. -/
def CopyVerified (tr : Trace) (copy : DocumentPublicCopy) : Prop :=
  ∃ content : Content, ⟨.look (.object copy.fileKey), some content⟩ ∈ tr ∧
    Digest.of content = copy.sha256Hash ∧ content.length = copy.fileSizeBytes

/-- What `publish_copy` checked. -/
structure CopyPublishable (db : Store) (tr : Trace) (f : FilingId) (file : FilingFile) (userId : UserId)
    (documentId : DocumentId) (data : PublicationRequest) (doc : FilingDocument) (copy : DocumentPublicCopy) : Prop
    extends Publishable db tr f file userId documentId doc where
  version : doc.accessVersion = data.expectedVersion
  changes : ¬ (doc.publicCopyId = some copy.id ∧ doc.isConfidential = true)
  verified : CopyVerified tr copy

/-- What `withhold_document` checked. -/
structure Withholdable (db : Store) (tr : Trace) (f : FilingId) (file : FilingFile) (userId : UserId)
    (documentId : DocumentId) (data : PublicationRequest) (doc : FilingDocument) : Prop
    extends Publishable db tr f file userId documentId doc where
  version : doc.accessVersion = data.expectedVersion
  changes : ¬ (doc.isConfidential = true ∧ doc.publicCopyId = none)

/-- **Every change of a filing.** -/
inductive FileStep (cfg : Settings) (r : Request) (db db' : Store) (tr : Trace) (f : FilingId) (file : FilingFile) :
    FilingFile → Prop where
  | edited (userId : UserId) (data : FilingEnvelopeUpdate) (hr : r = .updateFiling userId f data)
      (h : Editable file data) :
      FileStep cfg r db db' tr f file { file with filing := file.filing.withDetails data }
  | uploaded (userId : UserId) (key : Uuid) (form : UploadForm) (upload : Upload) (doc : FilingDocument)
      (request : UploadRequest) (hr : r = .uploadDocument userId f key form upload)
      (h : Uploadable tr file userId key form upload doc request) :
      FileStep cfg r db db' tr f file { file with
        filing := { file.filing with feeVersion := file.filing.feeVersion + 1 }
        documents := file.documents ++ [doc]
        uploads := file.uploads ++ [request] }
  | retired (userId : UserId) (documentId : DocumentId) (doc : FilingDocument) (time : Instant)
      (hr : r = .removeDocument userId f documentId) (h : Removable file documentId doc)
      (hkeep : doc.retainedAt.isSome = true ∨ file.filing.submittedAt.isSome = true) :
      FileStep cfg r db db' tr f file ({ file with
        filing := { file.filing with feeVersion := file.filing.feeVersion + 1 } }.retire documentId time)
  | erased (userId : UserId) (documentId : DocumentId) (doc : FilingDocument)
      (hr : r = .removeDocument userId f documentId) (h : Removable file documentId doc)
      (hkeep : doc.retainedAt = none) :
      FileStep cfg r db db' tr f file ({ file with
        filing := { file.filing with feeVersion := file.filing.feeVersion + 1 } }.erase documentId)
  | feeReviewRequested (userId : UserId) (data : FeeReviewRequest) (time : Instant) (t : FilingTransaction)
      (file' : FilingFile) (hr : r = .requestFeeReview userId f data) (h : Reviewable tr file userId)
      (hrec : Recorded cfg tr ({ file with filing := { file.filing with
          feeVersion := file.filing.feeVersion + 1
          feeReviewRequestedAt := some time } }.retain time)
        .feeReviewRequested userId none { documents := some file.documentResponses } file' t) :
      FileStep cfg r db db' tr f file file'
  | feesAssessed (userId : UserId) (data : FeeAssessmentRequest) (a : AssessmentDetails) (time : Instant)
      (t : FilingTransaction) (saved : FilingFile) (hr : r = .assessFees userId f data)
      (h : Assessable db tr file userId data a)
      (hrec : Recorded cfg tr ({ file with filing := { file.filing with
          feeVersion := file.filing.feeVersion + 1
          feeReviewRequestedAt := none } }.retain time)
        .feeAssessed userId none { documents := some file.documentResponses, assessment := some a } saved t) :
      FileStep cfg r db db' tr f file { saved with filing := { saved.filing with feeAssessmentId := some t.id } }
  | waiverReferred (userId : UserId) (form : WaiverForm) (time : Instant) (t : FilingTransaction) (file' : FilingFile)
      (hr : r = .decideFeeWaiver userId f form) (haction : form.action = .refer)
      (h : WaiverOpen db file userId .refer form.expectedFeeVersion)
      (hrec : Recorded cfg tr { file with filing := { file.filing with
          feeVersion := file.filing.feeVersion + 1
          feeReviewRequestedAt := none
          feeWaiverReferredAt := some time } } .waiverReferred userId none { waiverBasis := some .refer } file' t) :
      FileStep cfg r db db' tr f file file'
  | waiverDecided (userId : UserId) (form : WaiverForm) (time : Instant) (doc : FilingDocument) (due : Option Cents)
      (t : FilingTransaction) (file' : FilingFile) (hr : r = .decideFeeWaiver userId f form)
      (haction : form.action ≠ .refer) (h : WaiverDecidable db tr file userId form due doc)
      (hrec : Recorded cfg tr { file with
          filing := { file.filing with
            feeVersion := file.filing.feeVersion + 1
            feeReviewRequestedAt := none
            feeWaiverGranted := some (form.action != .denyJudicial)
            feeWaiverDecidedAt := some time
            feeWaiverAmountDueCents := due }
          documents := file.documents ++ [doc] } form.action.event userId none {
            waiverBasis := some form.action
            documents := some [doc.response]
            amountDueCents := due } file' t) :
      FileStep cfg r db db' tr f file file'
  | paid (userId : UserId) (data : PaymentProcessRequest) (caseType : Option CaseType) (payment : Payment)
      (snapshot : PaymentSnapshot) (t : FilingTransaction) (file' : FilingFile)
      (hr : r = .processPayment userId data) (hf : data.envelopeId = f)
      (h : Payable cfg db tr file userId caseType payment)
      (hrec : Recorded cfg tr { file with
          filing := { file.filing with
            paymentId := some payment.id
            paymentVersion := file.filing.paymentVersion + 1 }
          payments := file.payments ++ [payment] } .paymentRecorded userId none { payment := some snapshot } file' t) :
      FileStep cfg r db db' tr f file file'
  | credited (userId : UserId) (key : Uuid) (data : ExternalPaymentRequest) (account : Account)
      (caseType : Option CaseType) (basis : FeeBasis) (id : PaymentId) (snapshot : PaymentSnapshot)
      (t : FilingTransaction) (file' : FilingFile) (hr : r = .recordExternalPayment userId f key data)
      (h : Creditable cfg db db' tr f file userId key data caseType id)
      (hid : snapshot.id = id)
      (hamount : snapshot.amountCents = data.amountCents ∧ snapshot.isSimulated = cfg.allowDemoMode ∧
        snapshot.externalReceipt.isSome = true ∧ t.details.reason.isSome = true)
      (hrec : Recorded cfg tr { file with
          filing := { file.filing with
            paymentId := some id
            paymentVersion := file.filing.paymentVersion + 1 }
          payments := file.payments ++ [externalCredit cfg data file userId account key basis id] }
        .feePaymentRecorded userId none { payment := some snapshot } file' t) :
      FileStep cfg r db db' tr f file file'
  | reversed (userId : UserId) (paymentId : PaymentId) (data : ExternalPaymentReversal) (payment : Payment)
      (snapshot : PaymentSnapshot) (t : FilingTransaction) (file' : FilingFile)
      (hr : r = .reverseExternalPayment userId f paymentId data) (h : Reversible db db' file userId paymentId payment)
      (hid : snapshot.id = payment.id)
      (hamount : snapshot.amountCents = payment.amountCents ∧ snapshot.isSimulated = payment.isSimulated ∧
        snapshot.externalReceipt = payment.externalReceipt ∧ t.details.reason.isSome = true)
      (hrec : Recorded cfg tr { file.setStatus paymentId .reversed with
          filing := { file.filing with paymentVersion := file.filing.paymentVersion + 1 } }
        .feePaymentReversed userId none { payment := some snapshot } file' t) :
      FileStep cfg r db db' tr f file file'
  | submitted (userId : UserId) (key : Option Uuid) (token : SubmissionToken) (seen : FilingFile)
      (caseType : Option CaseType) (time : Instant) (date : Option Date) (basis : Option DateBasis)
      (t : FilingTransaction) (file' : FilingFile) (hr : r = .submitFiling userId f key token)
      (h : Submittable cfg db tr f file seen userId key token caseType)
      (hdate : SubmittedDate cfg tr file.filing
        ((file.filing.filedAt.or file.filing.submittedAt).getD time) date basis)
      (hrec : Recorded cfg tr { file with filing := file.filing.submittedNow time date basis }
        file.filing.receiptEvent file.filing.filerId key {} file' t) :
      FileStep cfg r db db' tr f file file'
  | accepted (userId : UserId) (count : Nat) (time receivedAt : Instant) (seen : FilingFile)
      (order : Option FilingDocument) (dated : FilingFile) (caseId : CaseId) (cmsFilingId cmsCaseNumber : Option String)
      (t : FilingTransaction) (file' : FilingFile) (hr : Reviews f userId count .accept r)
      (h : InReview db tr f file userId count) (hacc : Acceptable db tr f file seen order)
      (hreceived : file.filing.filedAt.or file.filing.submittedAt = some receivedAt)
      (hdated : Dated cfg tr userId receivedAt { file with filing := file.filing.reviewedBy userId time }
        seen.filing.hasOrderedDate dated)
      (hcase : file.filing.caseId = some caseId ∨ (file.filing.caseId = none ∧ ⟨.fresh, caseId⟩ ∈ tr))
      (hrec : Recorded cfg tr { dated with filing := { dated.filing with
          filingDateVersion := dated.filing.filingDateVersion + 1
          caseId := some caseId
          status := .accepted
          cmsFilingId
          cmsCaseNumber
          cmsError := none } } .accepted userId none {} file' t) :
      FileStep cfg r db db' tr f file file'
  | cmsFailed (userId : UserId) (count : Nat) (time receivedAt : Instant) (seen : FilingFile)
      (order : Option FilingDocument) (dated : FilingFile) (error : String) (t : FilingTransaction)
      (file' : FilingFile) (hr : Reviews f userId count .accept r) (h : InReview db tr f file userId count)
      (hacc : Acceptable db tr f file seen order)
      (hreceived : file.filing.filedAt.or file.filing.submittedAt = some receivedAt)
      (hdated : Dated cfg tr userId receivedAt { file with filing := file.filing.reviewedBy userId time }
        seen.filing.hasOrderedDate dated)
      (hrec : Recorded cfg tr { dated with filing := { dated.filing with
          filingDateVersion := dated.filing.filingDateVersion + 1
          status := .underReview
          cmsError := some error
          cmsFilingId := none
          cmsCaseNumber := none } } .cmsFailed userId none {} file' t) :
      FileStep cfg r db db' tr f file file'
  | declined (userId : UserId) (count : Nat) (action : ReviewAction) (time : Instant) (status : FilingStatus)
      (event : EventType) (reason : Option String) (t : FilingTransaction) (file' : FilingFile)
      (hr : Reviews f userId count action r) (h : InReview db tr f file userId count)
      (haction : (action = .reject ∧ status = .rejected ∧ event = .rejected) ∨
        (action = .return_ ∧ status = .returned ∧ event = .returned))
      (hrec : Recorded cfg tr { file with filing := { file.filing.reviewedBy userId time with
          filingDateVersion := file.filing.filingDateVersion + 1
          status
          rejectionReason := reason } } event userId none {} file' t) :
      FileStep cfg r db db' tr f file file'
  | dateOrdered (userId : UserId) (form : DateOrderForm) (doc : FilingDocument) (change : Option CaseDateChange)
      (t : FilingTransaction) (file' : FilingFile) (hr : r = .recordFilingDateOrder userId f form)
      (h : Orderable db tr file userId doc)
      (hrec : Recorded cfg tr { file with
          filing := { file.filing with
            filingDate := some form.filingDate
            filingDateBasis := some (orderBasis file.filing form doc.id)
            filingDateVersion := file.filing.filingDateVersion + 1 }
          documents := file.documents ++ [doc] } .filingDateOrdered userId none {
            previousFilingDate := file.filing.filingDate
            previousFilingDateBasis := file.filing.filingDateBasis
            caseDateChange := change
            filingDateBasis := some (orderBasis file.filing form doc.id)
            documents := some [doc.response] } file' t) :
      FileStep cfg r db db' tr f file file'
  | copyPrepared (userId : UserId) (documentId : DocumentId) (title : String) (upload : Upload) (doc : FilingDocument)
      (copy : DocumentPublicCopy) (hr : r = .prepareCopy userId documentId title upload)
      (h : Publishable db tr f file userId documentId doc) (hblock : publicationBlock doc file.filing = none)
      (hid : ⟨.fresh, copy.id⟩ ∈ tr) (hkey : ⟨.fresh, copy.fileKey.uuid⟩ ∈ tr) (hdoc : copy.documentId = documentId) :
      FileStep cfg r db db' tr f file { file with copies := file.copies ++ [copy] }
  | published (userId : UserId) (documentId : DocumentId) (data : PublicationRequest) (doc : FilingDocument)
      (copy : DocumentPublicCopy) (g : FilingId) (probe rows : FilingFile) (t : FilingTransaction)
      (file' : FilingFile) (hr : r = .publishCopy userId documentId copy.id data)
      (h : CopyPublishable db tr f file userId documentId data doc copy)
        (hblock : publicationBlock doc file.filing = none)
      (hindexed : ⟨.look (.document documentId), some g⟩ ∈ tr) (hprobe : Seen tr g probe)
      (hrows : Seen tr probe.filing.id rows) (hcopy : copy ∈ rows.copies) (hdoc : copy.documentId = documentId)
      (hrec : Recorded cfg tr (file.setAccess documentId (some copy.id) (data.expectedVersion + 1))
        .publicCopyPublished userId none { documentId := some documentId, publicCopy := some copy.response } file' t) :
      FileStep cfg r db db' tr f file file'
  | withheld (userId : UserId) (documentId : DocumentId) (data : PublicationRequest) (doc : FilingDocument)
      (t : FilingTransaction) (file' : FilingFile) (hr : r = .withholdDocument userId documentId data)
      (h : Withholdable db tr f file userId documentId data doc)
      (hrec : Recorded cfg tr (file.setAccess documentId none (data.expectedVersion + 1)) .documentWithheld userId none
        { documentId := some documentId, withdrawnCopyId := doc.publicCopyId } file' t) :
      FileStep cfg r db db' tr f file file'

/-! ## Changes of a row -/

/-- The entry of a filing's envelope changes by a `FileStep`, or the filing is new. -/
def EnvelopeStep (cfg : Settings) (r : Request) (db db' : Store) (tr : Trace) (f : FilingId)
    (v : Option FilingFile) : Prop :=
  ∃ file', v = some file' ∧ ((∃ userId data key, Created r db tr f userId data key file') ∨
    ∃ file, db (.envelope f) = some file ∧ FileStep cfg r db db' tr f file file')

/-- A job of the cleanup queue is done, put off, or made for a document that this commit erases. -/
def DeletionStep (db db' : Store) (id : Nat) (v : Option StorageDeletion) : Prop :=
  v = none ∨ ∃ job, v = some job ∧ ((∃ job₀, db (.deletion id) = some job₀ ∧ job.fileKey = job₀.fileKey) ∨
    ∃ file doc, db (.envelope job.envelopeId) = some file ∧ doc ∈ file.documents ∧ doc.fileKey = job.fileKey ∧
      doc.retainedAt = none ∧
      db' (.envelope job.envelopeId) = some ({ file with
        filing := { file.filing with feeVersion := file.filing.feeVersion + 1 } }.erase doc.id))

/-- The new case is in the court of the filing, under the number that its acceptance gave it. -/
def Numbers (filing : FilingEnvelope) (case : Case) : Prop :=
  case.courtId = filing.courtId ∧
    ∃ receivedAt courtType code, case.caseNumber = newCaseNumber filing receivedAt courtType code

/-- Participants, sealing, their version and their events stay. -/
structure CaseFile.SameAccess (c c' : CaseFile) : Prop where
  participants : c'.participants = c.participants
  isSealed : c'.row.isSealed = c.row.isSealed
  version : c'.row.participantVersion = c.row.participantVersion
  events : c'.events = c.events

/-- A case without participants, unsealed. -/
structure CaseFile.Bare (c : CaseFile) : Prop where
  participants : c.participants = []
  isSealed : c.row.isSealed = false
  version : c.row.participantVersion = 0
  events : c.events = []

/-- A member of the staff of the case's court, who reviewed this version of it. -/
structure ReviewedAccess (db : Store) (actorId : UserId) (actor : Account) (c : CaseFile) (expected : Nat) : Prop where
  actor : Active db actorId actor
  version : c.row.participantVersion = expected

/-- **What changes the access to a case.** -/
inductive CaseAccessStep (r : Request) (db : Store) (tr : Trace) (id : CaseId) (c : CaseFile) : CaseFile → Prop where
  | participantChanged (actorId : UserId) (participantId : ParticipantId) (data : ParticipantChange) (actor : Account)
      (p : CaseParticipant) (account : Option UserId) (time : Instant)
      (hr : r = .changeParticipant actorId id (some participantId) data)
      (h : ReviewedAccess db actorId actor c data.expectedVersion)
      (hfound : c.participants.find? (fun p => p.id == participantId) = some p)
      (hown : p.userId ≠ some actorId) (hother : account ≠ some actorId) :
      CaseAccessStep r db tr id c { c with
        row := { c.row with participantVersion := c.row.participantVersion + 1 }
        participants := c.participants.map fun q =>
          if q.id = p.id then { data.applied account p with reviewedAt := some time } else q
        events := c.events ++ [.participant actorId actor.user.fullName data.reason (some (participantSnapshot p))
          (participantSnapshot { data.applied account p with reviewedAt := some time })] }
  | participantAdded (actorId : UserId) (data : ParticipantChange) (actor : Account) (added : CaseParticipant)
      (time : Instant) (hr : r = .changeParticipant actorId id none data)
      (h : ReviewedAccess db actorId actor c data.expectedVersion) (hid : ⟨.fresh, added.id⟩ ∈ tr)
      (hother : added.userId ≠ some actorId) :
      CaseAccessStep r db tr id c { c with
        row := { c.row with participantVersion := c.row.participantVersion + 1 }
        participants := c.participants ++ [{ added with reviewedAt := some time }]
        events := c.events ++ [.participant actorId actor.user.fullName data.reason none (participantSnapshot added)] }
  | publicAccess (actorId : UserId) (data : PublicCaseAccessChange) (actor : Account) (seen : Option CaseFile)
      (hr : r = .changePublicAccess actorId id data) (h : ReviewedAccess db actorId actor c data.expectedVersion)
      (hseen : (reads (.case id) tr).getLast? = some seen)
      (hother : ∀ c₀, seen = some c₀ → ∀ p ∈ c₀.participants, p.userId = some actorId → p.isActive = false)
      (hchanged : c.row.isSealed ≠ data.isSealed) :
      CaseAccessStep r db tr id c { c with
        row := { c.row with isSealed := data.isSealed, participantVersion := c.row.participantVersion + 1 }
        events := c.events ++ [.publicAccess actorId actor.user.fullName c.row.caseNumber data.reason
          data.authorityReference data.confirmPublicRelease ⟨c.row.isSealed, c.row.participantVersion⟩
          ⟨data.isSealed, c.row.participantVersion + 1⟩] }

/-- A case is changed, or opened by an acceptance with the filing's own date. -/
def CaseStep (r : Request) (db db' : Store) (tr : Trace) (id : CaseId) (v : Option CaseFile) : Prop :=
  ∃ c', v = some c' ∧ ((∃ c, db (.case id) = some c ∧ c'.row.courtId = c.row.courtId ∧
      c'.row.caseTypeId = c.row.caseTypeId ∧ c'.row.caseNumber = c.row.caseNumber ∧
      (c.SameAccess c' ∨ CaseAccessStep r db tr id c c')) ∨
    ∃ f file file', ⟨.fresh, id⟩ ∈ tr ∧ db (.envelope f) = some file ∧ file.filing.caseId = none ∧
      db' (.envelope f) = some file' ∧ file'.filing.caseId = some id ∧ file'.filing.status = .accepted ∧
      c'.row.filingDate = file'.filing.filingDate ∧ Numbers file'.filing c'.row ∧ c'.Bare)

def NoticeStep (db' : Store) (id : NoticeId) (v : Option Notice) : Prop :=
  ∃ f file', db' (.envelope f) = some file' ∧ IsNotice file'.filing (.notice id) v

/-- **Every change of a row.** Courts, calendars and objects change in any way here. -/
def RowStep (cfg : Settings) (r : Request) (db db' : Store) (tr : Trace) : (g : Row) → View g → Prop
  | .envelope f, v => EnvelopeStep cfg r db db' tr f v
  | .document id, v => v = none ∨ ⟨.fresh, id⟩ ∈ tr
  | .creationKey userId key, v => ∃ f data file', v = some f ∧ Created r db tr f userId data key file' ∧
      db' (.envelope f) = some file'
  | .externalRequest key, v => ∃ ref, v = some ref ∧ db (.externalRequest key) = none
  | .externalReceipt key, v => (∃ ref, v = some ref ∧ db (.externalReceipt key) = none) ∨
      (v = none ∧ ∃ f file payment, db (.envelope f) = some file ∧ payment ∈ file.payments ∧
        payment.status = .completed ∧ payment.externalReceiptKey = some key ∧
        ∃ file', db' (.envelope f) = some file' ∧ ∀ p ∈ file'.payments, p.id = payment.id → p.status = .reversed)
  | .deletion id, v => DeletionStep db db' id v
  | .notice id, v => NoticeStep db' id v
  | .case id, v => CaseStep r db db' tr id v
  | .user _, _ | .accountKey _, _ | .userIds, _ => AccountStep cfg r db db' tr
  | .caseType id, v => ∃ caseType active, db (.caseType id) = some caseType ∧
      v = some { caseType with isActive := active }
  | _, _ => True

/-- **Every row that a commit changes, changes by a `RowStep`.** -/
def Changes (cfg : Settings) (r : Request) (db : Store) (tr : Trace) : Prop :=
  ∀ g, commit tr db g = db g ∨ RowStep cfg r db (commit tr db) tr g (commit tr db g)

theorem Changes.of_writes {cfg : Settings} {r : Request} {db : Store} {tr : Trace}
    (h : Writes (RowStep cfg r db (commit tr db) tr) tr) : Changes cfg r db tr := fun g => h.commit db g

theorem Changes.of_same {cfg : Settings} {r : Request} {db : Store} {tr : Trace} (h : commit tr db = db) :
    Changes cfg r db tr := fun g => .inl (by rw [h])

/-- What a request on one filing writes: the filing, entries of new documents, and notices to the filer. -/
def Saves (tr : Trace) (f : FilingId) (file' : FilingFile) : (g : Row) → View g → Prop
  | .envelope g, v => g = f ∧ v = some file'
  | .document id, _ => ⟨.fresh, id⟩ ∈ tr
  | .notice id, v => IsNotice file'.filing (.notice id) v
  | _, _ => False

theorem IsNotice.saves {filing : FilingEnvelope} {tr : Trace} {f : FilingId} {file' : FilingFile}
    (h : ∀ g v, IsNotice filing g v → IsNotice file'.filing g v) : ∀ g v, IsNotice filing g v →
      Saves tr f file' g v := by
  intro g v hg
  cases g with
  | notice id => exact h _ _ hg
  | _ => exact hg.elim

theorem Recorded.notice {cfg : Settings} {tr : Trace} {file saved : FilingFile} {event : EventType}
    {actorId : UserId} {key : Option Uuid} {details : Details} {t : FilingTransaction}
    (h : Recorded cfg tr file event actorId key details saved t) :
    ∀ g v, IsNotice file.filing g v → IsNotice saved.filing g v := by
  rw [h.filing_eq]
  exact fun _ _ => id

theorem Recorded.saves {cfg : Settings} {tr tr' tr'' : Trace} {f : FilingId} {file saved : FilingFile}
    {event : EventType} {actorId : UserId} {key : Option Uuid} {details : Details} {t : FilingTransaction}
    (h : Recorded cfg tr file event actorId key details saved t) (hw : Writes (IsNotice file.filing) tr') :
    Writes (Saves tr'' f saved) tr' := hw.mono (IsNotice.saves h.notice)

theorem IsNotice.rowStep {cfg : Settings} {r : Request} {db db' : Store} {tr tr' : Trace} (f : FilingId)
    {file' : FilingFile} {filing : FilingEnvelope} (hdb' : db' (.envelope f) = some file')
    (h : ∀ g v, IsNotice filing g v → IsNotice file'.filing g v) (hw : Writes (IsNotice filing) tr) :
    Writes (RowStep cfg r db db' tr') tr :=
  hw.mono fun g v hg => by
    cases g with
    | notice id => exact ⟨f, file', hdb', h _ _ hg⟩
    | _ => exact hg.elim

theorem Changes.of_saves {cfg : Settings} {r : Request} {db : Store} {tr : Trace} {f : FilingId}
    {file file' : FilingFile} (hdb : db (.envelope f) = some file)
    (h : FileStep cfg r db (commit tr db) tr f file file') (hw : Writes (Saves tr f file') tr)
    (hsaved : ⟨.write (.envelope f) fun _ => some file', ()⟩ ∈ tr) : Changes cfg r db tr := by
  have hdb' : commit tr db (.envelope f) = some file' := (hw.wrote hsaved db).2
  refine .of_writes (hw.mono fun g v hg => ?_)
  cases g with
  | envelope g =>
    obtain ⟨rfl, rfl⟩ := hg
    exact ⟨file', rfl, .inr ⟨file, hdb, h⟩⟩
  | document id => exact .inr hg
  | notice id => exact ⟨f, file', hdb', hg⟩
  | _ => exact hg.elim

theorem Changes.of_quiet {cfg : Settings} {r : Request} {db : Store} {tr : Trace} (h : Quiet tr) :
    Changes cfg r db tr := .of_same (h.commit db)

end Muefs
