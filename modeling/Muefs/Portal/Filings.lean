import Muefs.Portal.Submission

/-!
# The filer's requests

* `createFiling`, `updateFiling`, `submitFilingRequest` : a draft, its details, its submission;
* `uploadDocument`, `removeDocument` : the draft's documents;
* `Upload`, `inspectUpload`, `storeDocumentUpload` : a file on its way into the object store.
-/

namespace Muefs
open RowLocks

/-! ## Creation -/

/-- `FilingEnvelopeCreate`. An initial filing opens a case, every other one names its case. -/
structure FilingEnvelopeCreate extends CreationFields where
  known : filingType = .initial ∨ filingType = .subsequent ∨ filingType = .serviceOnly
  matching : filingType = .initial ↔ caseId = none

/-- `creation_fingerprint` -/
def creationFingerprint (data : FilingEnvelopeCreate) : Digest CreationFields := .of data.toCreationFields

/-- The envelope that `create_filing` inserts. -/
def newEnvelope (id : FilingId) (filerId : UserId) (data : FilingEnvelopeCreate) (key : Uuid)
    (case : Option CaseFile) : FilingEnvelope where
  id := id
  courtId := data.courtId
  caseId := data.caseId
  caseTypeId := data.caseTypeId
  filerId := filerId
  creationKey := some key
  creationSha256 := some (creationFingerprint data)
  filingType := data.filingType
  caseTitle := (case.map (·.row.title)).or data.caseTitle
  filingDescription := data.filingDescription
  feeWaiverRequested := data.feeWaiverRequested
  feeWaiverReason := data.feeWaiverReason

/-- `filing_service.create_filing` -/
def insertFiling (filer : Viewer) (data : FilingEnvelopeCreate) (key : Uuid) : Portal FilingFile := do
  let case ← validateFilingDestination data.destination (some filer) true
  let id ← newId
  let taken ← lockUpdate (.creationKey filer.id key)
  require (taken = none) (.integrity "uq_filing_creation_key")
  let file : FilingFile := { filing := newEnvelope id filer.id data key case }
  saveFiling id file
  write (.creationKey filer.id key) fun _ => some id
  return file

/-- The filing that an earlier request with this key created. -/
def findCreated (filerId : UserId) (key : Uuid) : Portal (Option FilingFile) := do
  let entry ← look (.creationKey filerId key)
  match entry with
  | some id => getFiling id
  | none => return none

/-- The answer to a creation that is already recorded. -/
def replayCreation (file : FilingFile) (data : FilingEnvelopeCreate) : Response :=
  if file.filing.creationSha256 ≠ some (creationFingerprint data) then .creationConflict file.filing.id
  else .filing file

/-- The exceptions after which `create_filing` looks for a creation that came first. -/
def Failure.isLostRace : Failure → Bool
  | .integrity _ | .destination _ _ => true
  | _ => false

/-- `POST /filings` -/
def createFiling (userId : UserId) (data : FilingEnvelopeCreate) (key : Uuid) : Portal Response := do
  signedInFiler userId
  let account ← lockFiler userId
  let existing ← findCreated userId key
  match existing with
  | some file => return replayCreation file data
  | none => do
    let made ← Txn.savepoint (insertFiling ⟨userId, account⟩ data key)
    match made with
    | .ok file => return .filing file
    | .error e =>
      if e.isLostRace = true then do
        let existing ← findCreated userId key
        let file ← expect existing e
        return replayCreation file data
      else .raise e

/-! ## Details -/

/-- `FilingEnvelopeUpdate` -/
structure FilingEnvelopeUpdate where
  expectedDetailsToken : Option DetailsToken
  caseTitle : Option String := none
  filingDescription : Option String := none
  feeWaiverRequested : Option Bool := none
  feeWaiverReason : Option String := none
  /-- An edit names the details it was made on. -/
  loaded : caseTitle.isSome ∨ filingDescription.isSome ∨ feeWaiverRequested.isSome ∨ feeWaiverReason.isSome →
    expectedDetailsToken.isSome

/-- The assignments of `update_details`. -/
def FilingEnvelope.withDetails (filing : FilingEnvelope) (data : FilingEnvelopeUpdate) : FilingEnvelope :=
  { filing with
    caseTitle := data.caseTitle.or filing.caseTitle
    filingDescription := data.filingDescription.or filing.filingDescription
    feeWaiverRequested := data.feeWaiverRequested.getD filing.feeWaiverRequested
    feeReviewRequestedAt := if data.feeWaiverRequested = some true then none else filing.feeReviewRequestedAt
    feeWaiverReason := data.feeWaiverReason.or filing.feeWaiverReason }

/-- `update_details` -/
def updateDetails (file : FilingFile) (data : FilingEnvelopeUpdate) : Portal FilingFile := do
  let filing := file.filing
  require (data.expectedDetailsToken = none ∨ data.expectedDetailsToken = some filing.detailsToken)
    (.update 409 ("This filing changed after you opened it. Compare the saved details " ++
      "with your edits before saving again."))
  require (filing.status.isOpen = true) (.update 400 "Can only update draft or returned filings")
  require (filing.submittedAt = none ∨
      ((data.feeWaiverRequested = none ∨ data.feeWaiverRequested = some filing.feeWaiverRequested) ∧
        (data.feeWaiverReason = none ∨ data.feeWaiverReason = filing.feeWaiverReason)))
    (.update 409 "A submitted fee waiver request cannot be changed through draft editing")
  require (data.caseTitle = none ∨ data.caseTitle = filing.caseTitle ∨ filing.caseId = none)
    (.update 409 "A filing in an existing case uses the court's case title.")
  return { file with filing := filing.withDetails data }

/-- `PATCH /filings/{filing_id}` -/
def updateFiling (userId : UserId) (filingId : FilingId) (data : FilingEnvelopeUpdate) : Portal Response := do
  signedInFiler userId
  let row ← lockFiling filingId
  let file ← ownedFiling row userId "Not your filing"
  let saved ← updateDetails file data
  saveFiling filingId saved
  return .filing saved

/-! ## Submission -/

/-- `POST /filings/{filing_id}/submit` -/
def submitFilingRequest (cfg : Settings) (userId : UserId) (filingId : FilingId) (key : Option Uuid)
    (token : SubmissionToken) : Portal Response := do
  signedInFiler userId
  let account ← lockFiler userId
  let row ← getFiling filingId
  let _ ← ownedFiling row userId "Not authorized to access this filing"
  let outcome ← submitFiling cfg account filingId key token
  match outcome with
  | .alreadyRecorded file => return .filing file
  | .notSubmittable => .raise (.http 400 "Only draft or returned filings can be submitted")
  | .submitted file => return .filing file

/-! ## Uploads -/

/-- What MIME detection, malware screening and PDF inspection say of a file. -/
structure Screening where
  mimeType : String
  extension : String
  pageCount : Option Nat
  isTextSearchable : Bool
  piiWarnings : Option (List String)

/-- An uploaded file. The screening runs on its bytes with libraries of other projects and may refuse it. -/
structure Upload where
  content : Content
  filename : Option String := none
  contentType : Option String := none
  screening : Except Failure Screening

/-- `read_upload` -/
def readUpload (cfg : Settings) (file : Upload) : Portal Content := do
  require (file.content.length ≤ cfg.maxFileSizeMb * 1024 * 1024)
    (.http 413 ("File exceeds maximum size of " ++ toString cfg.maxFileSizeMb ++ "MB"))
  require (file.content ≠ []) (.http 422 "The uploaded file is empty. Choose a document with content.")
  return file.content

/-- `inspect_upload` -/
def inspectUpload (cfg : Settings) (file : Upload) (requirePdf : Bool) : Portal (Content × Screening) := do
  let content ← readUpload cfg file
  let screening ← ofExcept file.screening
  require (requirePdf = false ∨ screening.mimeType = "application/pdf") (.http 415 "This document must be a PDF")
  require (screening.mimeType ≠ "application/pdf" ∨ (screening.pageCount.getD 0) ≠ 0)
    (.http 422 "The document must be a readable PDF")
  return (content, screening)

/-- `store_document_upload`. The document has no id before it is inserted. -/
def storeDocumentUpload (cfg : Settings) (filingId : FilingId) (file : Upload) (documentTypeCode title : String)
    (isConfidential : Bool) : Portal FilingDocument := do
  let (content, screening) ← inspectUpload cfg file (documentTypeCode == "FEE_WAIVER_ORDER")
  let uuid ← newId
  let fileKey := FileKey.document filingId uuid screening.extension
  act fileKey (some content)
  let time ← now
  return {
    id := 0
    documentTypeCode
    title
    fileKey
    fileSizeBytes := content.length
    mimeType := screening.mimeType
    pageCount := screening.pageCount
    sha256Hash := .of content
    isConfidential := isConfidential || privateDocumentTypes.contains documentTypeCode
    isTextSearchable := screening.isTextSearchable
    piiWarnings := screening.piiWarnings
    uploadedAt := time
    retainedAt := if documentTypeCode = "FEE_WAIVER_ORDER" then some time else none }

/-- `db.add(doc)` and flush: the document gets its id. -/
def insertDocument (filingId : FilingId) (doc : FilingDocument) : Portal FilingDocument := do
  let id ← newId
  let time ← now
  write (.document id) fun _ => some filingId
  return { doc with id, uploadedAt := time }

/-- The form of an upload. -/
structure UploadForm where
  documentTypeCode : String
  title : String
  isConfidential : Bool

/-- `fingerprint` of `upload_document` -/
def UploadForm.fingerprint (form : UploadForm) (file : Upload) (sha256 : Digest Content) (size : Nat) :
    Digest UploadFields := .of {
  documentTypeCode := form.documentTypeCode
  title := form.title
  isConfidential := form.isConfidential
  filename := file.filename
  contentType := file.contentType
  size
  sha256 }

/-- `replay` of `upload_document` -/
def replayUpload (recorded : UploadRequest) (documents : List FilingDocument) (fingerprint : Digest UploadFields) :
    Portal FilingDocument := do
  require (recorded.fingerprint = fingerprint) (.http 409 ("This upload request key was already used for a " ++
    "different document. Review the saved filing before starting another upload."))
  let doc := recorded.documentId.bind fun id => documents.find? fun d => d.id == id && d.removedAt.isNone
  expect doc (.http 409 ("This document was already uploaded and later removed. " ++
    "Review the saved filing before starting another upload."))

/-- `db.get(DocumentUploadRequest, (filing_id, key))` -/
def FilingFile.uploadRequest (file : FilingFile) (key : Uuid) : Option UploadRequest :=
  file.uploads.find? fun r => r.key == key

/-- The part of `upload_document` after the file is stored. -/
def recordUpload (userId : UserId) (filingId : FilingId) (key : Uuid) (form : UploadForm) (file : Upload)
    (doc : FilingDocument) : Portal Response := do
  let _ ← lockFiler userId
  let row ← lockFiling filingId
  let locked ← expect row (.http 403 "Not your filing")
  require (locked.filing.filerId = userId) (.http 403 "Not your filing")
  match locked.uploadRequest key with
  | some recorded => do
    let earlier ← replayUpload recorded locked.documents
      (form.fingerprint file doc.sha256Hash doc.fileSizeBytes)
    act doc.fileKey none
    return .document earlier.response
  | none => do
    require (locked.filing.status.isOpen = true) (.http 400 "Cannot upload documents to this filing")
    let doc ← insertDocument filingId doc
    saveFiling filingId { locked with
      filing := { locked.filing with feeVersion := locked.filing.feeVersion + 1 }
      documents := locked.documents ++ [doc]
      uploads := locked.uploads ++ [{
        key
        fingerprint := form.fingerprint file doc.sha256Hash doc.fileSizeBytes
        documentId := some doc.id }] }
    return .document doc.response

/-- `POST /filings/{filing_id}/documents` -/
def uploadDocument (cfg : Settings) (userId : UserId) (filingId : FilingId) (key : Uuid) (form : UploadForm)
    (file : Upload) : Portal Response := do
  signedInFiler userId
  let row ← getFiling filingId
  let probe ← ownedFiling row userId "Not your filing"
  let rows ← look (.envelope filingId)
  match rows.bind fun rows => rows.uploadRequest key with
  | some recorded => do
    let content ← readUpload cfg file
    -- the document as the request loaded it, or else as it is now
    let later ← look (.envelope filingId)
    let earlier ← replayUpload recorded (probe.currentDocuments ++ (later.map FilingFile.documents).getD [])
      (form.fingerprint file (.of content) content.length)
    return .document earlier.response
  | none => do
    require (probe.filing.status.isOpen = true) (.http 400 "Cannot upload documents to this filing")
    require (courtDocumentTypes.contains form.documentTypeCode = false)
      (.http 403 "Court decisions must be recorded by authorized court staff")
    let doc ← storeDocumentUpload cfg filingId file form.documentTypeCode form.title form.isConfidential
    (recordUpload userId filingId key form file doc).onRaise (act doc.fileKey none)

/-! ## Removal -/

/-- Set `removed_at`. -/
def FilingFile.retire (file : FilingFile) (id : DocumentId) (time : Instant) : FilingFile :=
  { file with documents := file.documents.map fun d => if d.id = id then { d with removedAt := some time } else d }

/-- Delete a document's row, and forget it in the upload requests. -/
def FilingFile.erase (file : FilingFile) (id : DocumentId) : FilingFile :=
  { file with
    documents := file.documents.filter fun d => d.id != id
    uploads := file.uploads.map fun r => if r.documentId = some id then { r with documentId := none } else r }

section Fields

variable (file : FilingFile) (id : DocumentId) (time : Instant)

@[simp] theorem FilingFile.retire_filing : (file.retire id time).filing = file.filing := rfl
@[simp] theorem FilingFile.retire_transactions : (file.retire id time).transactions = file.transactions := rfl
@[simp] theorem FilingFile.retire_payments : (file.retire id time).payments = file.payments := rfl
@[simp] theorem FilingFile.retire_copies : (file.retire id time).copies = file.copies := rfl
@[simp] theorem FilingFile.erase_filing : (file.erase id).filing = file.filing := rfl
@[simp] theorem FilingFile.erase_transactions : (file.erase id).transactions = file.transactions := rfl
@[simp] theorem FilingFile.erase_payments : (file.erase id).payments = file.payments := rfl
@[simp] theorem FilingFile.erase_copies : (file.erase id).copies = file.copies := rfl

end Fields

/-- `DELETE /filings/{filing_id}/documents/{document_id}` -/
def removeDocument (userId : UserId) (filingId : FilingId) (documentId : DocumentId) : Portal Response := do
  signedInFiler userId
  let row ← lockFiling filingId
  let file ← ownedFiling row userId "Not your filing"
  require (file.filing.status.isOpen = true) (.http 400 "Submitted filings cannot be altered by removing documents")
  let doc ← expect (file.currentDocuments.find? fun d => d.id == documentId) (.http 404 "Document not found")
  let changed := { file with filing := { file.filing with feeVersion := file.filing.feeVersion + 1 } }
  if doc.retainedAt.isSome = true ∨ file.filing.submittedAt.isSome = true then do
    let time ← now
    saveFiling filingId (changed.retire documentId time)
    return .removed
  else do
    let deletionId ← newId
    let time ← now
    write (.deletion deletionId) fun _ => some {
      documentId
      envelopeId := filingId
      fileKey := doc.fileKey
      nextAttemptAt := time }
    write (.document documentId) fun _ => none
    saveFiling filingId (changed.erase documentId)
    return .removed

end Muefs
