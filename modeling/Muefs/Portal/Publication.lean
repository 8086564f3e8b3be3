import Muefs.Portal.Filings

/-!
# Filing-date orders, public copies and storage cleanup

* `recordFilingDateOrder` : a signed order sets the filing date, and on request the case's opening date;
* `documentContext` : document, filing and actor of a publication request;
* `prepareCopy`, `publishCopy`, `withholdDocument` : public copies of court documents;
* `cleanupNext` : delete one queued object from the store.
-/

namespace Muefs
open RowLocks

/-! ## Filing-date orders -/

/-- The form of a filing-date order. -/
structure DateOrderForm where
  filingDate : Date
  orderSignedDate : Date
  authorityReference : String
  reason : String
  reviewed : Bool
  expectedVersion : Nat
  updateCaseDate : Bool := false
  expectedCaseVersion : Option Nat := none
  file : Upload

/-- `_date_filing`, on the row it read and for a decision, with the account as it is read then -/
def dateFiling (row : Option FilingFile) (userId : UserId) (account : Option Account) : Portal FilingFile := do
  let file ← expect row (.http 404 "Filing not found")
  require (account.any (fun a => a.isCourtStaff file.filing.courtId) = true)
    (.http 403 "Not authorized for this court")
  require (file.filing.filerId ≠ userId) (.http 403 "Another court reviewer must decide your own filing")
  return file

/-- `_order_block` -/
def orderBlock (filing : FilingEnvelope) : Option String :=
  if filing.filingType = .serviceOnly ∨ filing.status = .served then
    some "Service-only records do not have a court filing date"
  else if filing.status = .draft then some "A court filing-date order can be recorded after submission"
  else none

/-- Both checks of the filing before an order. -/
def orderable (file : FilingFile) (expectedVersion : Nat) : Portal Unit := do
  require (orderBlock file.filing = none) (.http 409 ((orderBlock file.filing).getD ""))
  require (file.filing.filingDateVersion = expectedVersion)
    (.http 409 "This filing changed. Refresh and review its date and status")

/-- The change of the case's opening date, if the order asks for it. -/
def changeCaseDate (filing : FilingEnvelope) (form : DateOrderForm) : Portal (Option CaseDateChange) :=
  if form.updateCaseDate = true then do
    let caseId ← expect filing.caseId (.http 409 "There is no case opening date to update")
    let row ← lockUpdate (.case caseId)
    let case ← expect (row.filter fun c => c.row.courtId == filing.courtId)
      (.http 409 "There is no case opening date to update")
    require (some case.row.filingDateVersion = form.expectedCaseVersion)
      (.http 409 "The case opening date changed. Refresh and review it")
    write (.case caseId) fun _ => some { case with row := { case.row with
      filingDate := some form.filingDate
      filingDateVersion := case.row.filingDateVersion + 1 } }
    return some {
      caseId
      caseNumber := case.row.caseNumber
      previousFilingDate := case.row.filingDate
      filingDate := form.filingDate }
  else return none

/-- The basis of a court-ordered date. -/
def orderBasis (filing : FilingEnvelope) (form : DateOrderForm) (docId : DocumentId) : DateBasis :=
  .courtOrder form.filingDate docId form.orderSignedDate (strip form.authorityReference) filing.submissionCount

/-- The signed order as it is inserted, without an id. -/
def orderDocument (filing : FilingEnvelope) (fileKey : FileKey) (content : Content) (screening : Screening)
    (time : Instant) : FilingDocument where
  id := 0
  documentTypeCode := "FILING_DATE_ORDER"
  title := if filing.submissionCount ≠ 0 then
      "Signed filing-date order, submission " ++ toString filing.submissionCount
    else "Signed filing-date order, older filing"
  fileKey := fileKey
  fileSizeBytes := content.length
  mimeType := screening.mimeType
  pageCount := screening.pageCount
  sha256Hash := .of content
  isConfidential := true
  isTextSearchable := screening.isTextSearchable
  piiWarnings := screening.piiWarnings
  uploadedAt := time
  retainedAt := some time

/-- The nested transaction of `record_filing_date_order`; it ends with the request. -/
def orderLocked (cfg : Settings) (userId : UserId) (filingId : FilingId) (form : DateOrderForm)
    (fileKey : FileKey) (content : Content) (screening : Screening) : Portal Response := do
  let account ← lockCurrentUser userId
  let row ← lockFiling filingId
  let file ← dateFiling row userId (some account)
  orderable file form.expectedVersion
  let change ← changeCaseDate file.filing form
  let time ← now
  let doc ← insertDocument filingId (orderDocument file.filing fileKey content screening time)
  let basis := orderBasis file.filing form doc.id
  let (saved, t) ← recordTransaction cfg { file with
    filing := { file.filing with
      filingDate := some form.filingDate
      filingDateBasis := some basis
      filingDateVersion := file.filing.filingDateVersion + 1 }
    documents := file.documents ++ [doc] } .filingDateOrdered userId (some (strip form.reason)) none {
      previousFilingDate := file.filing.filingDate
      previousFilingDateBasis := file.filing.filingDateBasis
      caseDateChange := change
      filingDateBasis := some basis
      documents := some [doc.response] }
  saveFiling filingId saved
  return .transaction t.id

/-- `POST /clerk/filings/{filing_id}/filing-date` -/
def recordFilingDateOrder (cfg : Settings) (userId : UserId) (filingId : FilingId) (form : DateOrderForm) :
    Portal Response := do
  require (form.reviewed = true ∧ strip form.authorityReference ≠ "" ∧ strip form.reason ≠ "")
    (.http 422 "Review the signed order and provide its reference and reason")
  require (form.updateCaseDate = false ∨ form.expectedCaseVersion.isSome = true)
    (.http 422 "Refresh the case opening date before applying this order to it")
  let row ← look (.envelope filingId)
  let account ← look (.user userId)
  let file ← dateFiling row userId account
  orderable file form.expectedVersion
  let (content, screening) ← inspectUpload cfg form.file true
  let uuid ← newId
  let fileKey := FileKey.order filingId uuid
  act fileKey (some content)
  (orderLocked cfg userId filingId form fileKey content screening).onRaise (act fileKey none)

/-! ## Public copies -/

/-- `publication_block` -/
def publicationBlock (doc : FilingDocument) (filing : FilingEnvelope) : Option String :=
  if privateDocumentTypes.contains doc.documentTypeCode then
    some "Fee waiver records cannot be published through this workflow"
  else if doc.removedAt.isSome ∨ filing.status ≠ .accepted ∨ filing.caseId = none then
    some "Public copies require a current document on an accepted filing"
  else none

/-- A document by its id. -/
def FilingFile.document (file : FilingFile) (id : DocumentId) : Option FilingDocument :=
  file.documents.find? fun d => d.id == id

theorem FilingFile.document_spec {file : FilingFile} {id : DocumentId} {doc : FilingDocument}
    (h : file.document id = some doc) : doc ∈ file.documents ∧ doc.id = id := by
  unfold document at h
  have hid := List.find?_some h
  exact ⟨List.mem_of_find?_eq_some h, eq_of_beq hid⟩

/-- The checks at the end of `document_context`, for a decision. -/
def mayDecide (userId : UserId) (account : Account) (file : FilingFile) : Portal Unit := do
  require (account.user.isActive = true) (.http 403 "Account or filing is unavailable")
  require (account.isCourtStaff file.filing.courtId = true)
    (.http 403 "A staff assignment for this court is required")
  require (file.filing.filerId ≠ userId) (.http 403 "Another court reviewer must decide your own filing")

/-- `document_context` without locks -/
def documentContext (userId : UserId) (documentId : DocumentId) : Portal (FilingDocument × FilingFile) := do
  let entry ← look (.document documentId)
  let filingId ← expect entry (.http 404 "Document not found")
  let row ← look (.envelope filingId)
  let file ← expect row (.http 403 "Account or filing is unavailable")
  let doc ← expect (file.document documentId) (.http 404 "Document not found")
  let accountRow ← look (.user userId)
  let account ← expect accountRow (.http 403 "Account or filing is unavailable")
  mayDecide userId account file
  return (doc, file)

/-- What `document_context` answers with locks. -/
structure LockedDocument where
  filingId : FilingId
  file : FilingFile
  doc : FilingDocument

/-- `document_context(..., for_update=True)` -/
def lockDocumentContext (userId : UserId) (documentId : DocumentId) : Portal LockedDocument := do
  let entry ← look (.document documentId)
  let filingId ← expect entry (.http 404 "Document not found")
  let accountRow ← lockUpdate (.user userId)
  let account ← expect accountRow (.http 403 "Account is unavailable")
  let row ← lockFiling filingId
  let _ ← lockUpdate (.document documentId)
  let file ← expect row (.http 403 "Account or filing is unavailable")
  let doc ← expect (file.document documentId) (.http 403 "Account or filing is unavailable")
  mayDecide userId account file
  return ⟨filingId, file, doc⟩

/-- `db.add(copy)` under the locks of the document. -/
def insertCopy (userId : UserId) (documentId : DocumentId) (title : String) (fileKey : FileKey) (content : Content)
    (screening : Screening) : Portal Response := do
  let context ← lockDocumentContext userId documentId
  require (publicationBlock context.doc context.file.filing = none)
    (.http 409 ((publicationBlock context.doc context.file.filing).getD ""))
  let id ← newId
  let time ← now
  let copy : DocumentPublicCopy := {
    id
    documentId
    createdBy := userId
    title
    fileKey
    fileSizeBytes := content.length
    mimeType := screening.mimeType
    pageCount := screening.pageCount.getD 0
    sha256Hash := .of content
    isTextSearchable := screening.isTextSearchable
    piiWarnings := screening.piiWarnings.getD []
    createdAt := time }
  saveFiling context.filingId { context.file with copies := context.file.copies ++ [copy] }
  return .copy copy

/-- `POST /clerk/documents/{document_id}/public-copies` -/
def prepareCopy (cfg : Settings) (userId : UserId) (documentId : DocumentId) (title : String) (file : Upload) :
    Portal Response := do
  require (strip title ≠ "") (.http 422 "A public title is required")
  let (doc, probe) ← documentContext userId documentId
  require (publicationBlock doc probe.filing = none) (.http 409 ((publicationBlock doc probe.filing).getD ""))
  let (content, screening) ← inspectUpload cfg file true
  let uuid ← newId
  let fileKey := FileKey.publicCopy documentId uuid
  act fileKey (some content)
  (insertCopy userId documentId (strip title) fileKey content screening).onRaise (act fileKey none)

/-- `PublishCopy` and `WithholdDocument` -/
structure PublicationRequest where
  expectedVersion : Nat
  reason : String

/-- The change of a document's access. -/
def FilingFile.setAccess (file : FilingFile) (id : DocumentId) (copy : Option CopyId) (version : Nat) : FilingFile :=
  { file with documents := file.documents.map fun d =>
      if d.id = id then { d with isConfidential := true, publicCopyId := copy, accessVersion := version } else d }

section Fields

variable (file : FilingFile) (id : DocumentId) (copy : Option CopyId) (version : Nat)

@[simp] theorem FilingFile.setAccess_filing : (file.setAccess id copy version).filing = file.filing := rfl
@[simp] theorem FilingFile.setAccess_transactions :
    (file.setAccess id copy version).transactions = file.transactions := rfl
@[simp] theorem FilingFile.setAccess_payments : (file.setAccess id copy version).payments = file.payments := rfl
@[simp] theorem FilingFile.setAccess_copies : (file.setAccess id copy version).copies = file.copies := rfl

end Fields

/-- `POST /clerk/documents/{document_id}/publication` -/
def publishCopy (cfg : Settings) (userId : UserId) (documentId : DocumentId) (copyId : CopyId)
    (data : PublicationRequest) : Portal Response := do
  let (doc, probe) ← documentContext userId documentId
  require (doc.accessVersion = data.expectedVersion)
    (.http 409 "Document access changed. Refresh before publishing")
  let rows ← look (.envelope probe.filing.id)
  let copy ← expect (rows.bind fun rows => rows.copies.find? fun c => c.id == copyId && c.documentId == documentId)
    (.http 404 "Public copy not found for this document")
  let stored ← look (.object copy.fileKey)
  let content ← expect stored (.http 409 "The prepared copy is unavailable. Prepare it again")
  require (Digest.of content = copy.sha256Hash ∧ content.length = copy.fileSizeBytes)
    (.http 409 "The prepared copy failed its integrity check. Prepare it again")
  let context ← lockDocumentContext userId documentId
  require (publicationBlock context.doc context.file.filing = none)
    (.http 409 ((publicationBlock context.doc context.file.filing).getD ""))
  require (context.doc.accessVersion = data.expectedVersion)
    (.http 409 "Document access changed. Refresh before publishing")
  if context.doc.publicCopyId = some copy.id ∧ context.doc.isConfidential = true then
    return .publication (some copyId)
  else do
    let (saved, _) ← recordTransaction cfg
      (context.file.setAccess documentId (some copy.id) (data.expectedVersion + 1)) .publicCopyPublished userId
      (some data.reason) none { documentId := some documentId, publicCopy := some copy.response }
    saveFiling context.filingId saved
    return .publication (some copyId)

/-- `POST /clerk/documents/{document_id}/withhold` -/
def withholdDocument (cfg : Settings) (userId : UserId) (documentId : DocumentId) (data : PublicationRequest) :
    Portal Response := do
  let context ← lockDocumentContext userId documentId
  require (context.doc.accessVersion = data.expectedVersion)
    (.http 409 "Document access changed. Refresh before withholding")
  require (context.file.filing.status ≠ .draft ∨ context.doc.retainedAt.isSome = true)
    (.http 409 "The filer has not submitted this document")
  if context.doc.isConfidential = true ∧ context.doc.publicCopyId = none then return .publication none
  else do
    let (saved, _) ← recordTransaction cfg
      (context.file.setAccess documentId none (data.expectedVersion + 1)) .documentWithheld userId
      (some data.reason) none { documentId := some documentId, withdrawnCopyId := context.doc.publicCopyId }
    saveFiling context.filingId saved
    return .publication none

/-! ## Storage cleanup -/

/-- Documents and copies that refer to the object of a job. A key names the filing or the document it was made for, so
no other filing's rows can refer to it. -/
def referenced (job : StorageDeletion) : Portal Bool := do
  let row ← look (.envelope job.envelopeId)
  return row.any fun file =>
    (file.documents.any fun d => d.fileKey == job.fileKey) || file.copies.any fun c => c.fileKey == job.fileKey

/-- `seconds=min(3600, 30 * 2 ** min(job.attempt_count - 1, 7))`, in microseconds -/
def retryDelay (attemptCount : Nat) : Int := min 3600 (30 * 2 ^ min (attemptCount - 1) 7) * 1000000

/-- Put a job off. -/
def deferDeletion (id : Nat) (job : StorageDeletion) (error : String) : Portal Response := do
  let time ← now
  write (.deletion id) fun _ => some { job with
    attemptCount := job.attemptCount + 1
    lastError := some error
    nextAttemptAt := time + retryDelay (job.attemptCount + 1) }
  return .cleanup (some false)

/-- `cleanup_next`, on the job `id` that its query picks. `storageError` is what the object store
raises, if anything. -/
def cleanupNext (id : Nat) (storageError : Option String) : Portal Response := do
  let time ← now
  let row ← lockUpdate (.deletion id)
  match row.filter fun job => decide (job.nextAttemptAt ≤ time) with
  | none => return .cleanup none
  | some job => do
    let inUse ← referenced job
    if inUse = true then
      deferDeletion id job "Object is still referenced by a filing document or public copy"
    else
      match storageError with
      | some error => deferDeletion id job ("Storage deletion failed (" ++ error ++ ")")
      | none => do
        act job.fileKey none
        write (.deletion id) fun _ => none
        return .cleanup (some true)

end Muefs
