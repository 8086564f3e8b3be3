import Muefs.Portal.Requests

/-!
# What users read

* `Tables` : one state of the store, with the columns and tables that only readers use;
* `caseVisibilityFilter`, `Tables.userMayReadDocument`, `Tables.mayReadPublicCopy` : who may read what;
* `Tables.downloadDocument`, `Tables.downloadPublicCopy` : the stored files;
* `Tables.getCase`, `Tables.getCaseFilings`, `Tables.listFavorites`, `Tables.searchCases` : cases, and
  the filings of one.

These requests change nothing but the audit log.
-/

namespace Muefs
open RowLocks

/-! ## Tables -/

inductive CaseStatus where
  | open_
  | closed
  | dismissed
  | pending
  deriving DecidableEq, Repr

structure FavoriteCase where
  id : Nat
  userId : UserId
  caseId : CaseId
  notes : Option String
  createdAt : Instant
  deriving DecidableEq

/-- What no other request of the model reads or writes, and how the database folds the case of a text. -/
structure Columns where
  county : CourtId → String
  status : CaseId → CaseStatus
  judgeId : CaseId → Option UserId
  caseCreatedAt : CaseId → Instant
  filingCreatedAt : FilingId → Instant
  favorites : List FavoriteCase
  lower : String → String

/-- One state of the store. The numbers in use are below `next`. -/
structure Tables extends Columns where
  db : Store
  next : Nat

/-- The state of a world. -/
def Columns.tables (c : Columns) (w : PortalWorld) : Tables := { c with db := w.db, next := w.next }

namespace Tables

variable (t : Tables)

def cases : List (CaseId × CaseFile) := (List.range t.next).filterMap fun id => (t.db (.case id)).map fun c => (id, c)

def filings : List FilingFile := (List.range t.next).filterMap fun f => t.db (.envelope f)

/-- A document by its primary key, with its filing. -/
def document (id : DocumentId) : Option (FilingFile × FilingDocument) :=
  t.filings.findSome? fun file => (file.document id).map fun doc => (file, doc)

/-- A public copy by its primary key. -/
def copy (id : CopyId) : Option DocumentPublicCopy :=
  (t.filings.flatMap FilingFile.copies).find? fun c => c.id == id

/-- `get_optional_user`, for someone signed in as this user or not signed in -/
def optionalUser (userId : Option UserId) : Option Viewer :=
  userId.bind fun id => ((t.db (.user id)).filter fun account => account.user.isActive).map fun account => ⟨id, account⟩

/-- `get_current_user` -/
def currentUser (userId : Option UserId) : Except Failure Viewer :=
  match userId with
  | none => .error (.http 401 "Authentication required")
  | some id =>
    match t.db (.user id) with
    | none => .error (.http 401 "This account is not set up for this system")
    | some account => if account.user.isActive then .ok ⟨id, account⟩ else .error (.http 403 "Account disabled")

end Tables

/-! ## Access -/

/-- `user_is_court_staff_for_court` -/
def isCourtStaffFor (user : Option Viewer) (court : CourtId) : Bool := user.any fun v => v.account.isCourtStaff court

/-- `envelope.filer_id == user_id` -/
def isFilerOf (user : Option Viewer) (filing : FilingEnvelope) : Bool := user.any fun v => v.id == filing.filerId

/-- `case_visibility_filter` -/
def caseVisibilityFilter (user : Option Viewer) (case : CaseFile) : Bool :=
  match user with
  | none => !case.row.isSealed
  | some v => Muefs.userMayReadCase v.id v.account case

/-- `PUBLIC_DOCKET_FILING_STATUSES` -/
def publicDocketFilingStatuses : List FilingStatus := [.accepted]

namespace Tables

variable (t : Tables) (user : Option Viewer)

/-- `user_may_read_case` -/
def userMayReadCase (caseId : CaseId) : Bool := (t.db (.case caseId)).any (caseVisibilityFilter user)

/-- `user_may_read_sealed_case` -/
def userMayReadSealedCase (caseId : CaseId) : Bool :=
  user.isSome && (t.db (.case caseId)).any fun c => c.row.isSealed && caseVisibilityFilter user c

/-- `user_may_read_filing_envelope` -/
def userMayReadFilingEnvelope (filing : FilingEnvelope) : Bool :=
  if isFilerOf user filing then true
  else if isCourtStaffFor user filing.courtId then true
  else if !publicDocketFilingStatuses.contains filing.status then false
  else match filing.caseId with
    | none => false
    | some caseId =>
      match t.db (.case caseId) with
      | none => false
      | some case => if case.row.isSealed then t.userMayReadSealedCase user caseId else true

/-- `user_may_read_document` -/
def userMayReadDocument (filing : FilingEnvelope) (doc : FilingDocument) : Bool :=
  if doc.isConfidential || privateDocumentTypes.contains doc.documentTypeCode || doc.removedAt.isSome then
    isFilerOf user filing || isCourtStaffFor user filing.courtId
  else t.userMayReadFilingEnvelope user filing

/-- `may_read_public_copy` -/
def mayReadPublicCopy (copy : DocumentPublicCopy) : Bool :=
  match t.document copy.documentId with
  | none => false
  | some (file, doc) =>
    if isCourtStaffFor user file.filing.courtId then true
    else if isFilerOf user file.filing then
      file.transactions.any fun tx => tx.eventType == .publicCopyPublished &&
        tx.details.publicCopy.any fun c => c.id == copy.id
    else if doc.publicCopyId ≠ some copy.id ∨ publicationBlock doc file.filing ≠ none then false
    else match file.filing.caseId with
      | none => false
      | some caseId => t.userMayReadCase user caseId

/-! ## Stored files -/

/-- A file as it is sent. -/
structure Download where
  title : String
  mimeType : String
  content : Content

/-- `DocumentResponse.open_file` -/
def openFile (key : FileKey) (sha256Hash : Digest Content) (size : Nat) : Except Failure Content :=
  match t.db (.object key) with
  | none => .error (.http 404 "Document file is unavailable")
  | some content =>
    if Digest.of content = sha256Hash ∧ content.length = size then .ok content
    else .error (.http 409 "Document failed its retained integrity check")

/-- The checks of `download_document`. -/
def readDocument (id : DocumentId) : Except Failure FilingDocument :=
  match t.document id with
  | none => .error (.http 404 "Document not found")
  | some (file, doc) =>
    if t.userMayReadDocument user file.filing doc then .ok doc
    else .error (.http 403 "Not authorized to access this document")

/-- `GET /documents/{document_id}/download` -/
def downloadDocument (id : DocumentId) : Except Failure Download := do
  let doc ← t.readDocument user id
  let content ← t.openFile doc.fileKey doc.sha256Hash doc.fileSizeBytes
  return ⟨doc.title, doc.mimeType, content⟩

/-- The checks of `download_public_copy`. -/
def readPublicCopy (id : CopyId) : Except Failure DocumentPublicCopy :=
  match t.copy id with
  | none => .error (.http 404 "Public copy not found")
  | some copy =>
    if t.mayReadPublicCopy user copy then .ok copy else .error (.http 403 "Not authorized to access this copy")

/-- `GET /document-public-copies/{copy_id}/download` -/
def downloadPublicCopy (id : CopyId) : Except Failure Download := do
  let copy ← t.readPublicCopy user id
  let content ← t.openFile copy.fileKey copy.sha256Hash copy.fileSizeBytes
  return ⟨copy.title, copy.mimeType, content⟩

end Tables

/-! ## Cases -/

/-- `CaseSearchParticipantPublic` -/
structure PublicParticipant where
  id : ParticipantId
  partyName : String
  role : ParticipantRole
  attorneyBarNumber : Option String
  representedPartyName : Option String
  isActive : Bool
  deriving DecidableEq

def CaseParticipant.publicRecord (p : CaseParticipant) : PublicParticipant where
  id := p.id
  partyName := p.partyName
  role := p.role
  attorneyBarNumber := p.attorneyBarNumber
  representedPartyName := p.representedPartyName
  isActive := p.isActive

structure CasePublicRecord where
  id : CaseId
  courtId : CourtId
  caseNumber : String
  caseTypeId : CaseTypeId
  title : String
  isSealed : Bool
  status : CaseStatus
  filedDate : Instant
  filingDate : Option Date
  judgeId : Option UserId
  participants : List PublicParticipant
  createdAt : Instant
  deriving DecidableEq

structure CaseDocketResponse extends CasePublicRecord where
  canManageRecords : Bool
  canFile : Bool
  deriving DecidableEq

structure CaseSearchResult extends CasePublicRecord where
  courtName : String
  courtCounty : String
  deriving DecidableEq

structure CaseSearchResponse where
  cases : List CaseSearchResult
  total : Nat
  page : Nat
  pageSize : Nat
  deriving DecidableEq

/-- What `search_cases` is asked for. -/
structure CaseQuery where
  caseNumber : Option String := none
  partyName : Option String := none
  attorneyBarNumber : Option String := none
  courtId : Option CourtId := none
  status : Option CaseStatus := none
  page : Nat := 1
  pageSize : Nat := 25

/-- `offset((page - 1) * page_size).limit(page_size)` -/
def paged {α : Type} (page pageSize : Nat) (rows : List α) : List α := (rows.drop ((page - 1) * pageSize)).take pageSize

/-- `order_by(key.desc(), id.desc())` -/
def descending {α : Type} (key : α → Instant) (id : α → Nat) (rows : List α) : List α :=
  rows.mergeSort fun a b => decide (key b < key a) || (key a == key b && decide (id b ≤ id a))

namespace Tables

variable (t : Tables) (user : Option Viewer)

/-- `CasePublicRecord.model_validate` -/
def publicRecord (id : CaseId) (case : CaseFile) : CasePublicRecord where
  id := id
  courtId := case.row.courtId
  caseNumber := case.row.caseNumber
  caseTypeId := case.row.caseTypeId
  title := case.row.title
  isSealed := case.row.isSealed
  status := t.status id
  filedDate := case.row.filedDate
  filingDate := case.row.filingDate
  judgeId := t.judgeId id
  participants := case.participants.map CaseParticipant.publicRecord
  createdAt := t.caseCreatedAt id

/-- The checks with which `get_case` and `get_case_filings` begin; they differ in the last text. -/
def visibleCase (caseId : CaseId) (refusal : String) : Except Failure CaseFile :=
  match t.db (.case caseId) with
  | none => .error (.http 404 "Case not found")
  | some case => if t.userMayReadCase user caseId then .ok case else .error (.http 403 refusal)

/-- `GET /cases/{case_id}` -/
def getCase (caseId : CaseId) : Except Failure CaseDocketResponse := do
  let case ← t.visibleCase user caseId "Not authorized to access this case"
  return { t.publicRecord caseId case with
    canManageRecords := isCourtStaffFor user case.row.courtId
    canFile := user.any fun v => userHasFilingGrant v.id v.account.user case }

/-- `icontains(text, autoescape=True)` -/
def icontains (text part : String) : Bool := decide ((t.lower part).toList <:+: (t.lower text).toList)

/-- The filters of `search_cases`. An empty text asks for nothing. -/
def matchesQuery (q : CaseQuery) (id : CaseId) (case : CaseFile) : Bool :=
  !case.row.isSealed
    && (q.caseNumber.filter (· ≠ "")).all (fun part => t.icontains case.row.caseNumber part)
    && (q.partyName.filter (· ≠ "")).all (fun part => case.participants.any fun p => t.icontains p.partyName part)
    && (q.attorneyBarNumber.filter (· ≠ "")).all (fun bar =>
      case.participants.any fun p => p.attorneyBarNumber == some bar)
    && q.courtId.all (fun court => case.row.courtId == court)
    && q.status.all (fun status => t.status id == status)

/-- `GET /cases/search` -/
def searchCases (q : CaseQuery) : CaseSearchResponse :=
  let found := t.cases.filter fun c => t.matchesQuery q c.1 c.2
  let rows := paged q.page q.pageSize (descending (fun c => c.2.row.filedDate) Prod.fst found)
  { cases := rows.map fun c => { t.publicRecord c.1 c.2 with
      courtName := ((t.db (.court c.2.row.courtId)).map Court.name).getD ""
      courtCounty := t.county c.2.row.courtId }
    total := found.length
    page := q.page
    pageSize := q.pageSize }

end Tables

structure FavoriteCaseResponse where
  id : Nat
  caseId : CaseId
  caseNumber : String
  caseTitle : String
  notes : Option String
  createdAt : Instant
  deriving DecidableEq

/-- A favorite as it is shown with its case, if the case is visible. -/
def Tables.visibleFavorite (t : Tables) (user : Viewer) (fav : FavoriteCase) : Option FavoriteCaseResponse :=
  ((t.db (.case fav.caseId)).filter (caseVisibilityFilter (some user))).map fun case => {
    id := fav.id
    caseId := fav.caseId
    caseNumber := case.row.caseNumber
    caseTitle := case.row.title
    notes := fav.notes
    createdAt := fav.createdAt }

/-- `GET /favorites` -/
def Tables.listFavorites (t : Tables) (userId : Option UserId) : Except Failure (List FavoriteCaseResponse) := do
  let user ← t.currentUser userId
  let mine := t.favorites.filter fun fav => fav.userId == user.id
  return (descending FavoriteCase.createdAt FavoriteCase.id mine).filterMap (t.visibleFavorite user)

/-! ## The filings of a case -/

/-- `CaseDocumentResponse` -/
structure CaseDocumentResponse extends DocumentResponse where
  copyId : Option CopyId
  deriving DecidableEq

structure CaseFilingResponse where
  id : FilingId
  status : FilingStatus
  caseTitle : Option String
  filingDescription : Option String
  submittedAt : Option Instant
  reviewedAt : Option Instant
  rejectionReason : Option String
  documents : List CaseDocumentResponse
  createdAt : Instant
  filingDate : Option Date
  deriving DecidableEq

/-- `CaseDocumentResponse.model_validate` -/
def FilingDocument.original (doc : FilingDocument) : CaseDocumentResponse := { doc.response with copyId := none }

/-- A document as its public copy. -/
def FilingDocument.asCopy (doc : FilingDocument) (copy : DocumentPublicCopy) : CaseDocumentResponse where
  id := doc.id
  copyId := some copy.id
  documentTypeCode := "PUBLIC_COPY"
  title := copy.title
  fileSizeBytes := copy.fileSizeBytes
  mimeType := copy.mimeType
  pageCount := some copy.pageCount
  sha256Hash := copy.sha256Hash
  isConfidential := false
  isTextSearchable := copy.isTextSearchable
  uploadedAt := copy.createdAt

/-- The documents of a filing that its entry can show. -/
def FilingFile.docketDocuments (file : FilingFile) : List FilingDocument :=
  file.documents.filter fun d => d.removedAt.isNone && d.documentTypeCode != "FEE_WAIVER_ORDER"

namespace Tables

variable (t : Tables) (user : Option Viewer)

/-- `coalesce(filing_date, submitted_at, created_at)`; a date is its first instant. -/
def docketTime (filing : FilingEnvelope) : Instant :=
  match filing.filingDate with
  | some date => date * microsPerDay
  | none => filing.submittedAt.getD (t.filingCreatedAt filing.id)

/-- The filings of a case that `get_case_filings` shows, in its order. -/
def docket (caseId : CaseId) : List FilingFile :=
  let shown := t.filings.filter fun file => file.filing.caseId == some caseId &&
    (publicDocketFilingStatuses.contains file.filing.status || isFilerOf user file.filing ||
      isCourtStaffFor user file.filing.courtId)
  descending (fun file => t.docketTime file.filing) (fun file => file.filing.id) shown

/-- What a filing's entry shows of a document: `inside` for its filer and the court's staff. -/
def docketEntry (inside : Bool) (doc : FilingDocument) : Option CaseDocumentResponse :=
  if inside then some doc.original
  else if privateDocumentTypes.contains doc.documentTypeCode then none
  else match (doc.publicCopyId.bind t.copy).filter fun copy => copy.documentId == doc.id with
    | some copy => some (doc.asCopy copy)
    | none => if doc.isConfidential then none else some doc.original

/-- The entry of a filing, for `staff` of the case's court. -/
def filingEntry (staff : Bool) (file : FilingFile) : CaseFilingResponse where
  id := file.filing.id
  status := file.filing.status
  caseTitle := file.filing.caseTitle
  filingDescription := file.filing.filingDescription
  submittedAt := file.filing.submittedAt
  reviewedAt := file.filing.reviewedAt
  rejectionReason := file.filing.rejectionReason
  documents := file.docketDocuments.filterMap (t.docketEntry (staff || isFilerOf user file.filing))
  createdAt := t.filingCreatedAt file.filing.id
  filingDate := file.filing.filingDate

/-- `GET /cases/{case_id}/filings` -/
def getCaseFilings (caseId : CaseId) (page pageSize : Nat) : Except Failure (List CaseFilingResponse) := do
  let case ← t.visibleCase user caseId "Not authorized to access filings for this case"
  return (paged page pageSize (t.docket user caseId)).map (t.filingEntry user (isCourtStaffFor user case.row.courtId))

end Tables

end Muefs
