import Muefs.Formats.Sha256
import Muefs.Formats.Values
import Muefs.Listings.Keyset
import Muefs.Model.Notice
import Muefs.Model.People
import Muefs.Portal.Traffic
import Mathlib.Data.String.Basic

/-!
# The recovery audit

* `Records` : the rows that the audit reads, as they were restored; foreign keys may name nothing;
* `AuditQuery`, `Database` : its queries, all of one state; the database may refuse any of them;
* `inspectFiles`, `inspectReceipts`, `inspectServicePackets` : the three inspections, as generators of report lines;
* `runAudit` : the report and its exit code.
-/

namespace Muefs.StorageAudit
open Formats Listings

/-! ## Rows -/

structure FilingRow where
  id : Int
  courtId : Int
  caseId : Option Int

structure CaseRow where
  id : Int
  courtId : Int

/-- What `inspect_files` selects. -/
structure FileRow where
  id : Int
  fileKey : String
  sha256Hash : String
  fileSizeBytes : Int

structure DocumentRow extends FileRow where
  envelopeId : Int

structure CopyRow extends FileRow where
  documentId : Int

structure TransactionRow where
  id : String
  filingId : Int
  eventType : String
  details : Json

structure PacketRow where
  id : String
  caseId : Int
  filingId : Int
  sourceTransactionId : String
  actorId : Int
  details : Json
  requestSha256 : String

structure RecipientRow where
  id : String
  packetId : String
  recipientId : Int
  contactId : Int
  contactVersion : Int
  contactSnapshot : Json
  notificationId : Int

structure NoticeRow where
  id : Int
  recipientId : Int
  filingEnvelopeId : Option Int
  notificationType : NoticeType

structure ContactRow where
  id : Int
  caseId : Int
  participantId : Option Int
  participantSnapshot : Json
  userId : Option Int
  name : String
  method : ServiceMethod
  email : Option String
  address : Option String
  isActive : Bool
  authority : Option String
  version : Int

structure ParticipantRow where
  id : Int
  caseId : Int

/-- The database. Primary keys are unique. -/
structure Records where
  courts : List Int
  users : List Int
  filings : List FilingRow
  cases : List CaseRow
  documents : List DocumentRow
  copies : List CopyRow
  transactions : List TransactionRow
  packets : List PacketRow
  recipients : List RecipientRow
  notices : List NoticeRow
  contacts : List ContactRow
  participants : List ParticipantRow
  documentIds : (documents.map (·.id)).Nodup
  copyIds : (copies.map (·.id)).Nodup
  transactionIds : (transactions.map (·.id)).Nodup
  packetIds : (packets.map (·.id)).Nodup
  recipientIds : (recipients.map (·.id)).Nodup
  noticeIds : (notices.map (·.id)).Nodup
  contactIds : (contacts.map (·.id)).Nodup
  participantIds : (participants.map (·.id)).Nodup

/-- What an inspection is limited to. -/
structure AuditScope where
  courtId : Option Int := none
  caseId : Option Int := none

def AuditScope.scoped (scope : AuditScope) : Bool := scope.courtId.isSome || scope.caseId.isSome

namespace Records

variable (t : Records)

def filing (id : Int) : Option FilingRow := t.filings.find? (·.id == id)
def case (id : Int) : Option CaseRow := t.cases.find? (·.id == id)
def transaction (id : String) : Option TransactionRow := t.transactions.find? (·.id == id)
def notice (id : Int) : Option NoticeRow := t.notices.find? (·.id == id)
def contact (id : Int) : Option ContactRow := t.contacts.find? (·.id == id)
def participant (id : Int) : Option ParticipantRow := t.participants.find? (·.id == id)

/-- The subquery `filings` -/
def inFilings (scope : AuditScope) (id : Int) : Bool := t.filings.any fun filing =>
  filing.id == id && scope.courtId.all (filing.courtId == ·) && scope.caseId.all fun caseId =>
    filing.caseId == some caseId

/-- The subquery `cases` -/
def inCases (scope : AuditScope) (id : Int) : Bool := t.cases.any fun case =>
  case.id == id && scope.courtId.all (case.courtId == ·) && scope.caseId.all (case.id == ·)

end Records

/-! ## The report -/

inductive FileKind where
  | document
  | publicCopy
  deriving DecidableEq

/-- What a line of the report is about: its `kind`, `id` and `index`. -/
inductive AuditItem where
  | file (kind : FileKind) (id : Int)
  | receipt (id : String)
  | entry (kind : FileKind) (id : String) (index : Nat)
  | packet (id : String)
  | recipient (id : String)
  deriving DecidableEq

/-- `kind` -/
def AuditItem.kind : AuditItem → String
  | .file .document _ => "document"
  | .file .publicCopy _ => "public_copy"
  | .receipt _ => "receipt"
  | .entry .document _ _ => "receipt_document"
  | .entry .publicCopy _ _ => "receipt_public_copy"
  | .packet _ => "service_packet"
  | .recipient _ => "service_recipient"

/-- `status` -/
inductive AuditStatus where
  | verified
  | mismatch
  | missing
  | invalidReference
  | unavailable
  | invalidMetadata
  | missingMetadata
  | receiptMismatch
  | metadataConsistent
  | invalidManifest
  | deliveryMismatch
  deriving DecidableEq

/-- A line of the report. -/
structure AuditLine where
  item : AuditItem
  status : AuditStatus
  fields : List (String × Json) := []

/-! ## Queries -/

inductive AuditQuery where
  | connect
  | court (id : Int)
  | files (kind : FileKind) (last : Option Int)
  | documents (ids : List Int)
  | copies (ids : List Int)
  | transactions (last : Option String)
  | packets (last : Option String)
  | recipientCounts (ids : List String)
  | recipients (ids : List String)
  | orphans (last : Option String)

/-- What ends an audit early. A loop without fuel is `endless`. -/
inductive AuditError where
  | readOnlyDatabase (message : String)
  | reading (errorType : String)
  | other (errorType : String)
  | endless
  deriving DecidableEq

/-- `except (SQLAlchemyError, OSError, ValueError, LookupError)`: the type and the message of the report. -/
def AuditError.caught : AuditError → Option (String × String)
  | .readOnlyDatabase message => some ("ReadOnlyDatabaseError", message)
  | .reading errorType => some (errorType, "Could not read the collection. Check database access and schema.")
  | .other _ | .endless => none

/-- A connection that reads one state. It may refuse a query, also for what the rows hold. -/
structure Database where
  records : Records
  refuses : Records → AuditQuery → Option AuditError
  ends : ∀ q, refuses records q ≠ some .endless

abbrev Audit (α : Type) := Gen AuditLine AuditError α

/-- `await connection.execute(query)` -/
def Database.execute {α : Type} (db : Database) (q : AuditQuery) (answer : α) : Audit α :=
  match db.refuses db.records q with
  | some e => .raise e
  | none => return answer

/-! ## Storage -/

/-- What the storage raises. -/
inductive StorageError where
  | fileNotFound
  | value
  | os (errorType : String)

/-- `FilingDocumentResponse.model_validate(item).model_dump(mode="json")` -/
structure DocumentDump where
  id : Int
  documentTypeCode : String
  title : String
  fileSizeBytes : Int
  mimeType : String
  pageCount : Option Int
  sha256Hash : String
  isConfidential : Bool
  isTextSearchable : Bool
  uploadedAt : String
  deriving DecidableEq

/-- What the audit uses besides the database: the stored files, and the validation of a document response. -/
structure Recovery where
  storage : String → Except StorageError (List UInt8)
  modelValidate : Json → Option DocumentDump

/-! ## Files -/

/-- `_BATCH_SIZE` -/
def batchSize : Nat := 250

/-- A fingerprint and a size, if they are valid. -/
def fingerprintOf : Json → Json → Option (String × Int)
  | .string digest, .int size => if isHexdigest digest.toList ∧ 0 ≤ size then some (digest, size) else none
  | _, _ => none

/-- `_valid_fingerprint` -/
def validFingerprint (digest size : Json) : Bool := (fingerprintOf digest size).isSome

/-- `stored_integrity` of these bytes -/
def storedIntegrity (content : List UInt8) : String × Nat := (hexdigest content, content.length)

/-- One row of `inspect_files`. -/
def inspectFile (recovery : Recovery) (kind : FileKind) (row : FileRow) : AuditLine :=
  if validFingerprint (.string row.sha256Hash) (.int row.fileSizeBytes) = false then
    { item := .file kind row.id, status := .invalidMetadata }
  else
    let expected := [("expected_sha256", Json.string row.sha256Hash), ("expected_size_bytes", .int row.fileSizeBytes)]
    match recovery.storage row.fileKey with
    | .error .fileNotFound => { item := .file kind row.id, status := .missing, fields := expected }
    | .error .value => { item := .file kind row.id, status := .invalidReference, fields := expected }
    | .error (.os errorType) =>
      { item := .file kind row.id, status := .unavailable, fields := expected ++ [("error_type", .string errorType)] }
    | .ok content =>
      let (digest, size) := storedIntegrity content
      { item := .file kind row.id
        status := if digest = row.sha256Hash ∧ (size : Int) = row.fileSizeBytes then .verified else .mismatch
        fields := expected ++ [("sha256", .string digest), ("size_bytes", .int size)] }

/-- The rows of a kind that an audit of the court reads. -/
def Records.files (t : Records) (courtId : Option Int) : FileKind → List FileRow
  | .document => (t.documents.filter fun row => courtId.isNone || t.inFilings ⟨courtId, none⟩ row.envelopeId).map
      DocumentRow.toFileRow
  | .publicCopy => (t.copies.filter fun row => courtId.isNone || t.documents.any fun document =>
      document.id == row.documentId && t.inFilings ⟨courtId, none⟩ document.envelopeId).map CopyRow.toFileRow

/-- `inspect_files`, one kind -/
def inspectFileKind (fuel : Nat) (recovery : Recovery) (db : Database) (courtId : Option Int) (kind : FileKind) :
    Audit Unit :=
  keysetLoop .endless
    (fun last => db.execute (.files kind last) (keysetPage FileRow.id (db.records.files courtId kind) batchSize last))
    FileRow.id (fun _ rows => rows.foldlM (fun _ row => .yield (inspectFile recovery kind row)) ()) fuel none ()

/-- `inspect_files` -/
def inspectFiles (fuel : Nat) (recovery : Recovery) (db : Database) (courtId : Option Int) : Audit Unit := do
  inspectFileKind fuel recovery db courtId .document
  inspectFileKind fuel recovery db courtId .publicCopy

/-! ## Receipts -/

/-- `value.get(k)`, and `None` of a value that is no object. -/
def getJson (value : Json) (k : String) : Json := (value.get? k).getD .null

def isObject : Json → Bool
  | .object _ => true
  | _ => false

/-- `type(value) is int and value > 0` -/
def positiveId : Json → Option Int
  | .int n => if 0 < n then some n else none
  | _ => none

/-- The events whose transactions have a manifest. -/
def receiptEvents : List String :=
  ["submitted", "service_recorded", "waiver_granted", "waiver_denied", "filing_date_ordered", "fee_review_requested",
    "fee_assessed", "public_copy_published"]

def TransactionRow.kind (row : TransactionRow) : FileKind :=
  if row.eventType = "public_copy_published" then .publicCopy else .document

/-- The manifest of a transaction, if it has one. -/
def TransactionRow.manifest (row : TransactionRow) : Option (List Json) :=
  if isObject row.details = false then none
  else
    let manifest := match row.kind with
      | .publicCopy => Json.array [getJson row.details "public_copy"]
      | .document => getJson row.details "documents"
    match manifest with
    | .array (entry :: entries) => some (entry :: entries)
    | _ => none

/-- A valid entry of a manifest. `copyId` is that of a public copy. -/
structure Reference where
  kind : FileKind
  id : String
  index : Nat
  filingId : Int
  documentId : Int
  copyId : Option Int
  expectedSha256 : String
  expectedSizeBytes : Int

/-- The document that an entry with this `id` names. -/
def documentNamed (kind : FileKind) (entry : Json) (id : Int) : Option Int :=
  match kind with
  | .publicCopy => positiveId (getJson entry "document_id")
  | .document => some id

/-- The checks of one entry. -/
def readEntry (row : TransactionRow) (index : Nat) (entry : Json) : Option Reference := do
  let id ← positiveId (getJson entry "id")
  let documentId ← documentNamed row.kind entry id
  let (digest, size) ← fingerprintOf (getJson entry "sha256_hash") (getJson entry "file_size_bytes")
  return {
    kind := row.kind
    id := row.id
    index
    filingId := row.filingId
    documentId
    copyId := if row.kind = .publicCopy then some id else none
    expectedSha256 := digest
    expectedSizeBytes := size }

/-- The comparison of one reference with the rows that were read. -/
def compareReference (documents : List DocumentRow) (copies : List CopyRow) (ref : Reference) : AuditStatus :=
  let document := documents.find? (·.id == ref.documentId)
  -- the stored row, and whether it is of the document that the entry names
  let stored : Option (FileRow × Bool) := match ref.copyId with
    | some copyId => (copies.find? (·.id == copyId)).map fun copy => (copy.toFileRow, copy.documentId == ref.documentId)
    | none => document.map fun document => (document.toFileRow, true)
  match document, stored with
  | some document, some (stored, linked) =>
    if document.envelopeId ≠ ref.filingId ∨ linked = false ∨ stored.sha256Hash ≠ ref.expectedSha256 ∨
        stored.fileSizeBytes ≠ ref.expectedSizeBytes then .receiptMismatch
    else .metadataConsistent
  | _, _ => .missingMetadata

def Reference.fields (ref : Reference) : List (String × Json) :=
  [("filing_id", .int ref.filingId), ("document_id", .int ref.documentId),
    ("expected_sha256", .string ref.expectedSha256),
    ("expected_size_bytes", .int ref.expectedSizeBytes)] ++ ref.copyId.toList.map fun id => ("copy_id", .int id)

def Reference.item (ref : Reference) : AuditItem := .entry ref.kind ref.id ref.index

/-- The public copies that are compared. -/
def readCopies (db : Database) (ids : List Int) : Audit (List CopyRow) :=
  if ids = [] then return [] else db.execute (.copies ids) (db.records.copies.filter fun row => ids.contains row.id)

/-- `_compare_receipt_batch` -/
def compareReceiptBatch (db : Database) (references : List Reference) : Audit (List AuditLine) := do
  let ids := references.map Reference.documentId
  let documents ← db.execute (.documents ids) (db.records.documents.filter fun row => ids.contains row.id)
  let copies ← readCopies db (references.filterMap Reference.copyId)
  return references.map fun ref => ⟨ref.item, compareReference documents copies ref, ref.fields⟩

/-- `for result in …: yield result` -/
def yieldAll (lines : List AuditLine) : Audit Unit := lines.foldlM (fun _ line => .yield line) ()

/-- One entry of a manifest: the references are compared when there are enough of them. -/
def inspectEntry (db : Database) (row : TransactionRow) (references : List Reference) (p : Json × Nat) :
    Audit (List Reference) :=
  match readEntry row p.2 p.1 with
  | none => do
    .yield ⟨.entry row.kind row.id p.2, .invalidManifest, [("filing_id", .int row.filingId)]⟩
    return references
  | some ref =>
    if (references ++ [ref]).length = batchSize then do
      yieldAll (← compareReceiptBatch db (references ++ [ref]))
      return []
    else return references ++ [ref]

/-- One transaction. -/
def inspectTransaction (db : Database) (references : List Reference) (row : TransactionRow) : Audit (List Reference) :=
  match row.manifest with
  | none => do
    .yield ⟨.receipt row.id, .invalidManifest, []⟩
    return references
  | some manifest => manifest.zipIdx.foldlM (inspectEntry db row) references

/-- The transactions that `inspect_receipts` reads. -/
def Records.receipts (t : Records) (scope : AuditScope) : List TransactionRow := t.transactions.filter fun row =>
  receiptEvents.contains row.eventType && (scope.courtId.isNone || t.inFilings { scope with caseId := none }
    row.filingId) && (scope.caseId.isNone || t.inFilings { scope with courtId := none } row.filingId)

/-- `inspect_receipts` -/
def inspectReceipts (fuel : Nat) (db : Database) (scope : AuditScope) : Audit Unit := do
  let references ← keysetLoop .endless
    (fun last => db.execute (.transactions last) (keysetPage TransactionRow.id (db.records.receipts scope) 25 last))
    TransactionRow.id (fun references rows => rows.foldlM (inspectTransaction db) references) fuel none []
  if references = [] then return () else yieldAll (← compareReceiptBatch db references)

/-! ## Service packets -/

/-- `_service_manifest`, one document -/
def addDocument (recovery : Recovery) (documents : List (Int × DocumentDump)) (item : Json) :
    Option (List (Int × DocumentDump)) := do
  let id ← positiveId (getJson item "id")
  if documents.any (·.1 == id) || !validFingerprint (getJson item "sha256_hash")
    (getJson item "file_size_bytes") then none
  else
    let dump ← recovery.modelValidate item
    return documents ++ [(id, dump)]

/-- `_service_manifest` -/
def serviceManifest (recovery : Recovery) : Json → Option (List (Int × DocumentDump))
  | .array (item :: items) => (item :: items).foldlM (addDocument recovery) []
  | _ => none

/-- The documents of a packet and those of its receipt. -/
def packetManifests (recovery : Recovery) (details source : Json) :
    Option (List (Int × DocumentDump) × List (Int × DocumentDump)) := do
  if isObject details = false then none
  else match getJson details "documents" with
    | .array selected =>
      if 100 < selected.length then none
      else
        let documents ← serviceManifest recovery (.array selected)
        let original ← serviceManifest recovery (getJson source "documents")
        return (documents, original)
    | _ => none

/-- The source and the destination of a packet belong together. -/
def sourceMatches (packet : PacketRow) (filing : FilingRow) (case : CaseRow) (source : TransactionRow) : Bool :=
  filing.caseId == some packet.caseId && filing.courtId == case.courtId && source.filingId == packet.filingId &&
    ["submitted", "service_recorded"].contains source.eventType && isObject source.details &&
    (getJson source.details "case_id").equal (.int packet.caseId) &&
    (getJson source.details "court_id").equal (.int case.courtId) &&
    ["subsequent", "motion", "service_only"].any fun text => (getJson source.details "filing_type").equal (.string text)

/-- `sorted` of pairs -/
def pairLe (a b : Int × Int) : Bool := decide (a.1 < b.1) || (a.1 == b.1 && decide (a.2 ≤ b.2))

/-- The selection of a packet, as its fingerprint is taken of it. -/
def selection (packet : PacketRow) (documents : List (Int × DocumentDump)) (targets : List RecipientRow) : Json :=
  .object [
    ("filing_id", .int packet.filingId),
    ("source_transaction_id", .string packet.sourceTransactionId),
    ("documents", .array (((documents.map (·.1)).mergeSort (· ≤ ·)).map .int)),
    ("recipients", .array (((targets.map fun target => (target.contactId, target.contactVersion)).mergeSort pairLe).map
      fun pair => .array [.int pair.1, .int pair.2]))]

def selectionSha256 (packet : PacketRow) (documents : List (Int × DocumentDump))
    (targets : List RecipientRow) : String :=
  hexdigest (utf8Encode (dumpsAscii (selection packet documents targets)))

/-- What is found of a packet, and whether its recipients are looked at. -/
inductive PacketFinding where
  | closed (status : AuditStatus) (reason : Option String)
  | opened (status : AuditStatus) (reason : Option String)

/-- The checks of a packet with a source and a destination. -/
def inspectSelection (recovery : Recovery) (packet : PacketRow) (source : TransactionRow) (count : Nat)
    (targets : List RecipientRow) : PacketFinding :=
  match packetManifests recovery packet.details source.details with
  | none => .closed .invalidManifest none
  | some (documents, original) =>
    if documents.any (fun p => privateDocumentTypes.contains p.2.documentTypeCode ||
      original.lookup p.1 != some p.2) then
      .closed .deliveryMismatch (some "document_selection")
    else if ¬ (1 ≤ count ∧ count ≤ 100) then .closed .invalidManifest (some "recipient_count")
    else if targets.any (fun target =>
        decide (target.contactId < 1) || decide (target.contactVersion < 1) || decide (target.recipientId < 1)) then
      .closed .invalidManifest (some "recipient_selection")
    else if selectionSha256 packet documents targets ≠ packet.requestSha256 ∨
        ¬ (targets.map RecipientRow.contactId).Nodup ∨ ¬ (targets.map RecipientRow.recipientId).Nodup then
      .opened .deliveryMismatch (some "selection_fingerprint")
    else .opened .metadataConsistent none

/-- The checks of a packet. -/
def packetFinding (recovery : Recovery) (t : Records) (packet : PacketRow) (count : Nat) (targets : List RecipientRow) :
    PacketFinding :=
  match t.filing packet.filingId, t.case packet.caseId, t.transaction packet.sourceTransactionId,
      t.users.contains packet.actorId with
  | some filing, some case, some source, true =>
    if sourceMatches packet filing case source = false then .closed .deliveryMismatch (some "source_destination")
    else inspectSelection recovery packet source count targets
  | _, _, _, _ => .closed .missingMetadata none

def packetLine (packet : PacketRow) (status : AuditStatus) (reason : Option String) : AuditLine where
  item := .packet packet.id
  status
  fields := [("filing_id", .int packet.filingId), ("source_transaction_id", .string packet.sourceTransactionId)] ++
    (if validFingerprint (.string packet.requestSha256) (.int 0) then [("selection_sha256",
    .string packet.requestSha256)]
      else []) ++ reason.toList.map fun text => ("reason", .string text)

/-- A value or `None` -/
def jsonOf {α : Type} (make : α → Json) : Option α → Json
  | some a => make a
  | none => .null

/-- The value of a `ServiceMethod` -/
def methodText : ServiceMethod → String
  | .electronic => "electronic"
  | .mail => "mail"
  | .handDelivery => "hand_delivery"

/-- `{field: target[f"current_contact_{field}"] for field in CONTACT_SNAPSHOT_FIELDS}` -/
def ContactRow.snapshot (contact : ContactRow) : Json := .object [
  ("id", .int contact.id), ("participant_id", jsonOf .int contact.participantId),
  ("participant_snapshot", contact.participantSnapshot), ("user_id", jsonOf .int contact.userId),
  ("name", .string contact.name), ("method", .string (methodText contact.method)),
  ("email", jsonOf .string contact.email), ("address", jsonOf .string contact.address),
  ("is_active", .bool contact.isActive), ("authority", jsonOf .string contact.authority),
  ("version", .int contact.version)]

/-- `isinstance(value, str) and value.strip()` -/
def isText : Json → Bool
  | .string s => stripSpace s.toList != []
  | _ => false

/-- `value is True` -/
def isTrue : Json → Bool
  | .bool b => b
  | _ => false

/-- The snapshot is of the contact, the version and the account that the row names. -/
def snapshotMatches (target : RecipientRow) (contact : ContactRow) : Bool :=
  let snapshot := target.contactSnapshot
  let participant := getJson snapshot "participant_snapshot"
  isObject snapshot && isObject participant &&
    match getJson snapshot "id", getJson snapshot "version", getJson snapshot "user_id",
    getJson snapshot "participant_id",
        getJson participant "id", getJson participant "user_id" with
    | .int id, .int version, .int userId, .int participantId, .int participantRow, .int participantUser =>
      id == target.contactId && version == target.contactVersion && decide (1 ≤ target.contactVersion) &&
        decide (target.contactVersion ≤ contact.version) && userId == target.recipientId &&
        contact.participantId == some participantId && participantRow == participantId &&
        participantUser == target.recipientId && isTrue (getJson participant "is_active") &&
        isTrue (getJson snapshot "is_active") && (getJson snapshot "method").equal (.string "electronic") &&
        isText (getJson snapshot "email")
    | _, _, _, _, _, _ => false

/-- The checks of a recipient. -/
def recipientStatus (t : Records) (packet : PacketRow) (target : RecipientRow) : AuditStatus :=
  let contact := t.contact target.contactId
  match t.notice target.notificationId, contact, contact.bind fun contact => contact.participantId.bind t.participant,
      t.users.contains target.recipientId with
  | some notice, some contact, some participant, true =>
    if snapshotMatches target contact = false then .invalidManifest
    else if contact.version = target.contactVersion ∧ target.contactSnapshot.equal contact.snapshot = false then
      .deliveryMismatch
    else if contact.caseId ≠ packet.caseId ∨ participant.caseId ≠ packet.caseId ∨
      notice.recipientId ≠ target.recipientId ∨
        notice.filingEnvelopeId ≠ some packet.filingId ∨
        notice.notificationType ≠ .serviceOfProcess then .deliveryMismatch
    else .metadataConsistent
  | _, _, _, _ => .missingMetadata

def recipientLine (t : Records) (packet : PacketRow) (target : RecipientRow) : AuditLine where
  item := .recipient target.id
  status := recipientStatus t packet target
  fields := [("packet_id", .string packet.id), ("notification_id", .int target.notificationId)] ++
    if isObject target.contactSnapshot then
      [("contact_sha256", .string (hexdigest (utf8Encode (dumpsAscii target.contactSnapshot))))] else []

/-- One packet, and its recipients. -/
def inspectPacket (recovery : Recovery) (t : Records) (count : Nat) (targets : List RecipientRow) (packet : PacketRow) :
    Audit Unit :=
  match packetFinding recovery t packet count targets with
  | .closed status reason => .yield (packetLine packet status reason)
  | .opened status reason => do
    .yield (packetLine packet status reason)
    targets.foldlM (fun _ target => .yield (recipientLine t packet target)) ()

/-- `select(ServiceRecipient.packet_id, func.count()) … group_by(ServiceRecipient.packet_id)` -/
def Records.recipientCounts (t : Records) (ids : List String) : List (String × Nat) :=
  (ids.map fun id => (id, (t.recipients.filter (·.packetId == id)).length)).filter (·.2 != 0)

/-- The recipients of these packets. -/
def readRecipients (db : Database) (ids : List String) : Audit (List RecipientRow) :=
  if ids = [] then return []
  else db.execute (.recipients ids)
    (inOrder RecipientRow.id (db.records.recipients.filter fun row => ids.contains row.packetId))

/-- The packets of a page. -/
def inspectPackets (recovery : Recovery) (db : Database) (packets : List PacketRow) : Audit Unit := do
  let ids := packets.map PacketRow.id
  let counts ← db.execute (.recipientCounts ids) (db.records.recipientCounts ids)
  let count := fun id => (counts.lookup id).getD 0
  let rows ← readRecipients db (ids.filter fun id => decide (1 ≤ count id) && decide (count id ≤ 100))
  packets.foldlM (fun _ packet => inspectPacket recovery db.records (count packet.id)
    (rows.filter (·.packetId == packet.id)) packet) ()

/-- The subquery `linked_packets` -/
def Records.linked (t : Records) (scope : AuditScope) (packetId : String) : Bool := t.recipients.any fun row =>
  row.packetId == packetId &&
    ((t.notice row.notificationId).any (fun notice => notice.filingEnvelopeId.any (t.inFilings scope)) ||
      (t.contact row.contactId).any (fun contact => t.inCases scope contact.caseId ||
        (contact.participantId.bind t.participant).any fun participant => t.inCases scope participant.caseId))

/-- The packets that `inspect_service_packets` reads. -/
def Records.scopedPackets (t : Records) (scope : AuditScope) : List PacketRow := t.packets.filter fun packet =>
  !scope.scoped || t.inCases scope packet.caseId || t.inFilings scope packet.filingId ||
    (t.transaction packet.sourceTransactionId).any (fun source => t.inFilings scope source.filingId) ||
    t.linked scope packet.id

/-- The recipients without a packet. -/
def Records.orphans (t : Records) (scope : AuditScope) : List RecipientRow := t.recipients.filter fun row =>
  !t.packets.any (·.id == row.packetId) && (!scope.scoped ||
    (t.notice row.notificationId).any (fun notice => notice.filingEnvelopeId.any (t.inFilings scope)) ||
    (t.contact row.contactId).any (fun contact => t.inCases scope contact.caseId))

def orphanLine (row : RecipientRow) : AuditLine :=
  ⟨.recipient row.id, .missingMetadata, [("packet_id", .string row.packetId)]⟩

/-- `inspect_service_packets` -/
def inspectServicePackets (fuel : Nat) (recovery : Recovery) (db : Database) (scope : AuditScope) : Audit Unit := do
  keysetLoop .endless
    (fun last => db.execute (.packets last) (keysetPage PacketRow.id (db.records.scopedPackets scope) 25 last))
    PacketRow.id (fun _ packets => inspectPackets recovery db packets) fuel none ()
  keysetLoop .endless
    (fun last => db.execute (.orphans last) (keysetPage RecipientRow.id (db.records.orphans scope) batchSize last))
    RecipientRow.id (fun _ rows => rows.foldlM (fun _ row => .yield (orphanLine row)) ()) fuel none ()

/-! ## The audit -/

/-- The court must exist. -/
def requireCourt (db : Database) : Option Int → Audit Unit
  | none => return ()
  | some id => do
    let found ← db.execute (.court id) (db.records.courts.contains id && id != 0)
    if found then return () else .raise (.readOnlyDatabase "The selected court does not exist")

/-- The lines of `run_audit` between its first and its last. -/
def auditLines (fuel : Nat) (recovery : Recovery) (db : Database) (courtId : Option Int) : Audit Unit := do
  db.execute .connect ()
  requireCourt db courtId
  inspectFiles fuel recovery db courtId
  inspectReceipts fuel db { courtId }
  inspectServicePackets fuel recovery db { courtId }

/-- `counts[k] += 1` -/
def increment {κ : Type} [DecidableEq κ] (counts : List (κ × Nat)) (k : κ) : List (κ × Nat) :=
  if counts.any (·.1 == k) then counts.map fun p => if p.1 = k then (k, p.2 + 1) else p else counts ++ [(k, 1)]

/-- `Counter(values)` -/
def counter {κ : Type} [DecidableEq κ] (values : List κ) : List (κ × Nat) := values.foldl increment []

/-- `{"verified", "metadata_consistent"}` -/
def AuditStatus.passes : AuditStatus → Bool
  | .verified | .metadataConsistent => true
  | _ => false

/-- The report: its lines, the error, and the summary. -/
structure AuditReport where
  lines : List AuditLine
  error : Option (String × String)
  complete : Bool
  exitCode : Nat
  checked : List (String × Nat)
  results : List (AuditStatus × Nat)

/-- The number of results that are no success. -/
def failures (results : List (AuditStatus × Nat)) : Nat := ((results.filter fun p => !p.1.passes).map (·.2)).sum

def reportOf (lines : List AuditLine) (error : Option (String × String)) : AuditReport :=
  let results := counter (lines.map AuditLine.status)
  { lines
    error
    complete := error.isNone
    exitCode := if error.isSome then 2 else if 0 < failures results then 1 else 0
    checked := counter (lines.map (·.item.kind))
    results }

/-- `run_audit` -/
def runAudit (fuel : Nat) (recovery : Recovery) (db : Database) (courtId : Option Int) :
    Except AuditError AuditReport :=
  let audit := auditLines fuel recovery db courtId
  match audit.result with
  | .ok () => .ok (reportOf audit.yielded none)
  | .error e =>
    match e.caught with
    | some error => .ok (reportOf audit.yielded (some error))
    | none => .error e

end Muefs.StorageAudit
