import Muefs.Deliveries.Contacts
import Muefs.Portal.Service

/-!
# Sending documents

* `routingError`, `emailContext` : whether a delivery may be announced by email now;
* `requireSender`, `checkSelected`, `checkDocuments` : what `create_packet` asks of the sender and of the selection;
* `sendDocuments` : the filer or the court's staff deliver documents of a receipt.
-/

namespace Muefs
open RowLocks

/-! ## Routing -/

/-- The account with this number. -/
def userOf (db : BothStore) (id : UserId) : Option (UserId × User) :=
  (db (.inl (.user id))).map fun account => (id, account.user)

/-- The account of a participant. -/
def participantUserOf (db : BothStore) (p : CaseParticipant) : Option (UserId × User) := p.userId.bind (userOf db)

/-- A contact of a case with its participant. -/
def contactOf (db : BothStore) (caseId : CaseId) (id : ContactId) :
    Option (CaseFile × ServiceContact × CaseParticipant) := do
  let case ← db (.inl (.case caseId))
  let contact ← (db (.inr (.contacts caseId))).find? fun c => c.id == id
  let p ← case.participants.find? fun p => p.id == contact.participantId
  return (case, contact, p)

/-- The error of `email_context` for a recipient of a packet, in one state of the store. -/
def routingError (cfg : Settings) (db : BothStore) (caseId : CaseId) (recipient : ServiceRecipient) : Option String :=
  let changed := "Service instructions changed. Review them and create a new delivery"
  match contactOf db caseId recipient.contactId with
  | none => some changed
  | some (case, contact, p) =>
    if contact.caseId ≠ caseId ∨ some recipient.recipientId ≠ contact.userId ∨
        recipient.contactVersion ≠ contact.version ∨ recipient.contactSnapshot ≠ contactSnapshot
        contact then some changed
    else
      let issues := routingIssues cfg case.row p (participantUserOf db p) contact
      if issues = [] then none else some (" ".intercalate issues)

/-- A recipient with the packet, by the notice that announces the delivery. -/
def announced (db : BothStore) (noticeId : NoticeId) : Option (ServicePacket × ServiceRecipient) := do
  let packetId ← db (.inr (.alert noticeId))
  let packet ← db (.inr (.packet packetId))
  let recipient ← packet.recipients.find? fun r => r.notificationId == noticeId
  return (packet, recipient)

/-- The error of `email_context`, in one state of the store. -/
def emailContext (cfg : Settings) (db : BothStore) (noticeId : NoticeId) : Option String :=
  if cfg.serviceDeliveryEnabled = false ∨ cfg.emailDeliveryEnabled = false then some "Document delivery is not enabled"
  else match announced db noticeId with
    | none => some "The retained document delivery is unavailable"
    | some (packet, recipient) => routingError cfg db packet.caseId recipient

/-! ## The sender -/

/-- `ServicePacketCreate` -/
structure ServicePacketCreate where
  sourceTransactionId : TransactionId
  documentIds : List DocumentId
  /-- Contacts with their versions. -/
  recipients : List (ContactId × Nat)
  documents : documentIds ≠ [] ∧ documentIds.length ≤ 100 ∧ documentIds.Nodup
  contacts : recipients ≠ [] ∧ recipients.length ≤ 100 ∧ (recipients.map Prod.fst).Nodup
  versions : ∀ r ∈ recipients, 1 ≤ r.2

/-- What the fingerprint of a request is taken of. -/
def ServicePacketCreate.fields (data : ServicePacketCreate) (filingId : FilingId) : PacketFields where
  filingId := filingId
  sourceTransactionId := data.sourceTransactionId
  documents := data.documentIds.mergeSort fun a b => decide (a ≤ b)
  recipients := data.recipients.mergeSort fun a b => decide (a.1 < b.1) || (a.1 == b.1 && decide (a.2 ≤ b.2))

/-- Court-reviewed participation, as `require_sender` asks for it. -/
def participates (userId : UserId) (user : User) (case : CaseFile) : Bool :=
  case.participants.any fun p => p.userId == some userId && p.isActive && p.reviewedAt.isSome
    && (!p.role.isCounsel || counselMatches user p)

/-- `require_sender` with `lock=True` -/
def requireSender (cfg : Settings) (actorId : UserId) (actor : Account) (filingId : FilingId) :
    Portal (FilingFile × CaseId × CaseFile) := do
  requireUserMayManageEfilings actor
  let row ← lockFiling filingId
  let file ← expect row (.http 404 "Filing not found")
  let staff := actor.isCourtStaff file.filing.courtId
  require (file.filing.filerId = actorId ∨ staff = true)
    (.http 403 "The filer or assigned court staff must select documents for delivery")
  let own := "This workflow is for subsequent documents on an existing case. " ++
    "Follow the court's service procedure for case-initiating documents."
  require (file.filing.filingType = .subsequent ∨ file.filing.filingType = .motion ∨
    file.filing.filingType = .serviceOnly)
    (.http 409 own)
  let caseId ← expect file.filing.caseId (.http 409 own)
  let caseRow ← lockShare (.case caseId)
  let case ← expect caseRow (.http 409 "The filing's case destination needs court review")
  require (case.row.courtId = file.filing.courtId) (.http 409 "The filing's case destination needs court review")
  require (mayReceiveEmail cfg actor.user = true)
    (.http 403 "Document delivery requires an active account with verified email")
  require (staff = true ∨ (participates actorId actor.user case = true ∧ userMayReadCase actorId actor case = true))
    (.http 403 "Court-reviewed case participation is required to send documents")
  return (file, caseId, case)

/-- `source_documents` -/
def sourceDocuments (source : FilingTransaction) : Except Failure (List DocumentResponse) :=
  match source.details.documents with
  | some records =>
    if (records.map DocumentResponse.id).Nodup then
      .ok (records.filter fun record => !privateDocumentTypes.contains record.documentTypeCode)
    else .error (.http 409 "The retained document manifest needs court review")
  | none => .error (.http 409 "The retained document manifest needs court review")

/-! ## The selection -/

/-- A selected contact with its participant and account. -/
structure SelectedRecipient where
  contact : ServiceContact
  participant : CaseParticipant
  userId : UserId
  user : User

/-- The join of the selected contacts with their participants and accounts, in the order of the contacts. -/
def selectedContacts (db : BothStore) (caseId : CaseId) (case : CaseFile) (contacts : List ServiceContact)
    (choices : List (ContactId × Nat)) : List SelectedRecipient :=
  ((contacts.filter fun c => c.caseId == caseId && (choices.lookup c.id).isSome).mergeSort
    fun a b => decide (a.id ≤ b.id)).filterMap fun contact => do
      let p ← case.participants.find? fun p => p.id == contact.participantId
      let (userId, user) ← participantUserOf db p
      return ⟨contact, p, userId, user⟩

/-- The loop over the selected contacts; `accounts` are those of the contacts before. -/
def checkSelected (cfg : Settings) (case : Case) (actorId : UserId) (choices : List (ContactId × Nat)) :
    List UserId → List SelectedRecipient → Portal Unit
  | _, [] => return ()
  | accounts, row :: rows => do
    require (row.contact.method = .electronic ∧ choices.lookup row.contact.id = some row.contact.version)
      (.http 409 "The selected service instructions changed. Refresh before sending")
    let issues := routingIssues cfg case row.participant (some (row.userId, row.user)) row.contact
    require (issues = []) (.http 409 (" ".intercalate issues))
    require (row.userId ≠ actorId ∧ row.userId ∉ accounts)
      (.http 422 "Select each recipient account once, excluding your own account")
    checkSelected cfg case actorId choices (row.userId :: accounts) rows

/-- The record of a document in the receipt still describes it. -/
def FilingDocument.matchesRecord (doc : FilingDocument) (saved : DocumentResponse) : Bool :=
  !privateDocumentTypes.contains doc.documentTypeCode && doc.sha256Hash == saved.sha256Hash
    && doc.fileSizeBytes == saved.fileSizeBytes && doc.mimeType == saved.mimeType

/-- The loop over the selected documents. -/
def checkDocuments (manifest : List DocumentResponse) : List FilingDocument → Portal Unit
  | [] => return ()
  | doc :: docs => do
    let saved ← expect (manifest.find? fun record => record.id == doc.id)
      (.http 409 "A selected document no longer matches its retained receipt")
    require (doc.matchesRecord saved = true) (.http 409 "A selected document no longer matches its retained receipt")
    let stored ← look (.object doc.fileKey)
    let content ← expect stored (.http 409 "A selected document could not be read from storage")
    require (Digest.of content = saved.sha256Hash ∧ content.length = saved.fileSizeBytes)
      (.http 409 "A selected document failed its integrity check")
    checkDocuments manifest docs

/-! ## The packet -/

/-- The notice of a delivery, before its email is queued. -/
def deliveryNotice (id : NoticeId) (recipientId : UserId) (filingId : FilingId) : Notice where
  id := id
  noticeType := .serviceOfProcess
  recipientId := recipientId
  filingEnvelopeId := some filingId

/-- The recipients of a packet, each with a notice whose email is in the queue. -/
def addRecipients (cfg : Settings) (actorId : UserId) (caseId : CaseId) (filingId : FilingId) :
    List SelectedRecipient → Service (List ServiceRecipient)
  | [] => return []
  | row :: rows => do
    let noticeId ← Service.newId
    let id ← Service.newId
    let recipient : ServiceRecipient := {
      id
      recipientId := row.userId
      contactId := row.contact.id
      contactVersion := row.contact.version
      contactSnapshot := contactSnapshot row.contact
      notificationId := noticeId }
    let seen ← Txn.snapshot
    let time ← Service.now
    let messageId ← Service.newId
    let notice ← Txn.ofExcept (queueEmail cfg (deliveryNotice noticeId row.userId filingId)
      (routingError cfg seen caseId recipient) ((userOf seen row.userId).map Prod.snd) time messageId (some actorId)
      (some "Explicit document delivery requested"))
    Service.check (notice.deliveryStatus = .pending)
      (.http 409 (notice.lastError.getD "The delivery alert could not be queued"))
    Service.save (.notice noticeId) fun _ => some notice
    let rest ← addRecipients cfg actorId caseId filingId rows
    return recipient :: rest

/-- Save a packet with the entries of its indexes. -/
def savePacket (packet : ServicePacket) : List ServiceRecipient → Service Unit
  | [] => do
    Service.save (.packet packet.id) fun _ => some packet
    Service.save (.packetKey packet.actorId packet.idempotencyKey) fun _ => some packet.id
  | recipient :: recipients => do
    Service.save (.delivery recipient.id) fun _ => some packet.id
    Service.save (.alert recipient.notificationId) fun _ => some packet.id
    savePacket packet recipients

/-- The packet that an earlier request with this key created. -/
def findPacket (actorId : UserId) (key : Uuid) : Service (Option ServicePacket) := do
  let db ← Txn.snapshot
  return (db (.inr (.packetKey actorId key))).bind fun id => db (.inr (.packet id))

/-- The answer to a request whose key is in use. -/
def replayPacket (packet : ServicePacket) (fields : PacketFields) : Service PacketId := do
  Service.check (packet.requestSha256 = .of fields)
    (.http 409 "This delivery key was already used for different selections")
  return packet.id

/-- The packet that `create_packet` inserts, without recipients. -/
def newPacket (id : PacketId) (caseId : CaseId) (case : CaseFile) (file : FilingFile) (source : FilingTransaction)
    (actorId : UserId) (actor : Account) (time : Instant) (key : Uuid) (fields : PacketFields) (court : Option Court)
    (manifest : List DocumentResponse) : ServicePacket where
  id := id
  caseId := caseId
  filingId := file.filing.id
  sourceTransactionId := source.id
  actorId := actorId
  actorName := actor.user.fullName
  createdAt := time
  idempotencyKey := key
  requestSha256 := .of fields
  courtName := court.map Court.name
  caseNumber := case.row.caseNumber
  caseTitle := case.row.title
  documents := fields.documents.filterMap fun id => manifest.find? fun record => record.id == id
  recipients := []

/-- `create_packet` after the check of its key -/
def insertPacket (cfg : Settings) (actorId : UserId) (actor : Account) (filingId : FilingId)
    (data : ServicePacketCreate)
    (key : Uuid) : Service PacketId := do
  Service.check (cfg.serviceDeliveryEnabled = true ∧ cfg.emailDeliveryEnabled = true)
    (.http 503 "Document delivery is not enabled. Follow the court's service instructions")
  Service.check (cfg.emailConfigError = none) (.value (cfg.emailConfigError.getD ""))
  let (file, caseId, case) ← ofPortal (requireSender cfg actorId actor filingId)
  let contacts ← Service.share (.contacts caseId)
  let source ← Txn.ofExcept (currentSource file)
  Service.check (source.id = data.sourceTransactionId)
    (.http 409 "The filing was resubmitted. Review the current documents before sending")
  let manifest ← Txn.ofExcept (sourceDocuments source)
  Service.check (data.documentIds ⊆ manifest.map DocumentResponse.id)
    (.http 422 "Select only documents from this receipt. Fee-waiver material cannot be sent")
  let seen ← Txn.snapshot
  let rows := selectedContacts seen caseId case contacts data.recipients
  Service.check (rows.length = data.recipients.length) (.http 422 "Select reviewed electronic contacts from this case")
  let _ ← ofPortal (checkSelected cfg case.row actorId data.recipients [] rows)
  let documents := file.documents.filter fun d => d.retainedAt.isSome && data.documentIds.contains d.id
  Service.check (documents.length = data.documentIds.length) (.http 409 "A selected retained document is unavailable")
  let _ ← ofPortal (checkDocuments manifest documents)
  let court ← ofPortal (look (.court case.row.courtId))
  let time ← Service.now
  let id ← Service.newId
  let taken ← Service.lock (.packetKey actorId key)
  match taken with
  | some _ => do
    let existing ← findPacket actorId key
    let packet ← Service.get existing (.integrity "uq_service_packet_key")
    replayPacket packet (data.fields filingId)
  | none => do
    let recipients ← addRecipients cfg actorId caseId file.filing.id rows
    let packet := { newPacket id caseId case file source actorId actor time key (data.fields filingId)
      court manifest with
      recipients }
    savePacket packet recipients
    return id

/-- `POST /service/filings/{filing_id}/deliveries`, which answers with the packet -/
def sendDocuments (cfg : Settings) (userId : UserId) (filingId : FilingId) (key : Uuid) (data : ServicePacketCreate) :
    Service PacketId := do
  let _ ← ofPortal (getCurrentUser userId)
  let actorRow ← ofPortal (lockShare (.user userId))
  let actor ← Service.get (actorRow.filter fun account => account.user.isActive) (.http 403 "Account is unavailable")
  let existing ← findPacket userId key
  match existing with
  | some packet => replayPacket packet (data.fields filingId)
  | none => insertPacket cfg userId actor filingId data key

end Muefs
