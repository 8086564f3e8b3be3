import Muefs.Deliveries.System

/-!
# What a commit does to deliveries

* `ContactReview`, `ContactStep` : a contact of a case is saved under its next version;
* `Addressed`, `SentDocuments`, `Sent` : what `create_packet` checked of a recipient and of the documents, and of the
  packet that it saved;
* `Viewed`, `Entered` : what a request on one delivery read of it, and who it came from;
* `MailStep` : the change of a notice that announces a delivery, or whose email is on its way;
* `ServiceStep` : the change of any name; `ServiceChanges` : what a request on deliveries does to the store.
-/

namespace Muefs
open RowLocks

/-! ## Contacts -/

/-- The account of a participant, as it was read. -/
def AccountRead (tr : BothTrace) (p : CaseParticipant) (account : Option (UserId × User)) : Prop :=
  (p.userId = none ∧ account = none) ∨ ∃ id row, p.userId = some id ∧ ⟨.look (.inl (.user id)), row⟩ ∈ tr ∧
    account = row.map fun a => (id, a.user)

/-- What the court's staff reviewed when they saved a contact. -/
structure ContactReview (cfg : Settings) (db : BothStore) (tr : BothTrace) (userId : UserId) (caseId : CaseId)
    (participantId : ParticipantId) (data : ContactChange) (before : Option ServiceContact) (after : ServiceContact) :
    Prop where
  staff : ∃ actor case, db (.inl (.user userId)) = some actor ∧ db (.inl (.case caseId)) = some case ∧
    actor.user.isActive = true ∧ actor.isCourtStaff case.row.courtId = true ∧
    case.row.participantVersion = data.expectedParticipantVersion ∧
    ∃ p, case.participants.find? (fun p => p.id == participantId) = some p ∧ p.userId ≠ some userId ∧
      after.participantSnapshot = some (participantSnapshot p) ∧ after.userId = p.userId
  other : ∀ c, before = some c → c.userId ≠ some userId
  routable : after.isActive = true → ∃ (case : CaseFile) (p : CaseParticipant) (account : Option (UserId × User)),
    db (.inl (.case caseId)) = some case ∧ case.participants.find? (fun p => p.id == participantId) = some p ∧
    AccountRead tr p account ∧ routingIssues cfg case.row p account after = []
  expected : (before.map ServiceContact.version).getD 0 = data.expectedVersion
  version : after.version = data.expectedVersion + 1
  reviewer : after.reviewerId = some userId
  participantId : after.participantId = participantId
  caseId : after.caseId = caseId

/-- The contacts of a case after a review of one of them, which has the next version then, and the event
of the change. -/
inductive ContactStep (cfg : Settings) (r : ServiceRequest) (db : BothStore) (tr : BothTrace) (id : CaseId)
    (cs : List ServiceContact) : List ServiceContact → ContactEvent → Prop where
  | revised (userId : UserId) (participantId : ParticipantId) (data : ContactChange) (old new : ServiceContact)
      (event : ContactEvent) (hr : r = .saveServiceInstructions userId id participantId data)
      (hold : cs.find? (fun c => c.participantId == participantId) = some old) (hid : new.id = old.id)
      (hreview : ContactReview cfg db tr userId id participantId data (some old) new)
      (hbefore : event.before = some (contactSnapshot old)) (hafter : event.after = contactSnapshot new) :
      ContactStep cfg r db tr id cs (cs.map fun c => if c.id = old.id then new else c) event
  | added (userId : UserId) (participantId : ParticipantId) (data : ContactChange) (new : ServiceContact)
      (event : ContactEvent) (hr : r = .saveServiceInstructions userId id participantId data)
      (hnone : cs.find? (fun c => c.participantId == participantId) = none) (hid : ⟨.fresh, new.id⟩ ∈ tr)
      (hreview : ContactReview cfg db tr userId id participantId data none new) (hbefore : event.before = none)
      (hafter : event.after = contactSnapshot new) : ContactStep cfg r db tr id cs (cs ++ [new]) event

/-! ## Packets -/

/-- The recipient is the account of a participant of the case, and this contact was selected for it at its version. -/
structure Addressed (cfg : Settings) (seen : BothStore) (caseId : CaseId) (case : CaseFile)
    (contacts : List ServiceContact)
    (choices : List (ContactId × Nat)) (rcp : ServiceRecipient) (contact : ServiceContact) (p : CaseParticipant)
    (user : User) : Prop where
  mem : contact ∈ contacts
  caseId : contact.caseId = caseId
  contactId : rcp.contactId = contact.id
  selected : choices.lookup contact.id = some contact.version
  version : rcp.contactVersion = contact.version
  snapshot : rcp.contactSnapshot = contactSnapshot contact
  electronic : contact.method = .electronic
  participant : case.participants.find? (fun q => q.id == contact.participantId) = some p
  account : participantUserOf seen p = some (rcp.recipientId, user)
  routed : routingIssues cfg case.row p (some (rcp.recipientId, user)) contact = []

/-- The documents of a packet are records of the receipt that are not private, and match the documents that the filing
retained. -/
structure SentDocuments (file : FilingFile) (source : FilingTransaction) (data : ServicePacketCreate)
    (packet : ServicePacket) : Prop where
  current : currentSource file = .ok source
  reviewed : source.id = data.sourceTransactionId
  sourceTransactionId : packet.sourceTransactionId = source.id
  caseId : file.filing.caseId = some packet.caseId
  filingId : packet.filingId = file.filing.id
  listed : ∃ records, source.details.documents = some records ∧ (records.map DocumentResponse.id).Nodup ∧
    ∀ d ∈ packet.documents, d ∈ records
  notPrivate : ∀ d ∈ packet.documents, privateDocumentTypes.contains d.documentTypeCode = false
  ids : packet.documents.map DocumentResponse.id = data.documentIds.mergeSort fun a b => decide (a ≤ b)
  available : (file.documents.filter fun doc => doc.retainedAt.isSome && data.documentIds.contains doc.id).length =
    data.documentIds.length
  retained : ∀ doc ∈ file.documents, doc.retainedAt.isSome = true → doc.id ∈ data.documentIds →
    ∃ d ∈ packet.documents, d.id = doc.id ∧ doc.matchesRecord d = true

/-- The sender is the filer or staff of the filing's court, which is the case's. -/
structure Sender (cfg : Settings) (db : BothStore) (userId : UserId) (file : FilingFile) (case : CaseFile) : Prop where
  account : ∃ actor, db (.inl (.user userId)) = some actor ∧ actor.user.isActive = true ∧
    mayReceiveEmail cfg actor.user = true ∧ actor.user.userType ≠ .publicUser ∧
    (actor.isCourtStaff file.filing.courtId = true ∨ (file.filing.filerId = userId ∧
      participates userId actor.user case = true ∧ userMayReadCase userId actor case = true))
  court : case.row.courtId = file.filing.courtId

/-- The notice of a new recipient, with its email in the queue. -/
def NewNotice (cfg : Settings) (tr : BothTrace) (actorId : UserId) (caseId : CaseId) (filingId : FilingId)
    (rcp : ServiceRecipient) (notice : Notice) : Prop :=
  ∃ seen time messageId reason, ⟨.snapshot, seen⟩ ∈ tr ∧
    queueEmail cfg (deliveryNotice rcp.notificationId rcp.recipientId filingId) (routingError cfg seen caseId rcp)
      ((userOf seen rcp.recipientId).map Prod.snd) time messageId (some actorId) reason = .ok notice ∧
    notice.deliveryStatus = .pending

/-- The packet that a request composes. -/
structure Composed (cfg : Settings) (db : BothStore) (tr : BothTrace) (userId : UserId)
    (filingId : FilingId) (key : Uuid)
    (data : ServicePacketCreate) (packet : ServicePacket) : Prop where
  actorId : packet.actorId = userId
  idempotencyKey : packet.idempotencyKey = key
  requestSha256 : packet.requestSha256 = .of (data.fields filingId)
  fresh : ⟨.fresh, packet.id⟩ ∈ tr
  documents : ∃ file source case, db (.inl (.envelope filingId)) = some file ∧ SentDocuments file source data packet ∧
    db (.inl (.case packet.caseId)) = some case ∧ Sender cfg db userId file case
  recipients : ∃ case seen, db (.inl (.case packet.caseId)) = some case ∧ ⟨.snapshot, seen⟩ ∈ tr ∧
    ∀ rcp ∈ packet.recipients, ∃ contact p user,
      Addressed cfg seen packet.caseId case (db (.inr (.contacts packet.caseId))) data.recipients rcp contact p user
  apart : (packet.recipients.map ServiceRecipient.recipientId).Nodup
  others : ∀ rcp ∈ packet.recipients, rcp.recipientId ≠ userId
  count : packet.recipients.length = data.recipients.length
  numbers : (packet.recipients.flatMap fun rcp => [rcp.notificationId, rcp.id]).Sublist (draws tr)

/-- **The packet that a request saves,** with its index entries and a notice for each recipient. -/
structure Sent (cfg : Settings) (db db' : BothStore) (tr : BothTrace) (userId : UserId)
    (filingId : FilingId) (key : Uuid)
    (data : ServicePacketCreate) (packet : ServicePacket) : Prop
    extends Composed cfg db tr userId filingId key data packet where
  keyed : db' (.inr (.packetKey userId key)) = some packet.id
  rows : ∀ rcp ∈ packet.recipients, db' (.inr (.delivery rcp.id)) = some packet.id ∧
    db' (.inr (.alert rcp.notificationId)) = some packet.id ∧
    ∃ notice, db' (.inr (.notice rcp.notificationId)) = some notice ∧
      ∃ rcp' ∈ packet.recipients, rcp'.notificationId = rcp.notificationId ∧
        NewNotice cfg tr userId packet.caseId packet.filingId rcp' notice

/-- A new packet. -/
def PacketStep (cfg : Settings) (r : ServiceRequest) (db db' : BothStore) (tr : BothTrace) (id : PacketId)
    (v : Option ServicePacket) : Prop :=
  ∃ packet userId filingId key data, v = some packet ∧ packet.id = id ∧
    r = .sendDocuments userId filingId key data ∧ Sent cfg db db' tr userId filingId key data packet

/-! ## One delivery -/

/-- What a request on a delivery read of it. -/
structure Viewed (tr : BothTrace) (userId : UserId) (user : User) (id : DeliveryId) (packet : ServicePacket)
    (rcp : ServiceRecipient) (account : Account) (delivery : Delivery) : Prop where
  looked : ∃ packetId, ⟨.look (.inr (.delivery id)), some packetId⟩ ∈ tr ∧
    ⟨.look (.inr (.packet packetId)), some packet⟩ ∈ tr
  mem : rcp ∈ packet.recipients
  id_eq : rcp.id = id
  recipientId : delivery.recipientId = rcp.recipientId
  senderId : delivery.senderId = packet.actorId
  court : ∃ case : CaseFile, ⟨.look (.inl (.case packet.caseId)), some case⟩ ∈ tr ∧ delivery.courtId = case.row.courtId
  filer : ∃ row : Option FilingFile, ⟨.look (.inl (.envelope packet.filingId)), row⟩ ∈ tr ∧
    delivery.filerId = (row.map (·.filing.filerId)).getD (userId + 1)
  account_eq : ∃ row : Option Account, ⟨.look (.inl (.user userId)), row⟩ ∈ tr ∧
    account = { user, roles := (row.map Account.roles).getD [] }
  reader : delivery.recipientMayRead = true → ∃ (case : CaseFile) (p : CaseParticipant) (seen : BothStore)
    (now : CaseFile), ⟨.look (.inl (.case packet.caseId)), some case⟩ ∈ tr ∧
    case.participants.find? (fun q => q.id == rcp.contactSnapshot.participantId) = some p ∧
    mayViewAsRecipient userId user p = true ∧ ⟨.snapshot, seen⟩ ∈ tr ∧ seen (.inl (.case packet.caseId)) = some now ∧
    userMayReadCase userId
      { account with roles := ((seen (.inl (.user userId))).map Account.roles).getD [] } now = true

theorem Viewed.mono {userId : UserId} {tr tr' : BothTrace} {user : User} {id : DeliveryId} {packet : ServicePacket}
    {rcp : ServiceRecipient}
    {account : Account} {delivery : Delivery} (h : Viewed tr userId user id packet rcp account delivery)
    (htr : ∀ e ∈ tr, e ∈ tr') : Viewed tr' userId user id packet rcp account delivery where
  looked := h.looked.imp fun _ hl => ⟨htr _ hl.1, htr _ hl.2⟩
  mem := h.mem
  id_eq := h.id_eq
  recipientId := h.recipientId
  senderId := h.senderId
  court := h.court.imp fun _ hc => ⟨htr _ hc.1, hc.2⟩
  filer := h.filer.imp fun _ hf => ⟨htr _ hf.1, hf.2⟩
  account_eq := h.account_eq.imp fun _ ha => ⟨htr _ ha.1, ha.2⟩
  reader hread := by
    obtain ⟨case, p, seen, now, hcase, hp, hmay, hseen, hrest⟩ := h.reader hread
    exact ⟨case, p, seen, now, htr _ hcase, hp, hmay, htr _ hseen, hrest⟩

/-- **Who a request on a delivery came from:** an active account that may view it. -/
structure Entered (db : BothStore) (tr : BothTrace) (userId : UserId) (id : DeliveryId) (packet : ServicePacket)
    (rcp : ServiceRecipient) (account : Account) (delivery : Delivery) (staff : Bool) : Prop where
  actor : ∃ actor : Account, (⟨.look (.inl (.user userId)), some actor⟩ ∈ tr ∨ db (.inl (.user userId)) = some actor) ∧
    actor.user.isActive = true ∧ Viewed tr userId actor.user id packet rcp account delivery
  viewer : requireDeliveryViewer userId account delivery = .ok staff

/-! ## Notices -/

/-- **What changes a notice of a delivery.** -/
inductive MailStep (cfg : Settings) (r : ServiceRequest) (db db' : BothStore) (tr : BothTrace) (id : NoticeId) :
    Notice → Prop where
  | sent (userId : UserId) (filingId : FilingId) (key : Uuid) (data : ServicePacketCreate) (packet : ServicePacket)
      (rcp : ServiceRecipient) (notice : Notice) (hr : r = .sendDocuments userId filingId key data)
      (hpacket : db' (.inr (.packet packet.id)) = some packet) (hmem : rcp ∈ packet.recipients)
      (hid : rcp.notificationId = id) (halert : db' (.inr (.alert id)) = some packet.id) (hnew : ⟨.fresh, id⟩ ∈ tr)
      (hnotice : NewNotice cfg tr userId packet.caseId packet.filingId rcp notice) : MailStep cfg r db db' tr id notice
  | alerted (packet : ServicePacket) (notice : Notice) (user : Option User) (time : Instant) (messageId : Nat)
      (actorId : Option UserId) (reason : Option String) (hnew : ⟨.fresh, id⟩ ∈ tr)
      (hqueue : queueEmail cfg (failureAlert id packet) none user time messageId actorId reason = .ok notice) :
      MailStep cfg r db db' tr id notice
  | acknowledged (userId : UserId) (deliveryId : DeliveryId) (notice : Notice) (packet : ServicePacket)
      (rcp : ServiceRecipient) (account : Account) (delivery : Delivery) (staff : Bool)
      (hr : r = .acknowledgeDelivery userId deliveryId) (hdb : db (.inr (.notice id)) = some notice)
      (hentered : Entered db tr userId deliveryId packet rcp account delivery staff) (hid : rcp.notificationId = id)
      (huser : rcp.recipientId = userId)
      (hfirst : notice.serviceEvents.any ServiceEvent.isAcknowledgment = false) :
      MailStep cfg r db db' tr id { notice with serviceEvents := notice.serviceEvents ++ [.acknowledged userId] }
  | requeued (userId : UserId) (deliveryId : DeliveryId) (packet : ServicePacket) (rcp : ServiceRecipient)
      (notice queued : Notice) (account : Account) (delivery : Delivery) (staff : Bool) (seen : BothStore)
        (time : Instant)
      (messageId : Nat) (reason : String) (hdb : db (.inr (.notice id)) = some notice)
      (hentered : Entered db tr userId deliveryId packet rcp account delivery staff) (hid : rcp.notificationId = id)
      (hretry : requireRetry notice userId account delivery staff = .ok ()) (hseen : ⟨.snapshot, seen⟩ ∈ tr)
      (hqueue : queueEmail cfg notice (emailContext cfg seen id) ((userOf seen notice.recipientId).map Prod.snd) time
        messageId (some userId) (some reason) = .ok queued) (hr : r = .retryDeliveryAlert userId deliveryId reason) :
      MailStep cfg r db db' tr id { queued with
        serviceEvents := notice.serviceEvents ++ [.retryRequested userId reason] }
  | claimed (notice : Notice) (account : Option Account) (seen : BothStore) (time : Instant)
      (hr : r = .claimNextEmail id)
      (hdb : db (.inr (.notice id)) = some notice) (hdue : notice.isDue time = true)
      (haccount : ⟨.look (.inl (.user notice.recipientId)), account⟩ ∈ tr) (hseen : ⟨.snapshot, seen⟩ ∈ tr) :
      MailStep cfg r db db' tr id
        (claimEmail cfg notice (account.map Account.user) (emailContext cfg seen id) time)
  | finished (notice : Notice) (attempt : Nat) (result : SendResult) (time : Instant)
      (hdb : db (.inr (.notice id)) = some notice) : MailStep cfg r db db' tr id
        (finishAttempt notice attempt result time)
  | recovered (notice : Notice) (time : Instant) (hdb : db (.inr (.notice id)) = some notice) :
      MailStep cfg r db db' tr id (recoverInterrupted notice time)
  | reported (userId : UserId) (deliveryId : DeliveryId) (packet : ServicePacket) (rcp : ServiceRecipient)
      (account : Account) (delivery : Delivery) (staff : Bool) (notice notice' : Notice) (report : FailureReport)
      (event : ServiceEvent) (hdb : db (.inr (.notice id)) = some notice)
      (hentered : Entered db tr userId deliveryId packet rcp account delivery staff) (hid : rcp.notificationId = id)
      (hactor : report.actorId = userId) (haccount : report.account = account) (hdelivery : report.delivery = delivery)
      (hreport : reportDeliveryFailure cfg notice notice.serviceEvents report = .ok (notice', some event))
      (hr : r = .recordDeliveryFailure userId deliveryId report.key report.data) :
      MailStep cfg r db db' tr id { notice' with serviceEvents := notice.serviceEvents ++ [event] }

/-! ## The store -/

/-- **Every change of a name of deliveries.** -/
def ServiceStep (cfg : Settings) (r : ServiceRequest) (db db' : BothStore) (tr : BothTrace) :
    (g : ServiceRow) → ServiceView g → Prop
  | .contacts id, v => ∃ event, ContactStep cfg r db tr id (db (.inr (.contacts id))) v event ∧
      db' (.inr (.contactEvents id)) = db (.inr (.contactEvents id)) ++ [event]
  | .contactEvents id, v => ∃ event, v = db (.inr (.contactEvents id)) ++ [event] ∧
      ContactStep cfg r db tr id (db (.inr (.contacts id))) (db' (.inr (.contacts id))) event
  | .packet id, v => PacketStep cfg r db db' tr id v
  | .packetKey userId key, v => db (.inr (.packetKey userId key)) = none ∧ ∃ packet, v = some packet.id ∧
      db' (.inr (.packet packet.id)) = some packet ∧ packet.actorId = userId ∧ packet.idempotencyKey = key
  | .delivery id, v => ⟨.fresh, id⟩ ∈ tr ∧ ∃ packet, v = some packet.id ∧
      db' (.inr (.packet packet.id)) = some packet ∧ ∃ rcp ∈ packet.recipients, rcp.id = id
  | .alert id, v => ⟨.fresh, id⟩ ∈ tr ∧ ∃ packet, v = some packet.id ∧
      db' (.inr (.packet packet.id)) = some packet ∧ ∃ rcp ∈ packet.recipients, rcp.notificationId = id
  | .notice id, v => ∃ notice, v = some notice ∧ MailStep cfg r db db' tr id notice
  | .downloads id, v => ∃ userId documentId, r = .downloadDeliveryDocument userId id documentId ∧
      v = db (.inr (.downloads id)) ++ [(userId, documentId)]

/-- The change of a name of either side: a request on deliveries writes nothing of the portal. -/
def BothStep (cfg : Settings) (r : ServiceRequest) (db db' : BothStore) (tr : BothTrace) : (g : BothRow) →
    BothView g → Prop
  | .inl _, _ => False
  | .inr g, v => ServiceStep cfg r db db' tr g v

/-- **Every name that a request on deliveries changes, changes by a `ServiceStep`.** -/
def ServiceChanges (cfg : Settings) (r : ServiceRequest) (db : BothStore) (tr : BothTrace) : Prop :=
  ∀ g, commit tr db g = db g ∨ BothStep cfg r db (commit tr db) tr g (commit tr db g)

theorem ServiceChanges.of_writes {cfg : Settings} {r : ServiceRequest} {db : BothStore} {tr : BothTrace}
    (h : Writes (BothStep cfg r db (commit tr db) tr) tr) : ServiceChanges cfg r db tr := fun g => h.commit db g

abbrev Silent (tr : BothTrace) : Prop := Writes (fun _ _ => False) tr

theorem Silent.writes {P : (g : BothRow) → BothView g → Prop} {tr : BothTrace} (h : Silent tr) : Writes P tr :=
  h.mono fun _ _ => False.elim

theorem Silent.commit {tr : BothTrace} (h : Silent tr) (db : BothStore) : RowLocks.commit tr db = db :=
  funext fun _ => h.frame db fun _ => id

theorem ServiceChanges.of_silent {cfg : Settings} {r : ServiceRequest} {db : BothStore} {tr : BothTrace}
    (h : Silent tr) : ServiceChanges cfg r db tr := .of_writes h.writes

theorem Quiet.silent {tr : Trace} {tr' : BothTrace} (h : Quiet tr) (hside : Beside tr' tr) : Silent tr' :=
  hside.writes (fun _ _ => id) h

end Muefs
