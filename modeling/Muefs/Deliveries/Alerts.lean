import Muefs.Deliveries.Sending
import Muefs.Portal.Mail

/-!
# One delivery

* `viewDelivery`, `lockNotice` : what every request on a delivery reads of it;
* `downloadDeliveryDocument`, `acknowledgeDelivery`, `retryDeliveryAlert`, `recordDeliveryFailure` : the requests;
* `claimNextEmail`, `finishEmail`, `recoverEmails` : the mail worker, on the notices of deliveries.
-/

namespace Muefs
open RowLocks

/-! ## Viewing -/

/-- `participant` is the recipient's current participation in the case. -/
def mayViewAsRecipient (actorId : UserId) (user : User) (p : CaseParticipant) : Bool :=
  p.userId == some actorId && p.isActive && p.reviewedAt.isSome && (!p.role.isCounsel || counselMatches user p)

/-- What `require_delivery_viewer` reads before it locks the notice. -/
def viewDelivery (actorId : UserId) (user : User) (id : DeliveryId) :
    Service (ServicePacket × ServiceRecipient × Account × Delivery) := do
  let entry ← Service.look (.delivery id)
  let packetId ← Service.get entry (.http 404 "Delivery not found")
  let row ← Service.look (.packet packetId)
  let packet ← Service.get row (.value "packet is not None")
  let recipient ← Service.get (packet.recipients.find? fun r => r.id == id) (.http 404 "Delivery not found")
  let caseRow ← ofPortal (look (.case packet.caseId))
  let case ← Service.get caseRow (.value "case is not None")
  let roles ← ofPortal (look (.user actorId))
  let account : Account := { user, roles := (roles.map Account.roles).getD [] }
  let envelope ← ofPortal (look (.envelope packet.filingId))
  let caseLater ← ofPortal (look (.case packet.caseId))
  let seen ← Txn.snapshot (V := BothView)
  let rolesNow := ((seen (.inl (.user actorId))).map Account.roles).getD []
  let participant := (caseLater.map CaseFile.participants).bind fun ps =>
    ps.find? fun p => p.id == recipient.contactSnapshot.participantId
  let delivery : Delivery := {
    recipientId := recipient.recipientId
    senderId := packet.actorId
    filingId := packet.filingId
    -- nobody is the filer of a filing that is not there
    filerId := (envelope.map (·.filing.filerId)).getD (actorId + 1)
    courtId := case.row.courtId
    recipientMayRead := participant.any (mayViewAsRecipient actorId user) &&
      (seen (.inl (.case packet.caseId))).any (userMayReadCase actorId { account with roles := rolesNow }) }
  return (packet, recipient, account, delivery)

/-- Lock the notice of a delivery. -/
def lockNotice (id : NoticeId) : Service Notice := do
  let row ← Service.lock (.notice id)
  Service.get row (.value "notice is not None")

/-! ## Requests -/

/-- What `DocumentResponse` streams, checked against the packet's record of the document. -/
structure ServedDocument where
  fileKey : FileKey
  sha256Hash : Digest Content
  fileSizeBytes : Nat
  deriving DecidableEq

/-- `GET /service/deliveries/{delivery_id}/documents/{document_id}`, but for the stream -/
def downloadDeliveryDocument (userId : UserId) (id : DeliveryId) (documentId : DocumentId) :
    Service ServedDocument := do
  let actor ← ofPortal (getCurrentUser userId)
  let (packet, _, account, delivery) ← viewDelivery userId actor.user id
  let _ ← Txn.ofExcept (requireDeliveryViewer userId account delivery)
  let saved ← Service.get ((packet.documents.find? fun d => d.id == documentId).filter fun d =>
    !privateDocumentTypes.contains d.documentTypeCode) (.http 404 "Document not included in this delivery")
  let envelope ← ofPortal (look (.envelope packet.filingId))
  let doc ← Service.get (envelope.bind fun file => file.documents.find? fun d => d.id == documentId)
    (.http 409 "The document no longer matches its retained delivery")
  Service.check (doc.retainedAt.isSome = true ∧ doc.matchesRecord saved = true)
    (.http 409 "The document no longer matches its retained delivery")
  Service.save (.downloads id) fun events => events ++ [(userId, documentId)]
  return { fileKey := doc.fileKey, sha256Hash := saved.sha256Hash, fileSizeBytes := saved.fileSizeBytes }

/-- `POST /service/deliveries/{delivery_id}/acknowledge` -/
def acknowledgeDelivery (userId : UserId) (id : DeliveryId) : Service Unit := do
  let actor ← ofPortal (getCurrentUser userId)
  let (_, recipient, account, delivery) ← viewDelivery userId actor.user id
  let _ ← Txn.ofExcept (requireDeliveryViewer userId account delivery)
  let notice ← lockNotice recipient.notificationId
  Service.check (userId = recipient.recipientId) (.http 403 "Only the named recipient can acknowledge this delivery")
  if notice.serviceEvents.any ServiceEvent.isAcknowledgment then return ()
  else Service.save (.notice recipient.notificationId) fun _ => some { notice with
    serviceEvents := notice.serviceEvents ++ [.acknowledged userId] }

/-- What `retry_delivery` asks of the actor and of the notice. -/
def requireRetry (notice : Notice) (actorId : UserId) (account : Account) (delivery : Delivery) (staff : Bool) :
    Except Failure Unit := do
  check (actorId = delivery.senderId ∨ staff = true)
    (.http 403 "The sender or assigned court staff must request a retry")
  check (staff = true ∨ account.user.userType ≠ .publicUser) (.http 403 publicAccountRefusal)
  check (notice.deliveryStatus ∈ [.blocked, .disabled, .failed, .unknown, .legacy, .failureReported])
    (.http 409 "The alert is already queued, sending or accepted by the relay")
  check (notice.deliveryStatus ∉ [.unknown, .legacy, .failureReported] ∨ staff = true)
    (.http 403 "Court staff must review this delivery outcome before retrying")

/-- `POST /service/deliveries/{delivery_id}/retry`. The routing is read again when the email is queued. -/
def retryDeliveryAlert (cfg : Settings) (userId : UserId) (id : DeliveryId) (reason : String) :
    Service DeliveryStatus := do
  let _ ← ofPortal (getCurrentUser userId)
  let actor ← ofPortal (lockCurrentUser userId)
  let (_, recipient, account, delivery) ← viewDelivery userId actor.user id
  let staff ← Txn.ofExcept (requireDeliveryViewer userId account delivery)
  let notice ← lockNotice recipient.notificationId
  let _ ← Txn.ofExcept (requireRetry notice userId account delivery staff)
  let seen ← Txn.snapshot
  let context := emailContext cfg seen recipient.notificationId
  Service.check (context = none) (.http 409 (context.getD ""))
  let later ← Txn.snapshot
  let time ← Service.now
  let messageId ← Service.newId
  let queued ← Txn.ofExcept (queueEmail cfg notice (emailContext cfg later recipient.notificationId)
    ((userOf later notice.recipientId).map Prod.snd) time messageId (some userId) (some reason))
  Service.save (.notice recipient.notificationId) fun _ => some { queued with
    serviceEvents := notice.serviceEvents ++ [.retryRequested userId reason] }
  return queued.deliveryStatus

/-- The alert that tells the sender of a failure report, if somebody else reported. -/
def failureAlert (id : NoticeId) (packet : ServicePacket) : Notice where
  id := id
  noticeType := .caseUpdate
  recipientId := packet.actorId
  filingEnvelopeId := some packet.filingId

/-- `POST /service/deliveries/{delivery_id}/failure-reports` -/
def recordDeliveryFailure (cfg : Settings) (userId : UserId) (id : DeliveryId) (key : Uuid)
    (data : ServiceFailureReport) : Service Unit := do
  let _ ← ofPortal (getCurrentUser userId)
  let actor ← ofPortal (lockCurrentUser userId)
  let (packet, recipient, account, delivery) ← viewDelivery userId actor.user id
  let _ ← Txn.ofExcept (requireDeliveryViewer userId account delivery)
  let notice ← lockNotice recipient.notificationId
  let time ← Service.now
  let alertId ← Service.newId
  let sender ← ofPortal (look (.user packet.actorId))
  let messageId ← Service.newId
  let reported ← Txn.ofExcept (reportDeliveryFailure cfg notice notice.serviceEvents {
    actorId := userId
    account
    delivery
    key
    data
    now := time
    alert := failureAlert alertId packet
    sender := sender.map Account.user
    messageId })
  match reported.2 with
  | none => return ()
  | some event => do
    Service.save (.notice recipient.notificationId) fun _ => some { reported.1 with
      serviceEvents := notice.serviceEvents ++ [event] }
    if packet.actorId = userId then return ()
    else do
      let alert ← Txn.ofExcept (queueEmail cfg (failureAlert alertId packet) none (sender.map Account.user)
        time messageId (some userId) (some "Delivery-failure report recorded"))
      Service.save (.notice alertId) fun _ => some alert

/-! ## Mail -/

/-- `claim_email`, when its query picked this notice -/
def claimNextEmail (cfg : Settings) (id : NoticeId) : Service (Option Notice) := do
  let time ← Service.now
  let row ← Service.lock (.notice id)
  match row.filter fun notice => notice.isDue time with
  | none => return none
  | some notice => do
    let account ← ofPortal (look (.user notice.recipientId))
    let seen ← Txn.snapshot
    let claimed := claimEmail cfg notice (account.map Account.user) (emailContext cfg seen id) time
    Service.save (.notice id) fun _ => some claimed
    return some claimed

/-- `finish_attempt`, by the worker of this attempt -/
def finishEmail (id : NoticeId) (attempt : Nat) (result : SendResult) : Service Unit := do
  let time ← Service.now
  let row ← Service.lock (.notice id)
  match row with
  | none => return ()
  | some notice => Service.save (.notice id) fun _ => some (finishAttempt notice attempt result time)

/-- The update of `recover_interrupted`, over these rows. -/
def recoverRows (time : Instant) : List NoticeId → Service Unit
  | [] => return ()
  | id :: ids => do
    let row ← Service.lock (.notice id)
    match row with
    | none => recoverRows time ids
    | some notice => do
      Service.save (.notice id) fun _ => some (recoverInterrupted notice time)
      recoverRows time ids

/-- `recover_interrupted` -/
def recoverEmails (ids : List NoticeId) : Service Unit := do
  let time ← Service.now
  recoverRows time ids

end Muefs
