import Muefs.Deliveries.Alerts
import Muefs.Portal.Requests

/-!
# The portal with its deliveries

* `ServiceRequest` : what can arrive, and for whom (`ServiceRequest.actor`); `serviceProgram` : the transaction that
  serves it;
* `bothPortal` : the system of all requests, those of the portal among them, over the store of both.
-/

namespace Muefs
open RowLocks

/-- What can arrive. -/
inductive ServiceRequest where
  | portal (r : Request)
  | saveServiceInstructions (userId : UserId) (caseId : CaseId) (participantId : ParticipantId) (data : ContactChange)
  | sendDocuments (userId : UserId) (filingId : FilingId) (key : Uuid) (data : ServicePacketCreate)
  | downloadDeliveryDocument (userId : UserId) (id : DeliveryId) (documentId : DocumentId)
  | acknowledgeDelivery (userId : UserId) (id : DeliveryId)
  | retryDeliveryAlert (userId : UserId) (id : DeliveryId) (reason : String)
  | recordDeliveryFailure (userId : UserId) (id : DeliveryId) (key : Uuid) (data : ServiceFailureReport)
  | claimNextEmail (id : NoticeId)
  | finishEmail (id : NoticeId) (attempt : Nat) (result : SendResult)
  | recoverEmails (ids : List NoticeId)

/-- The account that a request is served for. -/
def ServiceRequest.actor : ServiceRequest → Option UserId
  | .portal r => r.actor
  | .saveServiceInstructions userId _ _ _ | .sendDocuments userId _ _ _ | .downloadDeliveryDocument userId _ _
  | .acknowledgeDelivery userId _ | .retryDeliveryAlert userId _ _ | .recordDeliveryFailure userId _ _ _ => some userId
  | .claimNextEmail _ | .finishEmail _ _ _ | .recoverEmails _ => none

/-- What a request answers. -/
inductive ServiceResponse where
  | portal (a : Response)
  | contact (id : ContactId) (version : Nat)
  | packet (id : PacketId)
  | document (doc : ServedDocument)
  | status (status : DeliveryStatus)
  | email (claimed : Option Notice)
  | saved

/-- An answer made of what a transaction returns. -/
def answering {α : Type} (p : Service α) (answer : α → ServiceResponse) : Service ServiceResponse := do
  let a ← p
  return answer a

/-- The transaction that serves a request. -/
def serviceProgram (cfg : Settings) : ServiceRequest → Service ServiceResponse
  | .portal r => answering (ofPortal (program cfg r)) .portal
  | .saveServiceInstructions userId caseId participantId data =>
    answering (saveServiceInstructions cfg userId caseId participantId data) fun c => .contact c.1 c.2
  | .sendDocuments userId filingId key data => answering (sendDocuments cfg userId filingId key data) .packet
  | .downloadDeliveryDocument userId id documentId =>
    answering (downloadDeliveryDocument userId id documentId) .document
  | .acknowledgeDelivery userId id => answering (acknowledgeDelivery userId id) fun _ => .saved
  | .retryDeliveryAlert userId id reason => answering (retryDeliveryAlert cfg userId id reason) .status
  | .recordDeliveryFailure userId id key data =>
    answering (recordDeliveryFailure cfg userId id key data) fun _ => .saved
  | .claimNextEmail id => answering (claimNextEmail cfg id) .email
  | .finishEmail id attempt result => answering (finishEmail id attempt result) fun _ => .saved
  | .recoverEmails ids => answering (recoverEmails ids) fun _ => .saved

/-- The system. -/
def bothPortal (cfg : Settings) : System BothView Failure ServiceResponse ServiceRequest where
  program := serviceProgram cfg
  row := isBothRow

abbrev BothWorld := World BothView Failure ServiceResponse ServiceRequest

end Muefs
