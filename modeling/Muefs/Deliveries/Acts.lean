import Muefs.Deliveries.System
import Muefs.Steps.Acts

/-!
# Deliveries change nothing at once

* `BothOrdinary` : every request of the database, but of changes at once only those of stored objects, and of accounts
  only certain locks;
* `ServiceRequest.mayLock`, `serviceProgram_ordinary` : the programs of the system ask nothing else.
-/

namespace Muefs
open RowLocks Txn

variable {cfg : Settings} {own : UserId → Prop} {userId : UserId}

/-- What takes effect at once is a change of a stored object, and the accounts that are locked are these. -/
def BothOrdinary (own : UserId → Prop) : Op BothView → Prop
  | .act (.inl (.object _)) _ => True
  | .act _ _ => False
  | .lock _ (.inl (.user id)) | .tryLock _ (.inl (.user id)) => own id
  | _ => True

section Parts

@[simp] theorem bothOrdinary_clock : BothOrdinary own .clock := trivial
@[simp] theorem bothOrdinary_fresh : BothOrdinary own .fresh := trivial
@[simp] theorem bothOrdinary_snapshot : BothOrdinary own .snapshot := trivial
@[simp] theorem bothOrdinary_look (g : BothRow) : BothOrdinary own (.look g) := trivial
@[simp] theorem bothOrdinary_lock (m : Mode) (g : ServiceRow) : BothOrdinary own (.lock m (.inr g)) := trivial
@[simp] theorem bothOrdinary_lockUser (m : Mode) (id : UserId) :
    BothOrdinary own (.lock m (.inl (.user id))) ↔ own id := Iff.rfl
@[simp] theorem bothOrdinary_write (g : BothRow) (f : BothView g → BothView g) : BothOrdinary own (.write g f) :=
  trivial

theorem Ordinary.left {o : Op View} (h : Ordinary own o) : BothOrdinary own (o.left ServiceView) := by
  cases o with
  | act g f =>
    cases g with
    | object => trivial
    | _ => exact h.elim
  | lock m g | tryLock m g =>
    cases g with
    | user => exact h
    | _ => trivial
  | _ => trivial

theorem ofPortal_ordinary {α : Type} {p : Portal α} (h : p.Asks (Ordinary own)) :
    (ofPortal p).Asks (BothOrdinary own) := h.left fun _ => Ordinary.left

@[simp] theorem getCurrentUser_both : (ofPortal (getCurrentUser userId)).Asks (BothOrdinary own) :=
  ofPortal_ordinary (ordinary_of_mild (getCurrentUser_mild _))

@[simp] theorem lockCurrentUser_both (hown : own userId) :
    (ofPortal (lockCurrentUser userId)).Asks (BothOrdinary own) := ofPortal_ordinary (lockCurrentUser_ordinary hown)

end Parts

theorem viewDelivery_ordinary (user : User) (id : DeliveryId) :
    (viewDelivery userId user id).Asks (BothOrdinary own) := by
  unfold viewDelivery
  simp only [left_look]
  repeat' with_reducible first | refine Asks.bind ?_ fun _ => ?_ | dsimp only
  all_goals simp

/-! ## Contacts -/

theorem contactCase_ordinary (hown : own userId) (caseId : CaseId) :
    (ofPortal (contactCase userId caseId)).Asks (BothOrdinary own) := by
  refine ofPortal_ordinary ?_
  unfold contactCase lockUpdate
  repeat' with_reducible first | refine Asks.bind ?_ fun _ => ?_ | dsimp only
  all_goals first | exact ordinary_of_mild (getCurrentUser_mild _) | simp [hown]

theorem participantUser_ordinary (p : CaseParticipant) : (ofPortal (participantUser p)).Asks (BothOrdinary own) := by
  refine ofPortal_ordinary ?_
  unfold participantUser
  split
  · simp
  · refine Asks.bind ?_ fun _ => ?_ <;> simp

theorem saveServiceInstructions_ordinary (hown : own userId) (caseId : CaseId) (participantId : ParticipantId)
    (data : ContactChange) :
    (saveServiceInstructions cfg userId caseId participantId data).Asks (BothOrdinary own) := by
  unfold saveServiceInstructions saveContacts
  repeat' with_reducible first | refine Asks.bind ?_ fun _ => ?_ | refine Asks.ite ?_ ?_ | split | dsimp only
  all_goals first | exact contactCase_ordinary hown caseId | exact participantUser_ordinary _ | simp

/-! ## Packets -/

theorem requireSender_ordinary (account : Account) (filingId : FilingId) :
    (ofPortal (requireSender cfg userId account filingId)).Asks (BothOrdinary own) := by
  refine ofPortal_ordinary ?_
  unfold requireSender lockFiling lockShare
  repeat' with_reducible first | refine Asks.bind ?_ fun _ => ?_ | dsimp only
  all_goals first | (unfold requireUserMayManageEfilings; simp) | simp

theorem checkSelected_ordinary (case : Case) (choices : List (ContactId × Nat)) (accounts : List UserId)
    (rows : List SelectedRecipient) :
    (ofPortal (checkSelected cfg case userId choices accounts rows)).Asks (BothOrdinary own) := by
  refine ofPortal_ordinary ?_
  induction rows generalizing accounts with
  | nil => simp [checkSelected]
  | cons row rows ih =>
    unfold checkSelected
    repeat' with_reducible first | refine Asks.bind ?_ fun _ => ?_ | dsimp only
    all_goals first | exact ih _ | simp

theorem checkDocuments_ordinary (manifest : List DocumentResponse) (docs : List FilingDocument) :
    (ofPortal (checkDocuments manifest docs)).Asks (BothOrdinary own) := by
  refine ofPortal_ordinary ?_
  induction docs with
  | nil => simp [checkDocuments]
  | cons doc docs ih =>
    unfold checkDocuments
    repeat' with_reducible first | refine Asks.bind ?_ fun _ => ?_ | dsimp only
    all_goals first | exact ih | simp

theorem addRecipients_ordinary (caseId : CaseId) (filingId : FilingId) (rows : List SelectedRecipient) :
    (addRecipients cfg userId caseId filingId rows).Asks (BothOrdinary own) := by
  induction rows with
  | nil => simp [addRecipients]
  | cons row rows ih =>
    unfold addRecipients
    repeat' with_reducible first | refine Asks.bind ?_ fun _ => ?_ | dsimp only
    all_goals first | exact ih | simp

theorem savePacket_ordinary (packet : ServicePacket) (recipients : List ServiceRecipient) :
    (savePacket packet recipients).Asks (BothOrdinary own) := by
  induction recipients with
  | nil =>
    unfold savePacket
    refine Asks.bind ?_ fun _ => ?_ <;> simp
  | cons recipient recipients ih =>
    unfold savePacket
    repeat' with_reducible first | refine Asks.bind ?_ fun _ => ?_ | dsimp only
    all_goals first | exact ih | simp

theorem findPacket_ordinary (key : Uuid) : (findPacket userId key).Asks (BothOrdinary own) := by
  unfold findPacket
  refine Asks.bind ?_ fun _ => ?_ <;> simp

theorem replayPacket_ordinary (packet : ServicePacket) (fields : PacketFields) :
    (replayPacket packet fields).Asks (BothOrdinary own) := by
  unfold replayPacket
  refine Asks.bind ?_ fun _ => ?_ <;> simp

theorem insertPacket_ordinary (account : Account) (filingId : FilingId) (data : ServicePacketCreate) (key : Uuid) :
    (insertPacket cfg userId account filingId data key).Asks (BothOrdinary own) := by
  unfold insertPacket
  simp only [left_look]
  repeat' with_reducible first | refine Asks.bind ?_ fun _ => ?_ | split | dsimp only
  all_goals first
    | exact requireSender_ordinary account filingId
    | exact checkSelected_ordinary _ _ _ _
    | exact checkDocuments_ordinary _ _
    | exact addRecipients_ordinary _ _ _
    | exact savePacket_ordinary _ _
    | exact findPacket_ordinary key
    | exact replayPacket_ordinary _ _
    | simp

theorem sendDocuments_ordinary (hown : own userId) (filingId : FilingId) (key : Uuid) (data : ServicePacketCreate) :
    (sendDocuments cfg userId filingId key data).Asks (BothOrdinary own) := by
  unfold sendDocuments
  simp only [left_lock]
  repeat' with_reducible first | refine Asks.bind ?_ fun _ => ?_ | split | dsimp only
  all_goals first
    | exact findPacket_ordinary key
    | exact replayPacket_ordinary _ _
    | exact insertPacket_ordinary _ filingId data key
    | simp [hown]

/-! ## One delivery -/

theorem lockNotice_ordinary (id : NoticeId) : (lockNotice id).Asks (BothOrdinary own) := by
  unfold lockNotice
  refine Asks.bind ?_ fun _ => ?_ <;> simp

theorem downloadDeliveryDocument_ordinary (id : DeliveryId) (documentId : DocumentId) :
    (downloadDeliveryDocument userId id documentId).Asks (BothOrdinary own) := by
  unfold downloadDeliveryDocument
  simp only [left_look]
  repeat' with_reducible first | refine Asks.bind ?_ fun _ => ?_ | dsimp only
  all_goals first | exact viewDelivery_ordinary _ _ | simp

theorem acknowledgeDelivery_ordinary (id : DeliveryId) : (acknowledgeDelivery userId id).Asks (BothOrdinary own) := by
  unfold acknowledgeDelivery
  repeat' with_reducible first | refine Asks.bind ?_ fun _ => ?_ | refine Asks.ite ?_ ?_ | dsimp only
  all_goals first | exact viewDelivery_ordinary _ _ | exact lockNotice_ordinary _ | simp

theorem retryDeliveryAlert_ordinary (hown : own userId) (id : DeliveryId) (reason : String) :
    (retryDeliveryAlert cfg userId id reason).Asks (BothOrdinary own) := by
  unfold retryDeliveryAlert
  repeat' with_reducible first | refine Asks.bind ?_ fun _ => ?_ | dsimp only
  all_goals first | exact viewDelivery_ordinary _ _ | exact lockNotice_ordinary _ | simp [hown]

theorem recordDeliveryFailure_ordinary (hown : own userId) (id : DeliveryId) (key : Uuid)
    (data : ServiceFailureReport) :
    (recordDeliveryFailure cfg userId id key data).Asks (BothOrdinary own) := by
  unfold recordDeliveryFailure
  simp only [left_look]
  repeat' with_reducible first | refine Asks.bind ?_ fun _ => ?_ | refine Asks.ite ?_ ?_ | split | dsimp only
  all_goals first | exact viewDelivery_ordinary _ _ | exact lockNotice_ordinary _ | simp [hown]

/-! ## Mail -/

theorem claimNextEmail_ordinary (id : NoticeId) : (claimNextEmail cfg id).Asks (BothOrdinary own) := by
  unfold claimNextEmail
  simp only [left_look]
  repeat' with_reducible first | refine Asks.bind ?_ fun _ => ?_ | split | dsimp only
  all_goals simp

theorem finishEmail_ordinary (id : NoticeId) (attempt : Nat) (result : SendResult) :
    (finishEmail id attempt result).Asks (BothOrdinary own) := by
  unfold finishEmail
  repeat' with_reducible first | refine Asks.bind ?_ fun _ => ?_ | split | dsimp only
  all_goals simp

theorem recoverRows_ordinary (time : Instant) (ids : List NoticeId) :
    (recoverRows time ids).Asks (BothOrdinary own) := by
  induction ids with
  | nil => simp [recoverRows]
  | cons id ids ih =>
    unfold recoverRows
    repeat' with_reducible first | refine Asks.bind ?_ fun _ => ?_ | split | dsimp only
    all_goals first | exact ih | simp

theorem recoverEmails_ordinary (ids : List NoticeId) : (recoverEmails ids).Asks (BothOrdinary own) := by
  unfold recoverEmails
  refine Asks.bind ?_ fun time => recoverRows_ordinary time ids
  simp

/-! ## Requests -/

theorem answering_ordinary {α : Type} {p : Service α} {answer : α → ServiceResponse} (h : p.Asks (BothOrdinary own)) :
    (answering p answer).Asks (BothOrdinary own) := by
  unfold answering
  exact Asks.bind h fun _ => asks_pure

/-- The accounts that a request may lock. -/
def ServiceRequest.mayLock : ServiceRequest → UserId → Prop
  | .portal r, id => r.mayLock id
  | r, id => r.actor = some id

/-- **No program of the system changes anything at once but a stored object,** and of accounts it locks no others. -/
theorem serviceProgram_ordinary {r : ServiceRequest} (hr : ∀ id, r.mayLock id → own id) :
    ((bothPortal cfg).program r).Asks (BothOrdinary own) := by
  cases r with
  | portal r => exact answering_ordinary (ofPortal_ordinary (program_ordinary hr))
  | saveServiceInstructions _ caseId participantId data =>
    exact answering_ordinary (saveServiceInstructions_ordinary (hr _ rfl) caseId participantId data)
  | sendDocuments _ filingId key data =>
    exact answering_ordinary (sendDocuments_ordinary (hr _ rfl) filingId key data)
  | downloadDeliveryDocument _ id documentId =>
    exact answering_ordinary (downloadDeliveryDocument_ordinary id documentId)
  | acknowledgeDelivery _ id => exact answering_ordinary (acknowledgeDelivery_ordinary id)
  | retryDeliveryAlert _ id reason => exact answering_ordinary (retryDeliveryAlert_ordinary (hr _ rfl) id reason)
  | recordDeliveryFailure _ id key data =>
    exact answering_ordinary (recordDeliveryFailure_ordinary (hr _ rfl) id key data)
  | claimNextEmail id => exact answering_ordinary (claimNextEmail_ordinary id)
  | finishEmail id attempt result => exact answering_ordinary (finishEmail_ordinary id attempt result)
  | recoverEmails ids => exact answering_ordinary (recoverEmails_ordinary ids)

end Muefs
