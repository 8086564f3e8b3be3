import Muefs.Steps.Asks

/-!
# Acts are on stored objects, and locks of accounts

* `Ordinary` : every request of the database, but of changes at once only those of stored objects, and of accounts only
  certain locks;
* `Request.mayLock` : the accounts that a request may lock; `program_ordinary` : the programs of the portal ask nothing
  else.
-/

namespace Muefs
open RowLocks Txn

variable {cfg : Settings} {own : UserId → Prop} {userId : UserId} {filingId : FilingId}

/-- What takes effect at once is a change of a stored object, and the accounts that are locked are these. -/
def Ordinary (own : UserId → Prop) : Op View → Prop
  | .act (.object _) _ => True
  | .act _ _ => False
  | .lock _ (.user id) | .tryLock _ (.user id) => own id
  | _ => True

theorem plain_ordinary {o : Op View} (h : o.Plain) : Ordinary own o := by
  cases o with
  | lock | tryLock | keep | letGo | act => exact h.elim
  | _ => trivial

theorem ordinary_of_plain {α : Type} {p : Portal α} (h : p.Asks Op.Plain) : p.Asks (Ordinary own) :=
  h.mono fun _ => plain_ordinary

theorem ordinary_of_mild {α : Type} {p : Portal α} (h : p.Asks Mild) : p.Asks (Ordinary own) :=
  ordinary_of_plain (mild_plain h)

section Parts

@[simp] theorem ordinary_clock : Ordinary own .clock := trivial
@[simp] theorem ordinary_fresh : Ordinary own .fresh := trivial
@[simp] theorem ordinary_look (g : Row) : Ordinary own (.look g) := trivial
@[simp] theorem ordinary_write (g : Row) (f : View g → View g) : Ordinary own (.write g f) := trivial
@[simp] theorem ordinary_act (key : FileKey) (f : Option Content → Option Content) :
    Ordinary own (.act (.object key) f) := trivial

@[simp] theorem ordinary_lock (m : Mode) (g : Row) : Ordinary own (.lock m g) ↔ ∀ id, g = .user id → own id := by
  cases g <;> simp [Ordinary]

theorem Ordinary.tryLock (m : Mode) (g : Row) (h : Ordinary own (.lock m g)) : Ordinary own (.tryLock m g) := by
  cases g <;> exact h

@[simp] theorem signedInFiler_ordinary : (signedInFiler userId).Asks (Ordinary own) :=
  ordinary_of_mild (signedInFiler_mild _)

@[simp] theorem getFiling_ordinary : (getFiling filingId).Asks (Ordinary own) := ordinary_of_mild (getFiling_mild _)

@[simp] theorem saveFiling_ordinary (file : FilingFile) : (saveFiling filingId file).Asks (Ordinary own) :=
  ordinary_of_mild (saveFiling_mild _ _)

@[simp] theorem ownedFiling_ordinary (file : Option FilingFile) (refusal : String) :
    (ownedFiling file userId refusal).Asks (Ordinary own) := ordinary_of_mild (ownedFiling_mild _ _ _)

@[simp] theorem lockCurrentUser_ordinary (hown : own userId) : (lockCurrentUser userId).Asks (Ordinary own) :=
  lockCurrentUser_asks hown

@[simp] theorem lockFiler_ordinary (hown : own userId) : (lockFiler userId).Asks (Ordinary own) := lockFiler_asks hown

@[simp] theorem recordTransaction_ordinary (file : FilingFile) (event : EventType) (reason : Option String)
    (key : Option Uuid) (details : Details) :
    (recordTransaction cfg file event userId reason key details).Asks (Ordinary own) :=
  ordinary_of_mild (recordTransaction_mild _ _ _ _ _ _)

@[simp] theorem selectUsers_ordinary (p : UserId → User → Bool) : (selectUsers p).Asks (Ordinary own) :=
  ordinary_of_mild (selectUsers_mild p)

@[simp] theorem verifyFilingDocuments_ordinary (file : FilingFile) (order : Option FilingDocument) :
    (verifyFilingDocuments file order).Asks (Ordinary own) :=
  ordinary_of_plain (verifyFilingDocuments_plain file order)

end Parts

/-! ## Filings -/

theorem updateFiling_ordinary (data : FilingEnvelopeUpdate) :
    (updateFiling userId filingId data).Asks (Ordinary own) := by
  unfold updateFiling updateDetails lockFiling
  repeat' with_reducible first | refine Asks.bind ?_ fun _ => ?_ | refine Asks.ite ?_ ?_ | split | dsimp only
  all_goals simp

theorem removeDocument_ordinary (id : DocumentId) : (removeDocument userId filingId id).Asks (Ordinary own) := by
  unfold removeDocument lockFiling
  repeat' with_reducible first | refine Asks.bind ?_ fun _ => ?_ | refine Asks.ite ?_ ?_ | split | dsimp only
  all_goals simp

@[simp] theorem inspectUpload_ordinary (file : Upload) (requirePdf : Bool) :
    (inspectUpload cfg file requirePdf).Asks (Ordinary own) := by
  unfold inspectUpload readUpload
  repeat' with_reducible first | refine Asks.bind ?_ fun _ => ?_ | refine Asks.ite ?_ ?_ | split | dsimp only
  all_goals simp

@[simp] theorem storeDocumentUpload_ordinary (file : Upload) (code title : String) (isConfidential : Bool) :
    (storeDocumentUpload cfg filingId file code title isConfidential).Asks (Ordinary own) := by
  unfold storeDocumentUpload
  repeat' with_reducible first | refine Asks.bind ?_ fun _ => ?_ | refine Asks.ite ?_ ?_ | split | dsimp only
  all_goals simp

@[simp] theorem insertDocument_ordinary (doc : FilingDocument) : (insertDocument filingId doc).Asks (Ordinary own) := by
  unfold insertDocument
  repeat' with_reducible first | refine Asks.bind ?_ fun _ => ?_ | refine Asks.ite ?_ ?_ | split | dsimp only
  all_goals simp

theorem uploadDocument_ordinary (hown : own userId) (key : Uuid) (form : UploadForm) (file : Upload) :
    (uploadDocument cfg userId filingId key form file).Asks (Ordinary own) := by
  have hrecord : ∀ doc, (recordUpload userId filingId key form file doc).Asks (Ordinary own) := by
    intro doc
    unfold recordUpload replayUpload lockFiling
    repeat' with_reducible first | refine Asks.bind ?_ fun _ => ?_ | refine Asks.ite ?_ ?_ | split | dsimp only
    all_goals simp [hown]
  have hboth := fun doc : FilingDocument => (hrecord doc).onRaise (asks_act.2 (ordinary_act doc.fileKey fun _ => none))
  unfold uploadDocument readUpload replayUpload
  repeat' with_reducible first | refine Asks.bind ?_ fun _ => ?_ | refine Asks.ite ?_ ?_ | split | dsimp only
  all_goals simp [hboth]

/-! ## Fees -/

theorem requestFeeReview_ordinary (hown : own userId) (data : FeeReviewRequest) :
    (requestFeeReview cfg userId filingId data).Asks (Ordinary own) := by
  unfold requestFeeReview lockFiling
  repeat' with_reducible first | refine Asks.bind ?_ fun _ => ?_ | refine Asks.ite ?_ ?_ | split | dsimp only
  all_goals simp [hown]

theorem assessFees_ordinary (hown : own userId) (data : FeeAssessmentRequest) :
    (assessFees cfg userId filingId data).Asks (Ordinary own) := by
  unfold assessFees lockFiling
  repeat' with_reducible first | refine Asks.bind ?_ fun _ => ?_ | refine Asks.ite ?_ ?_ | split | dsimp only
  all_goals simp [hown]

theorem decideFeeWaiver_ordinary (hown : own userId) (form : WaiverForm) :
    (decideFeeWaiver cfg userId filingId form).Asks (Ordinary own) := by
  have hlocked : ∀ record : FilingFile → Portal Response, (∀ file, (record file).Asks (Ordinary own)) →
      (decideLocked userId filingId form record).Asks (Ordinary own) := by
    intro record hrecord
    unfold decideLocked decidableFiling lockFiling
    repeat' with_reducible first | refine Asks.bind ?_ fun _ => ?_ | refine Asks.ite ?_ ?_ | split | dsimp only
    all_goals simp [hown, hrecord]
  have hreferral : ∀ file reason, (recordReferral cfg filingId file userId reason).Asks (Ordinary own) := by
    intro file reason
    unfold recordReferral
    repeat' with_reducible first | refine Asks.bind ?_ fun _ => ?_ | refine Asks.ite ?_ ?_ | split | dsimp only
    all_goals simp
  have hdecision : ∀ file doc, (recordDecision cfg filingId file userId form doc).Asks (Ordinary own) := by
    intro file doc
    unfold recordDecision
    repeat' with_reducible first | refine Asks.bind ?_ fun _ => ?_ | refine Asks.ite ?_ ?_ | split | dsimp only
    all_goals simp
  have hboth := fun doc : FilingDocument => (hlocked (fun file => recordDecision cfg filingId file userId form doc)
    fun file => hdecision file doc).onRaise (asks_act.2 (ordinary_act doc.fileKey fun _ => none))
  unfold decideFeeWaiver decidableFiling
  repeat' with_reducible first | refine Asks.bind ?_ fun _ => ?_ | refine Asks.ite ?_ ?_ | split | dsimp only
  all_goals simp [hboth, hlocked, hreferral]

theorem processPayment_ordinary (hown : own userId) (data : PaymentProcessRequest) :
    (processPayment cfg userId data).Asks (Ordinary own) := by
  unfold processPayment makePayment lockFiling
  repeat' with_reducible first | refine Asks.bind ?_ fun _ => ?_ | refine Asks.ite ?_ ?_ | split | dsimp only
  all_goals simp [hown]

theorem recordExternalPayment_ordinary (hown : own userId) (key : Uuid) (data : ExternalPaymentRequest) :
    (recordExternalPayment cfg userId filingId key data).Asks (Ordinary own) := by
  unfold recordExternalPayment lockPaymentFiling insertCredit duplicateCredit lockFiling
  repeat' with_reducible first | refine Asks.bind ?_ fun _ => ?_ | refine Asks.ite ?_ ?_ | split | dsimp only
  all_goals simp [hown]

theorem reverseExternalPayment_ordinary (hown : own userId) (paymentId : PaymentId) (data : ExternalPaymentReversal) :
    (reverseExternalPayment cfg userId filingId paymentId data).Asks (Ordinary own) := by
  unfold reverseExternalPayment lockPaymentFiling releaseReceipt lockFiling
  repeat' with_reducible first | refine Asks.bind ?_ fun _ => ?_ | refine Asks.ite ?_ ?_ | split | dsimp only
  all_goals simp [hown]

/-! ## Orders and public copies -/

theorem recordFilingDateOrder_ordinary (hown : own userId) (form : DateOrderForm) :
    (recordFilingDateOrder cfg userId filingId form).Asks (Ordinary own) := by
  have hlocked : ∀ key content screening,
      (orderLocked cfg userId filingId form key content screening).Asks (Ordinary own) := by
    intro key content screening
    unfold orderLocked dateFiling orderable changeCaseDate lockFiling
    repeat' with_reducible first | refine Asks.bind ?_ fun _ => ?_ | refine Asks.ite ?_ ?_ | split | dsimp only
    all_goals simp [hown]
  have hboth := fun key content screening =>
    (hlocked key content screening).onRaise (asks_act.2 (ordinary_act key fun _ => none))
  unfold recordFilingDateOrder dateFiling orderable
  repeat' with_reducible first | refine Asks.bind ?_ fun _ => ?_ | refine Asks.ite ?_ ?_ | split | dsimp only
  all_goals simp [hboth]

@[simp] theorem documentContext_ordinary (id : DocumentId) : (documentContext userId id).Asks (Ordinary own) := by
  unfold documentContext mayDecide
  repeat' with_reducible first | refine Asks.bind ?_ fun _ => ?_ | refine Asks.ite ?_ ?_ | split | dsimp only
  all_goals simp

@[simp] theorem lockDocumentContext_ordinary (hown : own userId) (id : DocumentId) :
    (lockDocumentContext userId id).Asks (Ordinary own) := by
  unfold lockDocumentContext mayDecide lockFiling
  repeat' with_reducible first | refine Asks.bind ?_ fun _ => ?_ | refine Asks.ite ?_ ?_ | split | dsimp only
  all_goals simp [hown]

theorem prepareCopy_ordinary (hown : own userId) (id : DocumentId) (title : String) (file : Upload) :
    (prepareCopy cfg userId id title file).Asks (Ordinary own) := by
  have hinsert : ∀ key content screening,
      (insertCopy userId id (strip title) key content screening).Asks (Ordinary own) := by
    intro key content screening
    unfold insertCopy
    repeat' with_reducible first | refine Asks.bind ?_ fun _ => ?_ | refine Asks.ite ?_ ?_ | split | dsimp only
    all_goals simp [hown]
  have hboth := fun key content screening =>
    (hinsert key content screening).onRaise (asks_act.2 (ordinary_act key fun _ => none))
  unfold prepareCopy
  repeat' with_reducible first | refine Asks.bind ?_ fun _ => ?_ | refine Asks.ite ?_ ?_ | split | dsimp only
  all_goals simp [hboth]

theorem publishCopy_ordinary (hown : own userId) (id : DocumentId) (copyId : CopyId) (data : PublicationRequest) :
    (publishCopy cfg userId id copyId data).Asks (Ordinary own) := by
  unfold publishCopy
  repeat' with_reducible first | refine Asks.bind ?_ fun _ => ?_ | refine Asks.ite ?_ ?_ | split | dsimp only
  all_goals simp [hown]

theorem withholdDocument_ordinary (hown : own userId) (id : DocumentId) (data : PublicationRequest) :
    (withholdDocument cfg userId id data).Asks (Ordinary own) := by
  unfold withholdDocument
  repeat' with_reducible first | refine Asks.bind ?_ fun _ => ?_ | refine Asks.ite ?_ ?_ | split | dsimp only
  all_goals simp [hown]

theorem cleanupNext_ordinary (id : Nat) (storageError : Option String) :
    (cleanupNext id storageError).Asks (Ordinary own) := by
  unfold cleanupNext referenced deferDeletion
  repeat' with_reducible first | refine Asks.bind ?_ fun _ => ?_ | refine Asks.ite ?_ ?_ | split | dsimp only
  all_goals simp

/-! ## Administration -/

theorem publishIntake_ordinary (hown : own userId) (courtId : CourtId) (data : CourtIntakeChange) :
    (publishIntake userId courtId data).Asks (Ordinary own) := by
  have hlock : ∀ ids, (lockCaseTypes ids).Asks (Ordinary own) := by
    intro ids
    induction ids with
    | nil => simp [lockCaseTypes]
    | cons id ids ih => exact Asks.bind (by simp) fun row => ih.bind fun rest => by simp
  have hset : ∀ desired types, (setActive desired types).Asks (Ordinary own) := by
    intro desired types
    induction types with
    | nil => simp [setActive]
    | cons t types ih => exact Asks.bind (by simp) fun _ => ih
  unfold publishIntake requireCourtAdministrator
  repeat' with_reducible first | refine Asks.bind ?_ fun _ => ?_ | refine Asks.ite ?_ ?_ | split | dsimp only
  all_goals simp [hown, hlock, hset]

theorem publishCalendar_ordinary (hown : own userId) (courtId : CourtId) (data : CourtCalendar) :
    (publishCalendar userId courtId data).Asks (Ordinary own) := by
  unfold publishCalendar
  repeat' with_reducible first | refine Asks.bind ?_ fun _ => ?_ | refine Asks.ite ?_ ?_ | split | dsimp only
  all_goals simp [hown]

/-! ## Accounts -/

/-- What the parts on accounts ask. -/
def OnAccounts (own : UserId → Prop) : Op View → Prop
  | .lock _ (.user id) => own id
  | .fresh | .look _ | .lock _ .usersTable | .lock _ (.accountKey _) | .write (.user _) _ | .write (.accountKey _) _
  | .write .userIds _ => True
  | _ => False

theorem OnAccounts.ordinary {o : Op View} (h : OnAccounts own o) : Ordinary own o := by
  cases o with
  | lock m g =>
    cases g with
    | user => exact h
    | _ => trivial
  | tryLock | keep | letGo | act => exact h.elim
  | _ => trivial

section Accounts

variable (actorId id : UserId) (taken : Failure) (claims : Claims)

@[simp] theorem takeKeys_onAccounts (keys : List AccountKey) : (takeKeys id taken keys).Asks (OnAccounts own) := by
  induction keys with
  | nil => simp [takeKeys]
  | cons key keys ih =>
    refine Asks.bind (by simp [OnAccounts]) fun owner => .bind (by simp) fun _ => ?_
    exact .bind (by simp [OnAccounts]) fun _ => ih

@[simp] theorem dropKeys_onAccounts (keys : List AccountKey) : (dropKeys keys).Asks (OnAccounts own) := by
  induction keys with
  | nil => simp [dropKeys]
  | cons key keys ih =>
    exact Asks.bind (by simp [OnAccounts]) fun owner => .bind (by simp [OnAccounts]) fun _ => ih

@[simp] theorem insertUser_onAccounts (hall : ∀ id, own id) (account : UserId → Account) :
    (insertUser taken account).Asks (OnAccounts own) := by
  unfold insertUser
  repeat' with_reducible first | refine Asks.bind ?_ fun _ => ?_ | dsimp only
  all_goals simp [OnAccounts, hall]

@[simp] theorem updateUser_onAccounts (before after : Account) :
    (updateUser taken id before after).Asks (OnAccounts own) := by
  unfold updateUser
  repeat' with_reducible first | refine Asks.bind ?_ fun _ => ?_ | dsimp only
  all_goals simp [OnAccounts]

theorem lockUserRow_onAccounts (hall : ∀ id, own id) : (lockUserRow id).Asks (OnAccounts own) :=
  Asks.bind (by simp [OnAccounts]) fun _ => .bind (by simp [OnAccounts, hall]) fun row => by simp

theorem selectUsers_onAccounts (p : UserId → User → Bool) : (selectUsers p).Asks (OnAccounts own) := by
  have hread : ∀ ids, (readUsers p ids).Asks (OnAccounts own) := by
    intro ids
    induction ids with
    | nil => simp [readUsers]
    | cons id ids ih => exact Asks.bind (by simp [OnAccounts]) fun row => ih.bind fun rest => by simp
  exact Asks.bind (by simp [OnAccounts]) fun ids => hread ids

/-- **A sign-in asks for rows of accounts only.** -/
theorem resolveUser_onAccounts (hall : ∀ id, own id) : (resolveUser cfg claims).Asks (OnAccounts own) := by
  have hlink : ∀ id existing, (linkUser cfg id existing claims).Asks (OnAccounts own) := fun id existing =>
    (lockUserRow_onAccounts id hall).bind fun account => Asks.bind (by simp) fun _ => by simp
  have hprovision : (provisionUserFromOidc cfg claims).Asks (OnAccounts own) := by
    unfold provisionUserFromOidc
    repeat' with_reducible first | refine Asks.bind ?_ fun _ => ?_ | refine Asks.ite ?_ ?_ | split | dsimp only
    all_goals first | exact selectUsers_onAccounts _ | exact hlink _ _ | simp [hall]
  unfold resolveUser identifiedUser syncVerifiedEmail
  repeat' with_reducible first | refine Asks.bind ?_ fun _ => ?_ | refine Asks.ite ?_ ?_ | split | dsimp only
  all_goals first
    | exact selectUsers_onAccounts _
    | exact hprovision
    | exact lockUserRow_onAccounts _ hall
    | simp [OnAccounts]

@[simp] theorem insertUser_ordinary (hall : ∀ id, own id) (account : UserId → Account) :
    (insertUser taken account).Asks (Ordinary own) :=
  (insertUser_onAccounts taken hall account).mono fun _ => OnAccounts.ordinary

@[simp] theorem updateUser_ordinary (before after : Account) : (updateUser taken id before after).Asks (Ordinary own) :=
  (updateUser_onAccounts id taken before after).mono fun _ => OnAccounts.ordinary

@[simp] theorem signedInAccount_ordinary : (signedInAccount cfg actorId).Asks (Ordinary own) :=
  (ordinary_of_mild (getCurrentUser_mild actorId)).bind fun account => Asks.bind (by simp) fun _ => by simp

@[simp] theorem lockUsers_ordinary (hactor : own actorId) (hown : own id) :
    (lockUsers actorId id).Asks (Ordinary own) := by
  unfold lockUsers
  repeat' with_reducible first | refine Asks.bind ?_ fun _ => ?_ | refine Asks.ite ?_ ?_ | split | dsimp only
  all_goals simp [hactor, hown]

theorem createAccount_ordinary (hall : ∀ id, own id) (data : AccountChange) :
    (createAccount cfg actorId data).Asks (Ordinary own) := by
  unfold createAccount requireSystemAdministrator validateIdentity
  repeat' with_reducible first | refine Asks.bind ?_ fun _ => ?_ | refine Asks.ite ?_ ?_ | split | dsimp only
  all_goals simp [hall]

theorem updateAccount_ordinary (hactor : own actorId) (hown : own id) (data : AccountUpdate) :
    (updateAccount cfg actorId id data).Asks (Ordinary own) := by
  unfold updateAccount requireSystemAdministrator validateIdentity
  repeat' with_reducible first | refine Asks.bind ?_ fun _ => ?_ | refine Asks.ite ?_ ?_ | split | dsimp only
  all_goals simp [hactor, hown]

theorem changeCourtRole_ordinary (hactor : own actorId) (hown : own id) (courtId : CourtId) (data : CourtRoleChange) :
    (changeCourtRole cfg actorId id courtId data).Asks (Ordinary own) := by
  unfold changeCourtRole requireCourtAdministrator
  repeat' with_reducible first | refine Asks.bind ?_ fun _ => ?_ | refine Asks.ite ?_ ?_ | split | dsimp only
  all_goals simp [hactor, hown]

theorem bootstrap_ordinary (hall : ∀ id, own id) (data : AccountChange) : (bootstrap cfg data).Asks (Ordinary own) := by
  unfold bootstrap
  repeat' with_reducible first | refine Asks.bind ?_ fun _ => ?_ | refine Asks.ite ?_ ?_ | split | dsimp only
  all_goals simp [hall]

theorem registerUser_ordinary (hall : ∀ id, own id) (data : UserCreate) :
    (registerUser cfg data).Asks (Ordinary own) := by
  unfold registerUser
  repeat' with_reducible first | refine Asks.bind ?_ fun _ => ?_ | refine Asks.ite ?_ ?_ | split | dsimp only
  all_goals simp [hall]

theorem getProfile_ordinary (hall : ∀ id, own id) : (getProfile cfg claims).Asks (Ordinary own) :=
  ((resolveUser_onAccounts _ hall).mono fun _ => OnAccounts.ordinary).bind fun _ => by simp

end Accounts

/-! ## Requests -/

section Requests

variable {key : Uuid} {cms : Cms}

theorem createFiling_ordinary (hown : own userId) (data : FilingEnvelopeCreate) :
    (createFiling userId data key).Asks (Ordinary own) :=
  createFiling_asks ⟨fun _ h => plain_ordinary h.plain, hown, trivial, trivial, fun _ _ => trivial, trivial,
    Ordinary.tryLock, fun _ _ _ _ => trivial, trivial⟩

theorem submitFiling_ordinary (hown : own userId) (key : Option Uuid) (token : SubmissionToken) :
    (submitFilingRequest cfg userId filingId key token).Asks (Ordinary own) :=
  submitFilingRequest_asks ⟨fun _ h => plain_ordinary h.plain, hown, trivial, fun _ => trivial, fun _ => trivial,
    fun _ => trivial⟩ (fun _ => plain_ordinary) key token

theorem reviewLocks_ordinary (hown : own userId) (filings : FilingId → Prop) :
    ReviewLocks (Ordinary own) userId filings :=
  ⟨fun _ => plain_ordinary, hown, fun _ _ => trivial, fun _ => trivial, fun _ => trivial, fun _ => trivial,
    fun _ _ => trivial⟩

theorem batchReviewFilings_ordinary (hown : own userId) (data : BatchReviewRequest) :
    (batchReviewFilings cfg cms userId data).Asks (Ordinary own) :=
  batchReviewFilings_asks ⟨reviewLocks_ordinary hown _, Ordinary.tryLock, fun _ _ _ _ => trivial, trivial⟩ cms data

/-- The accounts that a request may lock. -/
def Request.mayLock : Request → UserId → Prop
  | .createAccount _ _, _ | .bootstrap _, _ | .registerUser _, _ | .signIn _, _ => True
  | .updateAccount actorId userId _, id | .changeCourtRole actorId userId _ _, id => id = actorId ∨ id = userId
  | r, id => r.actor = some id

/-- **What a program of the portal changes at once is stored objects,** and of accounts it locks no others. -/
theorem program_ordinary {r : Request} (hr : ∀ id, r.mayLock id → own id) :
    ((portal cfg).program r).Asks (Ordinary own) := by
  have hsaved : ∀ {α : Type} {p : Portal α}, p.Asks (Ordinary own) → (thenSaved p).Asks (Ordinary own) :=
    fun h => h.bind fun _ => by simp
  cases r with
  | createFiling => exact createFiling_ordinary (hr _ rfl) _
  | updateFiling => exact updateFiling_ordinary _
  | submitFiling => exact submitFiling_ordinary (hr _ rfl) _ _
  | uploadDocument => exact uploadDocument_ordinary (hr _ rfl) _ _ _
  | removeDocument => exact removeDocument_ordinary _
  | requestFeeReview => exact requestFeeReview_ordinary (hr _ rfl) _
  | assessFees => exact assessFees_ordinary (hr _ rfl) _
  | decideFeeWaiver => exact decideFeeWaiver_ordinary (hr _ rfl) _
  | processPayment => exact processPayment_ordinary (hr _ rfl) _
  | recordExternalPayment => exact recordExternalPayment_ordinary (hr _ rfl) _ _
  | reverseExternalPayment => exact reverseExternalPayment_ordinary (hr _ rfl) _ _
  | reviewFiling _ _ data cms => exact reviewFiling_asks (reviewLocks_ordinary (hr _ rfl) _) cms data
  | batchReviewFilings => exact batchReviewFilings_ordinary (hr _ rfl) _
  | recordFilingDateOrder => exact recordFilingDateOrder_ordinary (hr _ rfl) _
  | prepareCopy => exact prepareCopy_ordinary (hr _ rfl) _ _ _
  | publishCopy => exact publishCopy_ordinary (hr _ rfl) _ _ _
  | withholdDocument => exact withholdDocument_ordinary (hr _ rfl) _ _
  | cleanupNext => exact cleanupNext_ordinary _ _
  | publishIntake => exact hsaved (publishIntake_ordinary (hr _ rfl) _ _)
  | publishCalendar => exact hsaved (publishCalendar_ordinary (hr _ rfl) _ _)
  | changeParticipant _ _ participantId data =>
    exact hsaved (changeParticipant_asks (fun _ h => plain_ordinary h.plain) (hr _ rfl) trivial participantId data)
  | changePublicAccess _ _ data =>
    exact hsaved (changePublicAccess_asks (fun _ h => plain_ordinary h.plain) (hr _ rfl) trivial data)
  | createAccount => exact hsaved (createAccount_ordinary _ (fun _ => hr _ trivial) _)
  | updateAccount => exact hsaved (updateAccount_ordinary _ _ (hr _ (.inl rfl)) (hr _ (.inr rfl)) _)
  | changeCourtRole => exact hsaved (changeCourtRole_ordinary _ _ (hr _ (.inl rfl)) (hr _ (.inr rfl)) _ _)
  | bootstrap => exact hsaved (bootstrap_ordinary (fun _ => hr _ trivial) _)
  | registerUser => exact hsaved (registerUser_ordinary (fun _ => hr _ trivial) _)
  | signIn => exact getProfile_ordinary _ fun _ => hr _ trivial
  | storageChange => exact hsaved (by simp)

end Requests

end Muefs
