import Muefs.Locking.Order

/-!
# The programs of the portal keep the order

* `submitFilingRequest_descends` and the lemmas beside it : requests without savepoints;
* `createFiling_obeys`, `batchReviewFilings_obeys` : those with savepoints;
* `resolveUser_foremost`, `getProfile_obeys` : the sign-in of a token;
* `program_obeys` : every request but the creation of an account.
-/

namespace Muefs
open RowLocks Txn

variable {cfg : Settings} {home : CaseTypeId → CourtId} {userId : UserId} {filingId : FilingId}

theorem cleaned_descends {α : Type} {p : Portal α} {b b' : Rank} (h : Descends (portalOrder home) b b' p)
    (key : FileKey) :
    Descends (portalOrder home) b b' (p.onRaise (act key none)) :=
  h.onRaise fun _ => obeys_act.2 ⟨trivial, trivial⟩

/-! ## Drafts -/

theorem updateFiling_descends (data : FilingEnvelopeUpdate) :
    Descends (portalOrder home) (rank 8 0) (rank 5 0) (updateFiling userId filingId data) := by
  refine .bind (descends_of_easy signedInFiler_easy le_rfl) fun _ => ?_
  refine .bind (lockFiling_first.mono (by simp) le_rfl) fun row => descends_of_easy ?_ le_rfl
  unfold updateDetails
  repeat' with_reducible first | refine Asks.bind ?_ fun _ => ?_ | refine Asks.ite ?_ ?_ | split | dsimp only
  all_goals simp

theorem removeDocument_descends (id : DocumentId) :
    Descends (portalOrder home) (rank 8 0) (rank 5 0) (removeDocument userId filingId id) := by
  refine .bind (descends_of_easy signedInFiler_easy le_rfl) fun _ => ?_
  refine .bind (lockFiling_first.mono (by simp) le_rfl) fun row => descends_of_easy ?_ le_rfl
  repeat' with_reducible first | refine Asks.bind ?_ fun _ => ?_ | refine Asks.ite ?_ ?_ | split | dsimp only
  all_goals simp

theorem submitFilingRequest_descends (key : Option Uuid) (token : SubmissionToken) :
    Descends (portalOrder home) (rank 8 0) (rank 4 0) (submitFilingRequest cfg userId filingId key token) := by
  have hrecord : ∀ file, (recordSubmission cfg filingId file key).Asks Easy := by
    intro file
    unfold recordSubmission submittedDate
    repeat' with_reducible first | refine Asks.bind ?_ fun _ => ?_ | refine Asks.ite ?_ ?_ | split | dsimp only
    all_goals simp
  have hlocked : ∀ account fingerprints, Descends (portalOrder home) (rank 6 0) (rank 4 0)
      (submitLocked cfg account filingId key token fingerprints) := by
    intro account fingerprints
    refine .bind lockFiling_first fun row => ?_
    cases row with
    | none => exact .pure (by simp)
    | some file =>
      refine .bind (descends_of_easy (checkSubmission_easy _ _ _ _) (by simp : rank 4 0 ≤ rank 5 0)) fun recorded => ?_
      refine .ite (.pure le_rfl) (.ite ?_ (.pure le_rfl))
      refine .bind (validateFilingDestination_descends _ _) fun _ => descends_of_easy ?_ le_rfl
      exact Asks.bind (by simp) fun _ => (hrecord file).bind fun _ => by simp
  have hmain : ∀ account, Descends (portalOrder home) (rank 6 0) (rank 4 0)
      (submitFiling cfg account filingId key token) := by
    intro account
    refine .bind (descends_of_easy getFiling_easy le_rfl) fun row => ?_
    cases row with
    | none => exact .pure (by simp)
    | some probe =>
      refine .bind (descends_of_easy (checkSubmission_easy _ _ _ _) le_rfl) fun recorded => ?_
      refine .ite (.pure (by simp)) (.ite ?_ (.pure (by simp)))
      refine .bind (descends_of_easy (validateFilingDestination_easy _ _) le_rfl) fun _ => ?_
      exact .bind (descends_of_easy (verifyFilingDocuments_easy _ _) le_rfl) fun _ => hlocked _ _
  refine .bind (descends_of_easy signedInFiler_easy le_rfl) fun _ => .bind lockFiler_descends fun account => ?_
  refine .bind (descends_of_easy getFiling_easy le_rfl) fun row => ?_
  refine .bind (descends_of_easy (ownedFiling_easy _ _) le_rfl) fun _ => .bind (hmain account) fun outcome => ?_
  cases outcome with
  | notSubmittable => exact .raise
  | _ => exact .pure le_rfl

theorem uploadDocument_descends (key : Uuid) (form : UploadForm) (file : Upload) :
    Descends (portalOrder home) (rank 8 0) (rank 5 0) (uploadDocument cfg userId filingId key form file) := by
  have hrecord : ∀ doc, Descends (portalOrder home) (rank 8 0) (rank 5 0)
      (recordUpload userId filingId key form file doc) := by
    intro doc
    refine .bind lockFiler_descends fun _ => .bind lockFiling_first fun row => descends_of_easy ?_ le_rfl
    unfold replayUpload
    repeat' with_reducible first | refine Asks.bind ?_ fun _ => ?_ | refine Asks.ite ?_ ?_ | split | dsimp only
    all_goals simp
  refine .bind (descends_of_easy signedInFiler_easy le_rfl) fun _ => ?_
  refine .bind (descends_of_easy getFiling_easy le_rfl) fun row => ?_
  refine .bind (descends_of_easy (ownedFiling_easy _ _) le_rfl) fun probe => ?_
  refine .bind (descends_of_easy (by simp) le_rfl) fun rows => ?_
  split
  · refine descends_of_easy ?_ (by simp)
    unfold readUpload replayUpload
    repeat' with_reducible first | refine Asks.bind ?_ fun _ => ?_ | refine Asks.ite ?_ ?_ | split | dsimp only
    all_goals simp
  · refine .bind (descends_of_easy (by simp) le_rfl) fun _ => .bind (descends_of_easy (by simp) le_rfl) fun _ => ?_
    refine .bind (descends_of_easy (storeDocumentUpload_easy _ _ _ _) le_rfl) fun doc => ?_
    exact cleaned_descends (hrecord doc) _

/-! ## Fees -/

theorem requestFeeReview_descends (data : FeeReviewRequest) :
    Descends (portalOrder home) (rank 8 0) (rank 5 0) (requestFeeReview cfg userId filingId data) := by
  refine .bind (descends_of_easy signedInFiler_easy le_rfl) fun _ => .bind (descends_of_easy (by simp) le_rfl) fun _ =>
    ?_
  refine .bind lockFiler_descends fun account => .bind lockFiling_first fun row => descends_of_easy ?_ le_rfl
  repeat' with_reducible first | refine Asks.bind ?_ fun _ => ?_ | refine Asks.ite ?_ ?_ | split | dsimp only
  all_goals simp

theorem assessFees_descends (data : FeeAssessmentRequest) :
    Descends (portalOrder home) (rank 8 0) (rank 5 0) (assessFees cfg userId filingId data) := by
  refine .bind (descends_of_easy (by simp) le_rfl) fun _ => .bind lockCurrentUser_descends fun account => ?_
  refine .bind lockFiling_first fun row => descends_of_easy ?_ le_rfl
  repeat' with_reducible first | refine Asks.bind ?_ fun _ => ?_ | refine Asks.ite ?_ ?_ | split | dsimp only
  all_goals simp

theorem decideFeeWaiver_descends (form : WaiverForm) :
    Descends (portalOrder home) (rank 8 0) (rank 5 0) (decideFeeWaiver cfg userId filingId form) := by
  have hdecidable : ∀ row account, (decidableFiling row userId account form.action form.expectedFeeVersion).Asks
    Easy := by
    intro row account
    unfold decidableFiling
    repeat' with_reducible first | refine Asks.bind ?_ fun _ => ?_ | refine Asks.ite ?_ ?_ | split | dsimp only
    all_goals simp
  have hlocked : ∀ record : FilingFile → Portal Response, (∀ file, (record file).Asks Easy) →
      Descends (portalOrder home) (rank 8 0) (rank 5 0) (decideLocked userId filingId form record) := by
    intro record hrecord
    refine .bind lockCurrentUser_descends fun account => .bind lockFiling_first fun row => ?_
    exact .bind (descends_of_easy (hdecidable _ _) le_rfl) fun file => descends_of_easy (hrecord file) le_rfl
  refine .bind (descends_of_easy getFiling_easy le_rfl) fun row => .bind (descends_of_easy (by simp) le_rfl)
    fun account => ?_
  refine .bind (descends_of_easy (hdecidable _ _) le_rfl) fun _ => .bind (descends_of_easy (by simp) le_rfl) fun _ => ?_
  refine .bind (descends_of_easy (by simp) le_rfl) fun _ => ?_
  split
  · refine hlocked _ fun file => ?_
    unfold recordReferral
    repeat' with_reducible first | refine Asks.bind ?_ fun _ => ?_ | refine Asks.ite ?_ ?_ | split | dsimp only
    all_goals simp
  · refine .bind (descends_of_easy (by simp) le_rfl) fun _ => ?_
    refine .bind (descends_of_easy (storeDocumentUpload_easy _ _ _ _) le_rfl) fun doc => ?_
    refine cleaned_descends (hlocked _ fun file => ?_) _
    unfold recordDecision
    repeat' with_reducible first | refine Asks.bind ?_ fun _ => ?_ | refine Asks.ite ?_ ?_ | split | dsimp only
    all_goals simp

theorem processPayment_descends (data : PaymentProcessRequest) :
    Descends (portalOrder home) (rank 8 0) (rank 5 0) (processPayment cfg userId data) := by
  refine .bind (descends_of_easy signedInFiler_easy le_rfl) fun _ => .bind lockFiler_descends fun account => ?_
  refine .bind lockFiling_first fun row => descends_of_easy ?_ le_rfl
  unfold makePayment
  repeat' with_reducible first | refine Asks.bind ?_ fun _ => ?_ | refine Asks.ite ?_ ?_ | split | dsimp only
  all_goals simp

theorem lockPaymentFiling_descends :
    Descends (portalOrder home) (rank 8 0) (rank 5 0) (lockPaymentFiling cfg filingId userId) := by
  refine .bind lockCurrentUser_descends fun account => .bind lockFiling_first fun row => descends_of_easy ?_ le_rfl
  repeat' with_reducible first | refine Asks.bind ?_ fun _ => ?_ | refine Asks.ite ?_ ?_ | split | dsimp only
  all_goals simp

theorem recordExternalPayment_descends (key : Uuid) (data : ExternalPaymentRequest) :
    Descends (portalOrder home) (rank 8 0) (rank 5 0) (recordExternalPayment cfg userId filingId key data) := by
  refine .bind lockPaymentFiling_descends fun r => descends_of_easy ?_ le_rfl
  unfold insertCredit duplicateCredit
  repeat' with_reducible first | refine Asks.bind ?_ fun _ => ?_ | refine Asks.ite ?_ ?_ | split | dsimp only
  all_goals simp

theorem reverseExternalPayment_descends (paymentId : PaymentId) (data : ExternalPaymentReversal) :
    Descends (portalOrder home) (rank 8 0) (rank 5 0) (reverseExternalPayment cfg userId filingId paymentId data) := by
  refine .bind lockPaymentFiling_descends fun r => descends_of_easy ?_ le_rfl
  unfold releaseReceipt
  repeat' with_reducible first | refine Asks.bind ?_ fun _ => ?_ | refine Asks.ite ?_ ?_ | split | dsimp only
  all_goals simp

/-! ## Date orders and public copies -/

theorem changeCaseDate_descends (filing : FilingEnvelope) (form : DateOrderForm) :
    Descends (portalOrder home) (rank 5 0) (rank 3 0) (changeCaseDate filing form) := by
  refine .ite (.bind (descends_of_easy (by simp) le_rfl) fun caseId => ?_) (.pure (by simp))
  refine .bind (.lock rfl le_rfl (by simp) fun _ => clears_case_update (by simp)) fun row => descends_of_easy ?_ le_rfl
  repeat' with_reducible first | refine Asks.bind ?_ fun _ => ?_ | refine Asks.ite ?_ ?_ | split | dsimp only
  all_goals simp

theorem recordFilingDateOrder_descends (form : DateOrderForm) :
    Descends (portalOrder home) (rank 8 0) (rank 3 0) (recordFilingDateOrder cfg userId filingId form) := by
  have hdate : ∀ row account, (dateFiling row userId account).Asks Easy := by
    intro row account
    unfold dateFiling
    repeat' with_reducible first | refine Asks.bind ?_ fun _ => ?_ | refine Asks.ite ?_ ?_ | split | dsimp only
    all_goals simp
  have horderable : ∀ file, (orderable file form.expectedVersion).Asks Easy := fun file =>
    Asks.bind (by simp) fun _ => by simp
  have hlocked : ∀ key content screening, Descends (portalOrder home) (rank 8 0) (rank 3 0)
      (orderLocked cfg userId filingId form key content screening) := by
    intro key content screening
    refine .bind lockCurrentUser_descends fun account => .bind lockFiling_first fun row => ?_
    refine .bind (descends_of_easy (hdate _ _) le_rfl) fun file =>
      .bind (descends_of_easy (horderable _) le_rfl) fun _ => ?_
    refine .bind (changeCaseDate_descends _ _) fun change => descends_of_easy ?_ le_rfl
    repeat' with_reducible first | refine Asks.bind ?_ fun _ => ?_ | refine Asks.ite ?_ ?_ | split | dsimp only
    all_goals simp
  refine .bind (descends_of_easy (by simp) le_rfl) fun _ => .bind (descends_of_easy (by simp) le_rfl) fun _ => ?_
  refine .bind (descends_of_easy (by simp) le_rfl) fun row => .bind (descends_of_easy (by simp) le_rfl)
    fun account => ?_
  refine .bind (descends_of_easy (hdate _ _) le_rfl) fun file => .bind (descends_of_easy (horderable _) le_rfl) fun _ =>
    ?_
  refine .bind (descends_of_easy inspectUpload_easy le_rfl) fun r => .bind (descends_of_easy (by simp) le_rfl)
    fun uuid => ?_
  exact .bind (descends_of_easy (by simp) le_rfl) fun _ => cleaned_descends (hlocked _ _ _) _

theorem lockDocumentContext_descends (id : DocumentId) :
    Descends (portalOrder home) (rank 8 0) (rank 2 0) (lockDocumentContext userId id) := by
  refine .bind (descends_of_easy (by simp) le_rfl) fun entry => .bind (descends_of_easy (by simp) le_rfl)
    fun filingId => ?_
  refine .bind lockUser_descends fun accountRow => .bind (descends_of_easy (by simp) le_rfl) fun account => ?_
  refine .bind lockFiling_first fun row => .bind (.lock rfl (by simp) (by simp) fun _ => clears_document) fun _ => ?_
  refine descends_of_easy ?_ le_rfl
  unfold mayDecide
  repeat' with_reducible first | refine Asks.bind ?_ fun _ => ?_ | refine Asks.ite ?_ ?_ | split | dsimp only
  all_goals simp

theorem prepareCopy_descends (id : DocumentId) (title : String) (file : Upload) :
    Descends (portalOrder home) (rank 8 0) (rank 2 0) (prepareCopy cfg userId id title file) := by
  have hinsert : ∀ key content screening, Descends (portalOrder home) (rank 8 0) (rank 2 0)
      (insertCopy userId id (strip title) key content screening) := by
    intro key content screening
    refine .bind (lockDocumentContext_descends id) fun context => descends_of_easy ?_ le_rfl
    repeat' with_reducible first | refine Asks.bind ?_ fun _ => ?_ | refine Asks.ite ?_ ?_ | split | dsimp only
    all_goals simp
  refine .bind (descends_of_easy (by simp) le_rfl) fun _ => .bind (descends_of_easy (documentContext_easy id) le_rfl) ?_
  refine fun r => .bind (descends_of_easy (by simp) le_rfl) fun _ =>
    .bind (descends_of_easy inspectUpload_easy le_rfl) ?_
  refine fun r => .bind (descends_of_easy (by simp) le_rfl) fun uuid => ?_
  exact .bind (descends_of_easy (by simp) le_rfl) fun _ => cleaned_descends (hinsert _ _ _) _

theorem publishCopy_descends (id : DocumentId) (copyId : CopyId) (data : PublicationRequest) :
    Descends (portalOrder home) (rank 8 0) (rank 2 0) (publishCopy cfg userId id copyId data) := by
  refine .bind (descends_of_easy (documentContext_easy id) le_rfl) fun r => .bind (descends_of_easy (by simp) le_rfl) ?_
  refine fun _ => .bind (descends_of_easy (by simp) le_rfl) fun rows => .bind (descends_of_easy (by simp) le_rfl) ?_
  refine fun copy => .bind (descends_of_easy (by simp) le_rfl) fun stored =>
    .bind (descends_of_easy (by simp) le_rfl) ?_
  refine fun content => .bind (descends_of_easy (by simp) le_rfl) fun _ => ?_
  refine .bind (lockDocumentContext_descends id) fun context => descends_of_easy ?_ le_rfl
  repeat' with_reducible first | refine Asks.bind ?_ fun _ => ?_ | refine Asks.ite ?_ ?_ | split | dsimp only
  all_goals simp

theorem withholdDocument_descends (id : DocumentId) (data : PublicationRequest) :
    Descends (portalOrder home) (rank 8 0) (rank 2 0) (withholdDocument cfg userId id data) := by
  refine .bind (lockDocumentContext_descends id) fun context => descends_of_easy ?_ le_rfl
  repeat' with_reducible first | refine Asks.bind ?_ fun _ => ?_ | refine Asks.ite ?_ ?_ | split | dsimp only
  all_goals simp

theorem cleanupNext_descends (id : Nat) (storageError : Option String) :
    Descends (portalOrder home) (rank 8 0) (rank 0 0) (cleanupNext id storageError) := by
  refine .bind (descends_of_easy (by simp) le_rfl) fun time => ?_
  refine .bind (.lock rfl (by simp) (by simp) fun _ => clears_deletion) fun row => descends_of_easy ?_ le_rfl
  unfold referenced deferDeletion
  repeat' with_reducible first | refine Asks.bind ?_ fun _ => ?_ | refine Asks.ite ?_ ?_ | split | dsimp only
  all_goals simp

/-! ## Administration -/

theorem publishCalendar_descends (courtId : CourtId) (data : CourtCalendar) :
    Descends (portalOrder home) (rank 8 0) (rank 6 0) (publishCalendar userId courtId data) := by
  refine .bind lockCurrentUser_descends fun account => descends_of_easy ?_ le_rfl
  repeat' with_reducible first | refine Asks.bind ?_ fun _ => ?_ | refine Asks.ite ?_ ?_ | split | dsimp only
  all_goals simp

theorem requireCaseStaff_easy (account : Account) (caseId : CaseId) : (requireCaseStaff account caseId).Asks Easy :=
  Asks.bind (by simp) fun row => .bind (by simp) fun case => by simp

theorem changeParticipant_descends (caseId : CaseId) (participantId : Option ParticipantId) (data : ParticipantChange) :
    Descends (portalOrder home) (rank 8 0) (rank 3 0) (changeParticipant cfg userId caseId participantId data) := by
  refine .bind lockUser_descends fun actorRow => .bind (descends_of_easy (by simp) le_rfl) fun actor => ?_
  refine .bind (descends_of_easy (requireCaseStaff_easy _ _) le_rfl) fun _ => ?_
  refine .bind (.lock rfl (by simp) (by simp) fun _ => clears_case_update (by simp)) fun row =>
    descends_of_easy ?_ le_rfl
  unfold changedParticipant participantAccount saveParticipants
  repeat' with_reducible first | refine Asks.bind ?_ fun _ => ?_ | refine Asks.ite ?_ ?_ | split | dsimp only
  all_goals simp

theorem changePublicAccess_descends (caseId : CaseId) (data : PublicCaseAccessChange) :
    Descends (portalOrder home) (rank 8 0) (rank 3 0) (changePublicAccess userId caseId data) := by
  refine .bind lockCurrentUser_descends fun account => ?_
  refine .bind (descends_of_easy (requireCaseStaff_easy _ _) le_rfl) fun _ => ?_
  refine .bind (descends_of_easy (by simp) le_rfl) fun seen => .bind (descends_of_easy (by simp) le_rfl) fun _ => ?_
  refine .bind (.lock rfl (by simp) (by simp) fun _ => clears_case_update (by simp)) fun row =>
    descends_of_easy ?_ le_rfl
  repeat' with_reducible first | refine Asks.bind ?_ fun _ => ?_ | refine Asks.ite ?_ ?_ | split | dsimp only
  all_goals simp

theorem requireCourtAdministrator_easy (account : Account) (courtId : CourtId) :
    (requireCourtAdministrator account courtId).Asks Easy := by
  unfold requireCourtAdministrator
  repeat' with_reducible first | refine Asks.bind ?_ fun _ => ?_ | refine Asks.ite ?_ ?_ | split | dsimp only
  all_goals simp

theorem lockCaseTypes_obeys {courtId : CourtId} {ids : List CaseTypeId} {locks : Set (Mode × Row)}
    (hready : Ready (lockTurn home) locks (rank 3 0)) (hcourt : (.update, .court courtId) ∈ locks)
    (hids : ∀ id ∈ ids, home id = courtId) :
    Obeys (portalOrder home).rules.straight locks (lockCaseTypes ids) fun locks' _ =>
      Ready (lockTurn home) locks' (rank 3 0) ∧ locks ⊆ locks' := by
  induction ids generalizing locks with
  | nil => exact ⟨hready, subset_rfl⟩
  | cons id ids ih =>
    have hhome := hids id List.mem_cons_self
    simp only [lockCaseTypes, obeys_bind, obeys_lock, portalOrder_locks]
    refine ⟨hready.mayAsk_guarded (h := .court (home id)) rfl (by rwa [hhome]), fun row _ => ?_⟩
    have hguard : (.update, .court (home id)) ∈ locks := by rwa [hhome]
    have hnext : Ready (lockTurn home) (insert (.update, .caseType id) locks) (rank 3 0) :=
      hready.insert (clears_caseType_update (by simp) hguard)
    refine (ih hnext (Set.mem_insert_of_mem _ hcourt) fun id' hid' => hids id' (List.mem_cons_of_mem _ hid')).mono ?_
    rintro locks' rest ⟨hready', hmore⟩
    exact ⟨hready', (Set.subset_insert _ _).trans hmore⟩

/-- **The intake of a court.** The case types come under the lock of their court. -/
theorem publishIntake_descends (courtId : CourtId) (data : CourtIntakeChange) :
    Descends (portalOrder home) (rank 8 0) (rank 3 0) (publishIntake userId courtId data) := by
  have hset : ∀ desired types, (setActive desired types).Asks Easy := by
    intro desired types
    induction types with
    | nil => simp [setActive]
    | cons t types ih => exact Asks.bind (by simp) fun _ => ih
  refine .bind lockCurrentUser_descends fun account => ?_
  refine .bind (descends_of_easy (requireCourtAdministrator_easy _ _) le_rfl) fun _ => ?_
  refine ⟨fun locks hready => ?_⟩
  simp only [obeys_bind, obeys_lock, obeys_look, obeys_expect, obeys_require, portalOrder_locks]
  refine ⟨hready.mayAsk rfl (by simp), fun courtRow _ court _ _ => ⟨trivial, fun ids hids => ?_⟩⟩
  have hcourt : Ready (lockTurn home) (insert (.update, .court courtId) locks) (rank 3 0) :=
    (hready.mono (by simp)).insert (clears_court_update (by simp))
  refine (lockCaseTypes_obeys hcourt (Set.mem_insert _ _) hids).mono ?_
  rintro locks' caseTypes ⟨hready', hmore⟩ _
  refine Obeys.mono ((descends_of_easy ?_ le_rfl).run locks' hready') fun _ _ hnext =>
    ⟨hnext.1, ((Set.subset_insert _ _).trans hmore).trans hnext.2⟩
  repeat' with_reducible first | refine Asks.bind ?_ fun _ => ?_ | refine Asks.ite ?_ ?_ | split | dsimp only
  all_goals simp [hset]

/-! ## Accounts -/

section Accounts

variable {actorId : UserId} (taken : Failure)

@[simp] theorem takeKeys_easy (id : UserId) (keys : List AccountKey) : (takeKeys id taken keys).Asks Easy := by
  induction keys with
  | nil => simp [takeKeys]
  | cons key keys ih => exact Asks.bind (by simp) fun owner => .bind (by simp) fun _ => .bind (by simp) fun _ => ih

@[simp] theorem updateUser_easy (id : UserId) (before after : Account) :
    (updateUser taken id before after).Asks Easy := by
  have hdrop : ∀ keys, (dropKeys keys).Asks Easy := by
    intro keys
    induction keys with
    | nil => simp [dropKeys]
    | cons key keys ih => exact Asks.bind (by simp) fun owner => .bind (by simp) fun _ => ih
  unfold updateUser
  repeat' with_reducible first | refine Asks.bind ?_ fun _ => ?_ | refine Asks.ite ?_ ?_ | split | dsimp only
  all_goals simp [hdrop]

theorem signedInAccount_easy : (signedInAccount cfg actorId).Asks Easy :=
  getCurrentUser_easy.bind fun account => Asks.bind (by simp) fun _ => by simp

theorem lockUser_next {m : Mode} {id : UserId} :
    Descends (portalOrder home) (rank 7 (-id)) (rank 7 (-id - 1))
    (Txn.lock m (Row.user id) : Portal (View (.user id))) :=
  .lock rfl (by simp) (by simp) fun _ => clears_user (by simp)

theorem lockUsers_descends : Descends (portalOrder home) (rank 8 0) (rank 6 0) (lockUsers actorId userId) := by
  have htwo : ∀ {a b : Nat}, a < b → rank 7 (-(b : Int)) ≤ rank 7 (-(a : Int) - 1) := by
    intro a b h
    rw [rank_le]
    omega
  unfold lockUsers
  split_ifs with heq hlt
  · exact .bind lockUser_descends fun row => .pure le_rfl
  · refine .bind (lockUser_next.mono (by simp) le_rfl) fun actor => ?_
    exact .bind (lockUser_next.mono (htwo hlt) (by simp)) fun user => .pure le_rfl
  · have hgt : userId < actorId := Nat.lt_of_le_of_ne (Nat.not_lt.1 hlt) (Ne.symm heq)
    refine .bind (lockUser_next.mono (by simp) le_rfl) fun user => ?_
    exact .bind (lockUser_next.mono (htwo hgt) (by simp)) fun actor => .pure le_rfl

theorem updateAccount_descends (data : AccountUpdate) :
    Descends (portalOrder home) (rank 8 0) (rank 6 0) (updateAccount cfg actorId userId data) := by
  refine .bind (descends_of_easy signedInAccount_easy le_rfl) fun _ => .bind lockUsers_descends fun r => ?_
  refine descends_of_easy ?_ le_rfl
  unfold requireSystemAdministrator validateIdentity
  repeat' with_reducible first | refine Asks.bind ?_ fun _ => ?_ | refine Asks.ite ?_ ?_ | split | dsimp only
  all_goals simp

theorem changeCourtRole_descends (courtId : CourtId) (data : CourtRoleChange) :
    Descends (portalOrder home) (rank 8 0) (rank 6 0) (changeCourtRole cfg actorId userId courtId data) := by
  refine .bind (descends_of_easy signedInAccount_easy le_rfl) fun _ => .bind lockUsers_descends fun r => ?_
  refine descends_of_easy ?_ le_rfl
  repeat' with_reducible first | refine Asks.bind ?_ fun _ => ?_ | refine Asks.ite ?_ ?_ | split | dsimp only
  all_goals simp [requireCourtAdministrator_easy]

theorem insertUser_descends (account : UserId → Account) :
    Descends (portalOrder home) (rank 8 0) (rank 6 0) (insertUser taken account) := by
  refine .bind (descends_of_easy (by simp) le_rfl) fun _ => .bind (descends_of_easy (by simp) le_rfl) fun id => ?_
  refine .bind lockUser_descends fun row => descends_of_easy ?_ le_rfl
  repeat' with_reducible first | refine Asks.bind ?_ fun _ => ?_ | refine Asks.ite ?_ ?_ | split | dsimp only
  all_goals simp

theorem bootstrap_descends (data : AccountChange) :
    Descends (portalOrder home) (rank 8 0) (rank 6 0) (bootstrap cfg data) := by
  refine .bind (descends_of_easy (by simp) le_rfl) fun _ => .bind (descends_of_easy (by simp) le_rfl) fun _ => ?_
  refine .bind (descends_of_easy (by simp) le_rfl) fun _ => .bind (descends_of_easy (by simp) le_rfl) fun bound => ?_
  refine .bind (descends_of_easy (by simp) le_rfl) fun _ => .bind (descends_of_easy (by simp) le_rfl) fun used => ?_
  exact .bind (descends_of_easy (by simp) le_rfl) fun _ => insertUser_descends _ _

theorem registerUser_descends (data : UserCreate) :
    Descends (portalOrder home) (rank 8 0) (rank 6 0) (registerUser cfg data) := by
  refine .bind (descends_of_easy (by simp) le_rfl) fun _ => .bind (descends_of_easy (by simp) le_rfl) fun bound => ?_
  refine .bind (descends_of_easy (by simp) le_rfl) fun _ => .bind (descends_of_easy (by simp) le_rfl) fun _ => ?_
  exact insertUser_descends _ _

/-- Locks that no turn is about. -/
def Aside (home : CaseTypeId → CourtId) (locks : Set (Mode × Row)) : Prop :=
  ∀ x ∈ locks, ∀ m, lockTurn home m x.2 = .apart

variable {locks : Set (Mode × Row)} {claims : Claims}

theorem Aside.foremost (h : Aside home locks) (id : UserId) : Foremost (lockTurn home) (.user id) locks :=
  ⟨fun m => ⟨_, by cases m <;> rfl⟩, fun x hx => .inl (h x hx)⟩

theorem aside_of_easy {α : Type} {p : Portal α} (h : p.Asks Easy) (hlocks : Aside home locks) :
    Obeys (portalOrder home).rules.straight locks p fun locks' _ => Aside home locks' := by
  refine Obeys.of_easy (h.mono fun _ => Easy.order) (fun locks m g hlocks hapart x hx => ?_) hlocks
  rcases Set.mem_insert_iff.1 hx with rfl | hx
  · exact hapart
  · exact hlocks x hx

theorem foremost_of_easy {α : Type} {p : Portal α} (h : p.Asks Easy) {id : UserId}
    (hlocks : Foremost (lockTurn home) (.user id) locks) :
    Obeys (portalOrder home).rules.straight locks p fun locks' _ => Foremost (lockTurn home) (.user id) locks' :=
  Obeys.of_easy (h.mono fun _ => Easy.order) (fun _ _ _ hlocks hapart => hlocks.insert_apart hapart) hlocks

theorem lockUserRow_foremost {id : UserId} (hlocks : Foremost (lockTurn home) (.user id) locks) :
    Obeys (portalOrder home).rules.straight locks (lockUserRow id) fun locks' _ =>
      Foremost (lockTurn home) (.user id) locks' := by
  simp only [lockUserRow, obeys_bind]
  refine (foremost_of_easy (by simp) hlocks).mono fun locks₁ _ h₁ => ?_
  simp only [obeys_lock, obeys_expect, portalOrder_locks]
  exact ⟨h₁.mayAsk_own, fun _ _ _ _ => h₁.insert⟩

theorem insertUser_foremost (account : UserId → Account) (hlocks : Aside home locks) :
    Obeys (portalOrder home).rules.straight locks (insertUser taken account) fun locks' id =>
      Foremost (lockTurn home) (.user id) locks' := by
  simp only [insertUser, obeys_bind]
  refine (aside_of_easy (by simp) hlocks).mono fun locks₁ _ h₁ => ?_
  refine (aside_of_easy (by simp) h₁).mono fun locks₂ id h₂ => ?_
  simp only [obeys_lock, portalOrder_locks]
  refine ⟨(h₂.foremost id).mayAsk_own, fun row _ => ?_⟩
  have hrest : (do
      require (row = none) (.integrity "users_pkey")
      takeKeys id taken (account id).user.keys
      write (.user id) fun _ => some (account id)
      write .userIds fun ids => ids ++ [id] : Portal Unit).Asks Easy := by
    repeat' with_reducible first | refine Asks.bind ?_ fun _ => ?_ | dsimp only
    all_goals simp
  simpa [obeys_bind] using foremost_of_easy hrest (h₂.foremost id).insert

/-- **A sign-in locks the account of its token,** and nothing else of the order. -/
theorem resolveUser_foremost : Obeys (portalOrder home).rules.straight ∅ (resolveUser cfg claims) fun locks user =>
    Foremost (lockTurn home) (.user user.1) locks := by
  have hlink : ∀ {locks id existing}, Aside home locks →
      Obeys (portalOrder home).rules.straight locks (linkUser cfg id existing claims) fun locks' user =>
        Foremost (lockTurn home) (.user user.1) locks' := by
    intro locks id existing hlocks
    simp only [linkUser, obeys_bind]
    refine (lockUserRow_foremost (hlocks.foremost id)).mono fun locks₁ account h₁ => ?_
    exact (foremost_of_easy (by simp) h₁).mono fun locks₂ _ h₂ => h₂
  have hfound : ∀ {locks}, Aside home locks → Obeys (portalOrder home).rules.straight locks
      (provisionUserFromOidc cfg claims) fun locks' found =>
        ∀ user, found = some user → Foremost (lockTurn home) (.user user.1) locks' := by
    intro locks hlocks
    unfold provisionUserFromOidc
    split
    · simp
    · simp only [obeys_bind]
      refine (aside_of_easy (selectUsers_easy _) hlocks).mono fun locks₁ matching h₁ => ?_
      split
      · simp only [obeys_bind]
        refine (insertUser_foremost _ _ h₁).mono fun locks₂ id h₂ user huser => ?_
        cases huser
        exact h₂
      · split
        · intro user _
          exact h₁.foremost user.1
        · refine obeys_ite.2 ⟨fun _ => by simp, fun _ => ?_⟩
          simp only [obeys_bind]
          refine (hlink h₁).mono fun locks₂ linked h₂ user huser => ?_
          cases huser
          exact h₂
      · simp
  have haside : Aside home ∅ := fun _ hx => hx.elim
  simp only [resolveUser, identifiedUser, obeys_bind, obeys_require, obeys_expect]
  refine fun _ => (aside_of_easy (selectUsers_easy _) haside).mono fun locks₁ bound h₁ => ?_
  have hsync : ∀ {locks} {user : UserId × Account}, Foremost (lockTurn home) (.user user.1) locks →
      Obeys (portalOrder home).rules.straight locks (syncVerifiedEmail cfg user.1 user.2.user claims) fun locks' _ =>
        Foremost (lockTurn home) (.user user.1) locks' := by
    intro locks user hlocks
    refine obeys_ite.2 ⟨fun _ => hlocks, fun _ => ?_⟩
    simp only [obeys_bind]
    refine (lockUserRow_foremost hlocks).mono fun locks₂ _ h₂ => ?_
    exact foremost_of_easy (by simp) h₂
  cases bound with
  | cons user _ =>
    intro user' huser' _
    cases huser'
    exact hsync (h₁.foremost _)
  | nil =>
    refine obeys_ite.2 ⟨fun _ => ?_, fun _ => ?_⟩
    · exact (hfound h₁).mono fun locks₂ found h₂ user huser _ => hsync (h₂ user huser)
    simp

theorem getProfile_obeys (claims : Claims) :
    Obeys (portalOrder home).rules.monitor ⟨∅, ∅⟩ (getProfile cfg claims) fun _ _ => True := by
  simp only [getProfile, obeys_bind, obeys_pure]
  exact (resolveUser_foremost.outer ⟨rfl, Set.empty_subset _⟩).mono fun _ _ _ => trivial

end Accounts

/-! ## Creation -/

theorem insertFiling_descends (filer : Viewer) (data : FilingEnvelopeCreate) (key : Uuid) :
    Descends (portalOrder home) (rank 6 0) (rank 4 0) (insertFiling filer data key) := by
  refine .bind ((validateFilingDestination_descends _ _).mono (by simp) le_rfl) fun case => descends_of_easy ?_ le_rfl
  repeat' with_reducible first | refine Asks.bind ?_ fun _ => ?_ | refine Asks.ite ?_ ?_ | split | dsimp only
  all_goals simp

theorem findCreated_easy (key : Uuid) : (findCreated userId key).Asks Easy := by
  unfold findCreated
  repeat' with_reducible first | refine Asks.bind ?_ fun _ => ?_ | refine Asks.ite ?_ ?_ | split | dsimp only
  all_goals simp

theorem createFiling_obeys (data : FilingEnvelopeCreate) (key : Uuid) :
    Obeys (portalOrder home).rules.monitor ⟨∅, ∅⟩ (createFiling userId data key) fun _ _ => True := by
  have hstart : Between (portalOrder home) (rank 8 0) ∅ ⟨∅, ∅⟩ := .start
  simp only [createFiling, obeys_bind]
  refine ((descends_of_easy signedInFiler_easy le_rfl).between hstart).mono fun l₁ _ h₁ => ?_
  refine (lockFiler_descends.between h₁).mono fun l₂ account h₂ => ?_
  refine ((descends_of_easy (findCreated_easy key) le_rfl).between h₂).mono fun l₃ existing h₃ => ?_
  cases existing with
  | some file => trivial
  | none =>
    simp only [obeys_bind]
    refine (h₃.savepoint (by simp) fun locks hready _ => (insertFiling_descends _ _ _).run locks hready).mono
      fun l₄ made h₄ => ?_
    cases made with
    | ok file => trivial
    | error e =>
      refine obeys_ite.2 ⟨fun _ => ?_, fun _ => trivial⟩
      simp only [obeys_bind, obeys_expect, obeys_pure]
      exact ((descends_of_easy (findCreated_easy key) le_rfl).between h₄).mono fun _ _ _ _ _ => trivial

/-! ## Reviews -/

theorem verifyReview_easy (action : ReviewAction) (count : Nat) : (verifyReview filingId action count).Asks Easy := by
  unfold verifyReview reviewFingerprints reviewOrder
  repeat' with_reducible first | refine Asks.bind ?_ fun _ => ?_ | refine Asks.ite ?_ ?_ | split | dsimp only
  all_goals simp

theorem acceptFiling_easy (cms : Cms) (file : FilingFile) (case : Option CaseFile) (reason : Option String)
    (ordered : Bool) : (acceptFiling cfg cms filingId file case userId reason ordered).Asks Easy := by
  unfold acceptFiling assessReviewDate acceptanceCase openCase
  repeat' with_reducible first | refine Asks.bind ?_ fun _ => ?_ | refine Asks.ite ?_ ?_ | split | dsimp only
  all_goals simp

theorem declineFiling_easy (file : FilingFile) (status : FilingStatus) (event : EventType) (reason : Option String) :
    (declineFiling cfg filingId file userId status event reason).Asks Easy := by
  unfold declineFiling
  repeat' with_reducible first | refine Asks.bind ?_ fun _ => ?_ | refine Asks.ite ?_ ?_ | split | dsimp only
  all_goals simp

theorem recordReview_obeys (cms : Cms) (action : ReviewAction) (reason : Option String) (count : Nat)
    (evidence : ReviewEvidence) {locks : Set (Mode × Row)}
    (hask : MayAsk (lockTurn home) locks .update (.envelope filingId))
    (hready : Ready (lockTurn home) (insert (.update, .envelope filingId) locks) (rank 4 0)) :
    Obeys (portalOrder home).rules.straight locks (recordReview cfg cms filingId userId action reason count evidence)
      fun locks' _ => Ready (lockTurn home) locks' (rank 4 0) ∧ locks ⊆ locks' := by
  have hrest : ∀ {p : Portal ReviewOutcome}, Descends (portalOrder home) (rank 4 0) (rank 4 0) p →
      Obeys (portalOrder home).rules.straight (insert (.update, .envelope filingId) locks) p fun locks' _ =>
        Ready (lockTurn home) locks' (rank 4 0) ∧ locks ⊆ locks' := fun h =>
    (h.run _ hready).mono fun _ _ hnext => ⟨hnext.1, (Set.subset_insert _ _).trans hnext.2⟩
  simp only [recordReview, lockFiling, obeys_bind, obeys_lock, portalOrder_locks]
  refine ⟨hask, fun row _ => hrest ?_⟩
  cases row with
  | none => exact .pure le_rfl
  | some file =>
    refine .bind (descends_of_easy (by simp) le_rfl) fun _ => .ite ?_ (.pure le_rfl)
    cases action with
    | accept =>
      refine .bind (descends_of_easy (by simp) le_rfl) fun _ => .bind (validateFilingDestination_descends _ _)
        fun case => ?_
      refine .bind (descends_of_easy (by simp) le_rfl) fun _ => descends_of_easy (acceptFiling_easy _ _ _ _ _) le_rfl
    | reject => exact descends_of_easy (declineFiling_easy _ _ _ _) le_rfl
    | return_ => exact descends_of_easy (declineFiling_easy _ _ _ _) le_rfl

theorem requireIndependentReviewer_easy (account : Account) (filing : FilingEnvelope) :
    (requireIndependentReviewer userId account filing).Asks Easy := Asks.bind (by simp) fun _ => by simp

theorem reviewFiling_descends (cms : Cms) (data : ClerkReviewRequest) :
    Descends (portalOrder home) (rank 8 0) (rank 4 0) (reviewFiling cfg cms userId filingId data) := by
  have hrecord : ∀ evidence, Descends (portalOrder home) (rank 6 0) (rank 4 0)
      (recordReview cfg cms filingId userId data.action data.stripped data.expectedSubmissionCount evidence) := by
    refine fun evidence => ⟨fun locks hready => ?_⟩
    refine recordReview_obeys cms _ _ _ _ (hready.mayAsk rfl (by simp)) ?_
    exact (hready.mono (by simp)).insert (clears_envelope (by simp))
  refine .bind (descends_of_easy (by simp) le_rfl) fun _ => .bind lockCurrentUser_descends fun account => ?_
  refine .bind (descends_of_easy getFiling_easy le_rfl) fun row => .bind (descends_of_easy (by simp) le_rfl)
    fun check => ?_
  refine .bind (descends_of_easy (requireIndependentReviewer_easy _ _) le_rfl) fun _ => ?_
  refine .bind (descends_of_easy (verifyReview_easy _ _) le_rfl) fun evidence => ?_
  refine .bind (descends_of_easy (by simp) le_rfl) fun evidence => .bind (hrecord evidence) fun outcome => ?_
  cases outcome with
  | notInReview => exact .raise
  | _ => exact .pure le_rfl

/-! ## Batches -/

theorem lockFilings_obeys {ids : List FilingId} {n : FilingId} {locks : Set (Mode × Row)}
    (hready : Ready (lockTurn home) locks (rank 6 (-n))) (hsorted : ids.Pairwise (· < ·)) (hle : ∀ id ∈ ids, n ≤ id) :
    Obeys (portalOrder home).rules.straight locks (lockFilings ids) fun locks' _ =>
      Ready (lockTurn home) locks' (rank 5 0) ∧ locks ⊆ locks' ∧ ∀ id ∈ ids, (.update, .envelope id) ∈ locks' := by
  induction ids generalizing n locks with
  | nil => exact ⟨hready.mono (by simp), subset_rfl, by simp⟩
  | cons id ids ih =>
    have hfirst : rank 6 (-id) ≤ rank 6 (-n) :=
      rank_le.2 (.inr ⟨rfl, Int.neg_le_neg (Int.ofNat_le.2 (hle id List.mem_cons_self))⟩)
    have hnext : Ready (lockTurn home) (insert (.update, .envelope id) locks) (rank 6 (-(id + 1 : Nat))) := by
      refine (hready.mono ?_).insert (clears_envelope ?_)
      · exact le_trans (rank_le.2 (.inr ⟨rfl, by omega⟩)) hfirst
      · exact rank_lt.2 (.inr ⟨rfl, by omega⟩)
    obtain ⟨hlt, hsorted⟩ := List.pairwise_cons.1 hsorted
    simp only [lockFilings, lockFiling, obeys_bind, obeys_lock, portalOrder_locks]
    refine ⟨hready.mayAsk rfl hfirst, fun row _ => (ih hnext hsorted fun id' hid' => hlt id' hid').mono ?_⟩
    rintro locks' _ ⟨hready', hmore, hall⟩
    refine ⟨hready', (Set.subset_insert _ _).trans hmore, fun id' hid' => ?_⟩
    rcases List.mem_cons.1 hid' with rfl | hid'
    · exact hmore (Set.mem_insert _ _)
    · exact hall id' hid'

theorem verifyBatch_obeys {account : Account} {items : List BatchReviewItem}
    {verified : List (BatchReviewItem × ReviewEvidence)} {result : BatchResult} {b : Rank} {l : Locks Row}
    (hl : Between (portalOrder home) b ∅ l) :
    Obeys (portalOrder home).rules.monitor l (verifyBatch userId account items verified result) fun l' r =>
      Between (portalOrder home) b ∅ l' ∧ (r.1.map Prod.fst).Sublist (verified.map Prod.fst ++ items) := by
  induction items generalizing verified result l with
  | nil => exact ⟨hl, by simp⟩
  | cons item items ih =>
    have hitem : (verifyBatchItem userId account item).Asks Easy := by
      refine getFiling_easy.bind fun row => ?_
      cases row with
      | none => simp
      | some check => exact (requireIndependentReviewer_easy _ _).bind fun _ => verifyReview_easy _ _
    have hdrop : (verified.map Prod.fst ++ items).Sublist (verified.map Prod.fst ++ item :: items) :=
      (List.Sublist.refl _).append (List.sublist_cons_self _ _)
    simp only [verifyBatch, obeys_bind]
    refine (hl.savepoint le_rfl fun locks hready _ => (descends_of_easy hitem le_rfl).run locks hready).mono fun l'
      checked h' => ?_
    rcases checked with x | (_ | evidence)
    · exact (ih h').mono fun _ _ hnext => ⟨hnext.1, hnext.2.trans hdrop⟩
    · exact (ih h').mono fun _ _ hnext => ⟨hnext.1, hnext.2.trans hdrop⟩
    · refine (ih h').mono fun _ _ hnext => ⟨hnext.1, ?_⟩
      simpa using hnext.2

theorem recordBatch_obeys (cms : Cms) {items : List (BatchReviewItem × ReviewEvidence)} {result : BatchResult}
    {has : Set (Mode × Row)} {l : Locks Row} (hl : Between (portalOrder home) (rank 4 0) has l)
    (hhas : ∀ v ∈ items, (.update, .envelope v.1.filingId) ∈ has) :
    Obeys (portalOrder home).rules.monitor l (recordBatch cfg cms userId items result) fun _ _ => True := by
  induction items generalizing result l with
  | nil => trivial
  | cons v items ih =>
    have hown := hhas v List.mem_cons_self
    have hrest : ∀ v' ∈ items, (.update, .envelope v'.1.filingId) ∈ has := fun v' hv' =>
      hhas v' (List.mem_cons_of_mem _ hv')
    simp only [recordBatch, obeys_bind]
    refine (hl.savepoint le_rfl fun locks hready hsub => ?_).mono fun l' outcome h' => ?_
    · refine recordReview_obeys cms _ _ _ _ (hready.mayAsk_again (.inl (hsub hown))) ?_
      rwa [Set.insert_eq_of_mem (hsub hown)]
    · rcases outcome with x | (_ | _ | _) <;> exact ih h' hrest

theorem sortedItems_pairwise (data : BatchReviewRequest) :
    (data.filings.mergeSort fun a b => a.filingId ≤ b.filingId).Pairwise fun a b => a.filingId < b.filingId := by
  have hle : (data.filings.mergeSort fun a b => a.filingId ≤ b.filingId).Pairwise fun a b =>
    a.filingId ≤ b.filingId := by
    have hsorted : (data.filings.mergeSort fun a b => decide (a.filingId ≤ b.filingId)).Pairwise fun a b =>
        decide (a.filingId ≤ b.filingId) = true :=
      List.pairwise_mergeSort (by simpa using fun a b c => Nat.le_trans) (by simpa using fun a b => Nat.le_total _ _) _
    simpa using hsorted
  have hne : (data.filings.mergeSort fun a b => a.filingId ≤ b.filingId).Pairwise fun a b => a.filingId ≠ b.filingId :=
    List.pairwise_map.1 (((List.mergeSort_perm _ _).map _).nodup_iff.2 data.unique)
  exact (hle.and hne).imp fun h => Nat.lt_of_le_of_ne h.1 h.2

theorem batchReviewFilings_obeys (cms : Cms) (data : BatchReviewRequest) :
    Obeys (portalOrder home).rules.monitor ⟨∅, ∅⟩ (batchReviewFilings cfg cms userId data) fun _ _ => True := by
  have hstart : Between (portalOrder home) (rank 8 0) ∅ ⟨∅, ∅⟩ := .start
  simp only [batchReviewFilings, obeys_bind]
  refine (lockCurrentUser_descends.between hstart).mono fun l₁ account h₁ => ?_
  refine (verifyBatch_obeys h₁).mono ?_
  rintro l₂ r ⟨h₂, hsub⟩
  have hsorted : (r.1.map fun v => v.1.filingId).Pairwise (· < ·) := by
    have hitems := (sortedItems_pairwise data).sublist hsub
    rw [List.pairwise_map] at hitems ⊢
    exact hitems
  have hall : Obeys (portalOrder home).rules.monitor l₂ (lockFilings (r.1.map fun v => v.1.filingId)) fun l' _ =>
      Between (portalOrder home) (rank 5 0) {x | ∃ v ∈ r.1, x = (.update, .envelope v.1.filingId)} l' ∧ True := by
    refine h₂.straight fun locks hready _ => ?_
    refine (lockFilings_obeys (n := 0) (hready.mono (by simp)) hsorted fun id _ => Nat.zero_le id).mono ?_
    rintro locks' _ ⟨hready', _, hlocked⟩
    refine ⟨hready', ?_, trivial⟩
    rintro _ ⟨v, hv, rfl⟩
    exact hlocked _ (List.mem_map_of_mem hv)
  refine hall.mono ?_
  rintro l₃ _ ⟨h₃, _⟩
  refine (recordBatch_obeys cms (h₃.mono (by simp)) fun v hv => ⟨v, hv, rfl⟩).mono fun l₄ result _ => ?_
  simp

/-! ## All requests -/

/-- The creation of an account locks the new row while it holds the administrator's, whichever id is greater. -/
def Ordered : Request → Prop
  | .createAccount _ _ => False
  | _ => True

theorem thenSaved_descends {α : Type} {p : Portal α} {b b' : Rank} (h : Descends (portalOrder home) b b' p) :
    Descends (portalOrder home) b b' (thenSaved p) := h.bind fun _ => .pure le_rfl

/-- **Every request but the creation of an account keeps the order.** -/
theorem program_obeys {r : Request} (hr : Ordered r) :
    Obeys (portalOrder home).rules.monitor ⟨∅, ∅⟩ (program cfg r) fun _ _ => True := by
  cases r with
  | createFiling userId data key => exact createFiling_obeys data key
  | updateFiling userId filingId data => exact (updateFiling_descends data).obeys
  | submitFiling userId filingId key token => exact (submitFilingRequest_descends key token).obeys
  | uploadDocument userId filingId key form file => exact (uploadDocument_descends key form file).obeys
  | removeDocument userId filingId documentId => exact (removeDocument_descends documentId).obeys
  | requestFeeReview userId filingId data => exact (requestFeeReview_descends data).obeys
  | assessFees userId filingId data => exact (assessFees_descends data).obeys
  | decideFeeWaiver userId filingId form => exact (decideFeeWaiver_descends form).obeys
  | processPayment userId data => exact (processPayment_descends data).obeys
  | recordExternalPayment userId filingId key data => exact (recordExternalPayment_descends key data).obeys
  | reverseExternalPayment userId filingId paymentId data =>
      exact (reverseExternalPayment_descends paymentId data).obeys
  | reviewFiling userId filingId data cms => exact (reviewFiling_descends cms data).obeys
  | batchReviewFilings userId data cms => exact batchReviewFilings_obeys cms data
  | recordFilingDateOrder userId filingId form => exact (recordFilingDateOrder_descends form).obeys
  | prepareCopy userId documentId title file =>
    apply Descends.obeys
    exact prepareCopy_descends documentId title file
  | publishCopy userId documentId copyId data => exact (publishCopy_descends documentId copyId data).obeys
  | withholdDocument userId documentId data => exact (withholdDocument_descends documentId data).obeys
  | cleanupNext job storageError => exact (cleanupNext_descends job storageError).obeys
  | publishIntake userId courtId data => exact (thenSaved_descends (publishIntake_descends courtId data)).obeys
  | publishCalendar userId courtId data => exact (thenSaved_descends (publishCalendar_descends courtId data)).obeys
  | changeParticipant userId caseId participantId data =>
    exact (thenSaved_descends (changeParticipant_descends caseId participantId data)).obeys
  | changePublicAccess userId caseId data => exact (thenSaved_descends (changePublicAccess_descends caseId data)).obeys
  | createAccount => exact hr.elim
  | updateAccount actorId userId data => exact (thenSaved_descends (updateAccount_descends data)).obeys
  | changeCourtRole actorId userId courtId data =>
    exact (thenSaved_descends (changeCourtRole_descends courtId data)).obeys
  | bootstrap data => exact (thenSaved_descends (bootstrap_descends data)).obeys
  | registerUser data => exact (thenSaved_descends (registerUser_descends data)).obeys
  | signIn claims => exact getProfile_obeys claims
  | storageChange key content =>
    exact (thenSaved_descends (descends_of_easy (b := rank 8 0) (asks_act.2 (easy_object _ _)) le_rfl)).obeys

/-! ## Lists of case types -/

theorem Easy.keepsLists {o : Op View} (h : Easy o) : KeepsLists o := by
  cases o with
  | write g f | act g f =>
    cases g with
    | courtCaseTypes => cases h
    | _ => trivial
  | _ => trivial

theorem keepsLists_of_easy {α : Type} {p : Portal α} (h : p.Asks Easy) : p.Asks KeepsLists :=
  h.mono fun _ => Easy.keepsLists

theorem lockUpdate_keepsLists (g : Row) : (lockUpdate g).Asks KeepsLists := asks_lock.2 trivial

theorem createAccount_keepsLists {actorId : UserId} (data : AccountChange) :
    (createAccount cfg actorId data).Asks KeepsLists := by
  have hlocks : (lockUsers actorId actorId).Asks KeepsLists := by
    rw [lockUsers, if_pos rfl]
    exact Asks.bind (lockUpdate_keepsLists _) fun row => asks_pure
  have hinsert : ∀ account, (insertUser alreadyAssigned account).Asks KeepsLists := by
    intro account
    refine Asks.bind (asks_lock.2 trivial) fun _ => .bind (keepsLists_of_easy (by simp)) fun id => ?_
    refine .bind (lockUpdate_keepsLists _) fun row => keepsLists_of_easy ?_
    repeat' with_reducible first | refine Asks.bind ?_ fun _ => ?_ | dsimp only
    all_goals simp
  refine Asks.bind (keepsLists_of_easy signedInAccount_easy) fun _ => .bind hlocks fun r => ?_
  refine Asks.bind (by simp) fun actor => .bind (by simp [requireSystemAdministrator]) fun _ => ?_
  refine Asks.bind (by simp [validateIdentity]) fun _ => .bind (keepsLists_of_easy (selectUsers_easy _))
    fun matching => ?_
  exact Asks.bind (by simp) fun _ => hinsert _

end Muefs
