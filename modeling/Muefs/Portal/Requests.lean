import Muefs.Portal.Administration
import Muefs.Portal.Fees
import Muefs.Portal.Publication
import Muefs.Portal.Review

/-!
# All requests

* `Request` : what can arrive, with the account that signed in (`Request.actor`); `program` : the transaction that
  serves it;
* `storageChange` : what befalls a stored object from outside the system;
* `portal` : the system of all requests over the store.
-/

namespace Muefs
open RowLocks

/-- What can arrive. -/
inductive Request where
  | createFiling (userId : UserId) (data : FilingEnvelopeCreate) (key : Uuid)
  | updateFiling (userId : UserId) (filingId : FilingId) (data : FilingEnvelopeUpdate)
  | submitFiling (userId : UserId) (filingId : FilingId) (key : Option Uuid) (token : SubmissionToken)
  | uploadDocument (userId : UserId) (filingId : FilingId) (key : Uuid) (form : UploadForm) (file : Upload)
  | removeDocument (userId : UserId) (filingId : FilingId) (documentId : DocumentId)
  | requestFeeReview (userId : UserId) (filingId : FilingId) (data : FeeReviewRequest)
  | assessFees (userId : UserId) (filingId : FilingId) (data : FeeAssessmentRequest)
  | decideFeeWaiver (userId : UserId) (filingId : FilingId) (form : WaiverForm)
  | processPayment (userId : UserId) (data : PaymentProcessRequest)
  | recordExternalPayment (userId : UserId) (filingId : FilingId) (key : Uuid) (data : ExternalPaymentRequest)
  | reverseExternalPayment (userId : UserId) (filingId : FilingId) (paymentId : PaymentId)
      (data : ExternalPaymentReversal)
  | reviewFiling (userId : UserId) (filingId : FilingId) (data : ClerkReviewRequest) (cms : Cms)
  | batchReviewFilings (userId : UserId) (data : BatchReviewRequest) (cms : Cms)
  | recordFilingDateOrder (userId : UserId) (filingId : FilingId) (form : DateOrderForm)
  | prepareCopy (userId : UserId) (documentId : DocumentId) (title : String) (file : Upload)
  | publishCopy (userId : UserId) (documentId : DocumentId) (copyId : CopyId) (data : PublicationRequest)
  | withholdDocument (userId : UserId) (documentId : DocumentId) (data : PublicationRequest)
  | cleanupNext (job : Nat) (storageError : Option String)
  | publishIntake (userId : UserId) (courtId : CourtId) (data : CourtIntakeChange)
  | publishCalendar (userId : UserId) (courtId : CourtId) (data : CourtCalendar)
  | changeParticipant (userId : UserId) (caseId : CaseId) (participantId : Option ParticipantId)
      (data : ParticipantChange)
  | changePublicAccess (userId : UserId) (caseId : CaseId) (data : PublicCaseAccessChange)
  | createAccount (actorId : UserId) (data : AccountChange)
  | updateAccount (actorId userId : UserId) (data : AccountUpdate)
  | changeCourtRole (actorId userId : UserId) (courtId : CourtId) (data : CourtRoleChange)
  | bootstrap (data : AccountChange)
  | registerUser (data : UserCreate)
  | signIn (claims : Claims)
  /-- The object store loses or changes an object, or an operator restores one. -/
  | storageChange (key : FileKey) (content : Option Content)

/-- The account that a request is served for. -/
def Request.actor : Request → Option UserId
  | .createFiling userId _ _ | .updateFiling userId _ _ | .submitFiling userId _ _ _ | .uploadDocument userId _ _ _ _
  | .removeDocument userId _ _ | .requestFeeReview userId _ _ | .assessFees userId _ _ | .decideFeeWaiver userId _ _
  | .processPayment userId _ | .recordExternalPayment userId _ _ _ | .reverseExternalPayment userId _ _ _
  | .reviewFiling userId _ _ _ | .batchReviewFilings userId _ _ | .recordFilingDateOrder userId _ _
  | .prepareCopy userId _ _ _ | .publishCopy userId _ _ _ | .withholdDocument userId _ _ | .publishIntake userId _ _
  | .publishCalendar userId _ _ | .changeParticipant userId _ _ _ | .changePublicAccess userId _ _
  | .createAccount userId _ | .updateAccount userId _ _ | .changeCourtRole userId _ _ _ => some userId
  | .cleanupNext _ _ | .bootstrap _ | .registerUser _ | .signIn _ | .storageChange _ _ => none

/-- An answer without content. -/
def thenSaved {α : Type} (p : Portal α) : Portal Response := do
  let _ ← p
  return .saved

/-- The transaction that serves a request. -/
def program (cfg : Settings) : Request → Portal Response
  | .createFiling userId data key => createFiling userId data key
  | .updateFiling userId filingId data => updateFiling userId filingId data
  | .submitFiling userId filingId key token => submitFilingRequest cfg userId filingId key token
  | .uploadDocument userId filingId key form file => uploadDocument cfg userId filingId key form file
  | .removeDocument userId filingId documentId => removeDocument userId filingId documentId
  | .requestFeeReview userId filingId data => requestFeeReview cfg userId filingId data
  | .assessFees userId filingId data => assessFees cfg userId filingId data
  | .decideFeeWaiver userId filingId form => decideFeeWaiver cfg userId filingId form
  | .processPayment userId data => processPayment cfg userId data
  | .recordExternalPayment userId filingId key data => recordExternalPayment cfg userId filingId key data
  | .reverseExternalPayment userId filingId paymentId data =>
    reverseExternalPayment cfg userId filingId paymentId data
  | .reviewFiling userId filingId data cms => reviewFiling cfg cms userId filingId data
  | .batchReviewFilings userId data cms => batchReviewFilings cfg cms userId data
  | .recordFilingDateOrder userId filingId form => recordFilingDateOrder cfg userId filingId form
  | .prepareCopy userId documentId title file => prepareCopy cfg userId documentId title file
  | .publishCopy userId documentId copyId data => publishCopy cfg userId documentId copyId data
  | .withholdDocument userId documentId data => withholdDocument cfg userId documentId data
  | .cleanupNext job storageError => cleanupNext job storageError
  | .publishIntake userId courtId data => thenSaved (publishIntake userId courtId data)
  | .publishCalendar userId courtId data => thenSaved (publishCalendar userId courtId data)
  | .changeParticipant userId caseId participantId data =>
    thenSaved (changeParticipant cfg userId caseId participantId data)
  | .changePublicAccess userId caseId data => thenSaved (changePublicAccess userId caseId data)
  | .createAccount actorId data => thenSaved (createAccount cfg actorId data)
  | .updateAccount actorId userId data => thenSaved (updateAccount cfg actorId userId data)
  | .changeCourtRole actorId userId courtId data => thenSaved (changeCourtRole cfg actorId userId courtId data)
  | .bootstrap data => thenSaved (bootstrap cfg data)
  | .registerUser data => thenSaved (registerUser cfg data)
  | .signIn claims => getProfile cfg claims
  | .storageChange key content => thenSaved (act key content)

/-- The system. -/
def portal (cfg : Settings) : System View Failure Response Request where
  program := program cfg
  row := isRow

abbrev PortalWorld := World View Failure Response Request

end Muefs
