import Muefs.RowLocks.Machine
import Muefs.Model.Fees
import Muefs.Model.Notice

/-!
# The store

* `Row` : the names of rows, unique-index entries, tables and stored objects; `View` : what each holds;
* `isRow` : which of them are locked before they are written;
* `Portal` : a transaction of this system;
* `lockCurrentUser`, `requireUserMayManageEfilings`, `getFiling` : the steps that most requests begin with.

A filing's documents, transactions, payments and copies are in its envelope's entry: they are written only under the
envelope's row lock. In the same way an account holds its court roles and a case its participants, each with its part of
the audit log.
-/

namespace Muefs
open RowLocks

/-- A row of `storage_deletions`. -/
structure StorageDeletion where
  documentId : DocumentId
  envelopeId : FilingId
  fileKey : FileKey
  nextAttemptAt : Instant
  attemptCount : Nat := 0
  lastError : Option String := none
  deriving DecidableEq

/-- What a unique index on `payments` leads to. -/
structure CreditRef where
  envelopeId : FilingId
  paymentId : PaymentId
  requestSha256 : Digest ExternalPaymentFields
  deriving DecidableEq

/-- The unique columns of `users`. -/
inductive AccountKey where
  | email (text : String)
  | subject (keycloakId : String)
  deriving DecidableEq

/-- The entries of an account in the unique indexes. -/
def User.keys (user : User) : List AccountKey := .email user.email :: (user.keycloakId.map .subject).toList

/-- Names in the store. -/
inductive Row where
  | user (id : UserId)
  /-- The ids in `users`. -/
  | userIds
  /-- The lock of the table `users`. -/
  | usersTable
  | accountKey (key : AccountKey)
  | court (id : CourtId)
  | caseType (id : CaseTypeId)
  | case (id : CaseId)
  | envelope (id : FilingId)
  /-- The primary key of `filing_documents`. -/
  | document (id : DocumentId)
  /-- `uq_filing_creation_key` -/
  | creationKey (filer : UserId) (key : Uuid)
  /-- `uq_case_court_number` -/
  | caseNumber (court : CourtId) (number : String)
  /-- `uq_payment_external_request` -/
  | externalRequest (key : Uuid)
  /-- `uq_payment_external_receipt` -/
  | externalReceipt (key : ReceiptKey)
  | deletion (id : Nat)
  | notice (id : NoticeId)
  | calendars (court : CourtId)
  | requirements (court : CourtId)
  | courtCaseTypes (court : CourtId)
  | object (key : FileKey)
  deriving DecidableEq

abbrev View : Row → Type
  | .user _ => Option Account
  | .userIds => List UserId
  | .usersTable => Unit
  | .accountKey _ => Option UserId
  | .court _ => Option Court
  | .caseType _ => Option CaseType
  | .case _ => Option CaseFile
  | .envelope _ => Option FilingFile
  | .document _ => Option FilingId
  | .creationKey _ _ => Option FilingId
  | .caseNumber _ _ => Option CaseId
  | .externalRequest _ => Option CreditRef
  | .externalReceipt _ => Option CreditRef
  | .deletion _ => Option StorageDeletion
  | .notice _ => Option Notice
  | .calendars _ => List CourtCalendar
  | .requirements _ => List FilingRequirement
  | .courtCaseTypes _ => List CaseTypeId
  | .object _ => Option Content

instance View.decEq : (g : Row) → DecidableEq (View g)
  | .user _ => inferInstanceAs (DecidableEq (Option Account))
  | .userIds => inferInstanceAs (DecidableEq (List UserId))
  | .usersTable => inferInstanceAs (DecidableEq Unit)
  | .accountKey _ => inferInstanceAs (DecidableEq (Option UserId))
  | .court _ => inferInstanceAs (DecidableEq (Option Court))
  | .caseType _ => inferInstanceAs (DecidableEq (Option CaseType))
  | .case _ => inferInstanceAs (DecidableEq (Option CaseFile))
  | .envelope _ => inferInstanceAs (DecidableEq (Option FilingFile))
  | .document _ => inferInstanceAs (DecidableEq (Option FilingId))
  | .creationKey _ _ => inferInstanceAs (DecidableEq (Option FilingId))
  | .caseNumber _ _ => inferInstanceAs (DecidableEq (Option CaseId))
  | .externalRequest _ | .externalReceipt _ => inferInstanceAs (DecidableEq (Option CreditRef))
  | .deletion _ => inferInstanceAs (DecidableEq (Option StorageDeletion))
  | .notice _ => inferInstanceAs (DecidableEq (Option Notice))
  | .calendars _ => inferInstanceAs (DecidableEq (List CourtCalendar))
  | .requirements _ => inferInstanceAs (DecidableEq (List FilingRequirement))
  | .courtCaseTypes _ => inferInstanceAs (DecidableEq (List CaseTypeId))
  | .object _ => inferInstanceAs (DecidableEq (Option Content))

/-- Rows and index entries; the rest is read without a lock and written without one. -/
def isRow : Row → Bool
  | .userIds | .calendars _ | .requirements _ | .courtCaseTypes _ | .object _ => false
  | _ => true

abbrev Store := Db View

abbrev Portal (α : Type) := Txn View Failure α

/-- What a request answers. -/
inductive Response where
  | filing (file : FilingFile)
  | creationConflict (filing : FilingId)
  | document (doc : DocumentResponse)
  | removed
  | fees (state : FilingFeeState)
  | payment (payment : Payment)
  | cmsFailed (detail : String)
  | batch (succeeded failed : List FilingId) (errors : List (FilingId × String))
  | transaction (id : TransactionId)
  | copy (copy : DocumentPublicCopy)
  | publication (copy : Option CopyId)
  | cleanup (result : Option Bool)
  | account (id : UserId) (account : Account)
  | saved

/-! ## Operations -/

/-- `select` -/
abbrev look (g : Row) : Portal (View g) := Txn.look g

/-- `with_for_update(read=True)` -/
abbrev lockShare (g : Row) : Portal (View g) := Txn.lock .share g

/-- `with_for_update()`; also what an insert does to the entry of a unique index -/
abbrev lockUpdate (g : Row) : Portal (View g) := Txn.lock .update g

/-- `insert`, `update` or `delete` -/
abbrev write (g : Row) (f : View g → View g) : Portal Unit := Txn.write g f

abbrev act (key : FileKey) (content : Option Content) : Portal Unit := Txn.act (.object key) fun _ => content

/-- `datetime.now(UTC)` -/
abbrev now : Portal Instant := Txn.now

abbrev newId : Portal Nat := Txn.newId

abbrev require (c : Prop) [Decidable c] (e : Failure) : Portal Unit := Txn.require c e

abbrev ofExcept {α : Type} (r : Except Failure α) : Portal α := Txn.ofExcept r

abbrev expect {α : Type} (o : Option α) (e : Failure) : Portal α := Txn.expect o e

/-! ## Accounts -/

/-- `get_current_user`, where the sign-in leaves the row of the account as it is. One that changes it is a
request of its own. -/
def getCurrentUser (userId : UserId) : Portal Account := do
  let row ← look (.user userId)
  let account ← expect row (.http 401 "This account is not set up for this system")
  require (account.user.isActive = true) (.http 403 "Account disabled")
  return account

/-- `require_user_may_manage_efilings` -/
def requireUserMayManageEfilings (account : Account) : Portal Unit :=
  require (account.user.userType ≠ .publicUser) (.http 403 publicAccountRefusal)

/-- The dependency `require_user_may_manage_efilings` of an endpoint. -/
def signedInFiler (userId : UserId) : Portal Unit := do
  let account ← getCurrentUser userId
  requireUserMayManageEfilings account

/-- `lock_current_user` -/
def lockCurrentUser (userId : UserId) : Portal Account := do
  let row ← lockShare (.user userId)
  let account ← expect row (.http 403 "This account is no longer active")
  require (account.user.isActive = true) (.http 403 "This account is no longer active")
  return account

/-- `require_user_may_manage_efilings(await lock_current_user(...))` -/
def lockFiler (userId : UserId) : Portal Account := do
  let account ← lockCurrentUser userId
  requireUserMayManageEfilings account
  return account

/-! ## Filings -/

/-- `get_filing` without a lock. The envelope and its documents are two queries, so they may be of different times. -/
def getFiling (filingId : FilingId) : Portal (Option FilingFile) := do
  let envelope ← look (.envelope filingId)
  let related ← look (.envelope filingId)
  match envelope, related with
  | some file, some later => return some { later with filing := file.filing }
  | some file, none => return some { filing := file.filing }
  | none, _ => return none

/-- `get_filing(..., for_update=True)` -/
def lockFiling (filingId : FilingId) : Portal (Option FilingFile) := lockUpdate (.envelope filingId)

/-- The status with which an endpoint answers to each exception. -/
def Failure.httpStatus : Failure → Nat
  | .http status _ | .destination status _ | .submission status _ | .update status _ => status
  | .dateUnavailable _ | .document _ | .staleReview _ => 409
  | .paymentsNotConfigured _ => 503
  | .integrity _ | .value _ | .overflow _ => 500

/-- Save the filing and its rows. -/
def saveFiling (filingId : FilingId) (file : FilingFile) : Portal Unit :=
  write (.envelope filingId) fun _ => some file

/-- `_owned_filing` -/
def ownedFiling (file : Option FilingFile) (userId : UserId) (refusal : String) : Portal FilingFile := do
  let file ← expect file (.http 404 "Filing not found")
  require (file.filing.filerId = userId) (.http 403 refusal)
  return file

end Muefs
