import Muefs.Model.Values

/-!
# Accounts, courts and cases

* `User`, `Account` : a row of `users` with its court roles; `Account.isCourtStaff`, `Account.isCourtAdministrator`;
* `AccountEvent`, `CaseEvent` : what the audit log says of an account and of the access to a case;
* `Court`, `CaseType`, `FilingRequirement` : what a court publishes about its intake;
* `Case`, `CaseParticipant`, `CaseFile` : a case with its participants; `ServiceContact` : service instructions for one;
* `userMayReadCase`, `userHasFilingGrant`, `userMayFileOnCase` : who may read a case and file on it.
-/

namespace Muefs

/-! ## Accounts -/

/-- `UserType`. The source's `PUBLIC` is `publicUser`. -/
inductive UserType where
  | attorney
  | clerk
  | judge
  | selfRepresented
  | publicUser
  | admin
  deriving DecidableEq, Repr

inductive CourtRole where
  | filer
  | clerk
  | judge
  | admin
  deriving DecidableEq, Repr

structure User where
  email : String
  verifiedEmail : Option String := none
  firstName : String
  lastName : String
  barNumber : Option String := none
  barNumberVerified : Bool := false
  userType : UserType
  keycloakId : Option String := none
  isActive : Bool := true
  administrationVersion : Nat := 0
  deriving DecidableEq, Repr

def User.fullName (user : User) : String := user.firstName ++ " " ++ user.lastName

/-- `ACCOUNT_FIELDS` -/
structure AccountFields where
  firstName : String
  lastName : String
  email : String
  userType : UserType
  keycloakId : Option String := none
  isActive : Bool := true
  barNumber : Option String := none
  barNumberVerified : Bool := false
  deriving DecidableEq, Repr

def User.accountFields (user : User) : AccountFields where
  firstName := user.firstName
  lastName := user.lastName
  email := user.email
  userType := user.userType
  keycloakId := user.keycloakId
  isActive := user.isActive
  barNumber := user.barNumber
  barNumberVerified := user.barNumberVerified

/-- `setattr` for each of `ACCOUNT_FIELDS` -/
def User.withFields (user : User) (fields : AccountFields) : User :=
  { user with
    firstName := fields.firstName
    lastName := fields.lastName
    email := fields.email
    userType := fields.userType
    keycloakId := fields.keycloakId
    isActive := fields.isActive
    barNumber := fields.barNumber
    barNumberVerified := fields.barNumberVerified }

/-- `account_snapshot` -/
structure AccountSnapshot where
  id : UserId
  fields : AccountFields
  administrationVersion : Nat
  deriving DecidableEq, Repr

def accountSnapshot (id : UserId) (user : User) : AccountSnapshot := ⟨id, user.accountFields,
    user.administrationVersion⟩

/-- Rows of `audit_log` about an account. The actor is an administrator; a bootstrap has none. -/
inductive AccountEvent where
  /-- `identity.account_created` -/
  | created (actorId : UserId) (actorName reason : String) (after : AccountSnapshot)
  /-- `identity.account_updated` -/
  | updated (actorId : UserId) (actorName reason : String) (before after : AccountSnapshot)
  /-- `identity.role_granted` or `identity.role_revoked` -/
  | roleChanged (actorId : UserId) (actorName reason : String) (granted : Bool) (courtId : CourtId)
      (before after : List CourtRole)
  /-- `identity.bootstrap` -/
  | bootstrapped (reason : String) (after : AccountSnapshot)
  deriving DecidableEq, Repr

/-- An account: the user, the rows of `user_court_roles` and those of `audit_log` about it, which change only under the
user's row lock. -/
structure Account where
  user : User
  roles : List (CourtId × CourtRole) := []
  events : List AccountEvent := []
  deriving DecidableEq, Repr

/-- `user_is_court_staff_for_court` -/
def Account.isCourtStaff (account : Account) (court : CourtId) : Bool :=
  account.roles.any fun r => r.1 == court && (r.2 == .clerk || r.2 == .judge || r.2 == .admin)

def Account.hasRole (account : Account) (court : CourtId) (role : CourtRole) : Bool :=
  account.roles.contains (court, role)

/-- `user_has_court_administrator_assignment` -/
def Account.isCourtAdministrator (account : Account) (court : CourtId) : Bool := account.hasRole court .admin

def publicAccountRefusal : String := "Public docket accounts cannot create or manage e-filings."

/-! ## Courts -/

inductive CourtType where
  | circuit
  | district
  | probate
  | courtOfClaims
  | courtOfAppeals
  | supremeCourt
  | municipal
  deriving DecidableEq, Repr

structure Court where
  name : String
  courtType : CourtType
  isEfilingEnabled : Bool := true
  intakeVersion : Nat := 0
  intakeNotice : Option String := none
  deriving DecidableEq, Repr

structure CaseType where
  courtId : CourtId
  code : String
  filingFeeCents : Cents := 0
  isActive : Bool := true
  deriving DecidableEq, Repr

structure FilingRequirement where
  caseTypeId : Option CaseTypeId
  documentTypeCode : String
  isRequired : Bool := true
  description : String
  mcrReference : Option String := none
  deriving DecidableEq, Repr

/-! ## Cases -/

inductive ParticipantRole where
  | plaintiff
  | defendant
  | petitioner
  | respondent
  | attorneyPlaintiff
  | attorneyDefendant
  | attorney
  | guardian
  | intervenor
  deriving DecidableEq, Repr

/-- `COUNSEL_ROLES` -/
def ParticipantRole.isCounsel : ParticipantRole → Bool
  | .attorney | .attorneyPlaintiff | .attorneyDefendant => true
  | _ => false

structure CaseParticipant where
  id : ParticipantId
  userId : Option UserId
  role : ParticipantRole
  partyName : String
  attorneyBarNumber : Option String := none
  representedPartyName : Option String := none
  isActive : Bool := true
  accessEnabled : Bool := false
  reviewedAt : Option Instant := none
  deriving DecidableEq, Repr

/-- `participant_snapshot` -/
structure ParticipantSnapshot where
  id : ParticipantId
  partyName : String
  role : ParticipantRole
  userId : Option UserId
  attorneyBarNumber : Option String
  representedPartyName : Option String
  isActive : Bool
  accessEnabled : Bool
  deriving DecidableEq, Repr

def participantSnapshot (p : CaseParticipant) : ParticipantSnapshot where
  id := p.id
  partyName := p.partyName
  role := p.role
  userId := p.userId
  attorneyBarNumber := p.attorneyBarNumber
  representedPartyName := p.representedPartyName
  isActive := p.isActive
  accessEnabled := p.accessEnabled

/-- What an event says of the access to a case. -/
structure AccessSnapshot where
  isSealed : Bool
  participantVersion : Nat
  deriving DecidableEq, Repr

/-- Rows of `audit_log` about the access to a case. -/
inductive CaseEvent where
  /-- `case.participant_created`, without a record before, or `case.participant_changed` -/
  | participant (actorId : UserId) (actorName reason : String) (before : Option ParticipantSnapshot)
      (after : ParticipantSnapshot)
  /-- `case.public_access_changed` -/
  | publicAccess (actorId : UserId) (actorName caseNumber reason authorityReference : String) (confirmed : Bool)
      (before after : AccessSnapshot)
  deriving DecidableEq, Repr

structure Case where
  courtId : CourtId
  caseNumber : String
  caseTypeId : CaseTypeId
  title : String
  isSealed : Bool := false
  filedDate : Instant
  filingDate : Option Date
  filingDateVersion : Nat := 0
  participantVersion : Nat := 0
  deriving DecidableEq, Repr

inductive ServiceMethod where
  | electronic
  | mail
  | handDelivery
  deriving DecidableEq, Repr

/-- The service instructions for a participant. -/
structure ServiceContact where
  id : ContactId
  caseId : CaseId
  participantId : ParticipantId
  participantSnapshot : Option ParticipantSnapshot
  userId : Option UserId
  name : String
  method : ServiceMethod
  email : Option String
  address : Option String
  isActive : Bool := false
  authority : Option String
  version : Nat := 0
  reviewedAt : Option Instant := none
  reviewerId : Option UserId := none
  deriving DecidableEq, Repr

/-- A case with its participants and the events about its access, which change only under the case's row lock. -/
structure CaseFile where
  row : Case
  participants : List CaseParticipant := []
  events : List CaseEvent := []
  deriving DecidableEq, Repr

/-! ## Access -/

/-- The participant's bar number is the verified one of this attorney. -/
def counselMatches (user : User) (p : CaseParticipant) : Bool :=
  user.userType == .attorney && user.barNumber.any (· ≠ "") && user.barNumberVerified
    && p.attorneyBarNumber == user.barNumber

/-- `case_visibility_filter` for a signed-in user, and `user_may_read_case` -/
def userMayReadCase (userId : UserId) (account : Account) (case : CaseFile) : Bool :=
  account.user.isActive &&
    (account.user.userType == .admin || !case.row.isSealed ||
      (case.participants.any fun p => p.userId == some userId && p.isActive && p.accessEnabled
        && (!p.role.isCounsel || counselMatches account.user p)) ||
      account.isCourtStaff case.row.courtId)

/-- The participation that lets an account file: active, with access, reviewed by the court, and for a counsel role with
the matching verified bar number. -/
def grantsFiling (userId : UserId) (user : User) (p : CaseParticipant) : Bool :=
  p.userId == some userId && p.isActive && p.accessEnabled && p.reviewedAt.isSome
    && (!p.role.isCounsel || counselMatches user p)

/-- `user_has_filing_grant` -/
def userHasFilingGrant (userId : UserId) (user : User) (case : CaseFile) : Bool :=
  user.isActive && user.userType != .publicUser && case.participants.any (grantsFiling userId user)

/-- `user_may_file_on_case` -/
def userMayFileOnCase (userId : UserId) (account : Account) (case : CaseFile) : Bool :=
  userHasFilingGrant userId account.user case && userMayReadCase userId account case

end Muefs
