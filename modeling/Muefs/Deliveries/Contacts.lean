import Muefs.Deliveries.Store

/-!
# Service instructions

`saveServiceInstructions` : court staff save how a participant is served; every change is a new version, with an event.
-/

namespace Muefs
open RowLocks

/-- `ContactChange` -/
structure ContactChange where
  method : ServiceMethod
  email : Option String
  address : Option String
  isActive : Bool
  authority : String
  reason : String
  expectedVersion : Nat
  expectedParticipantVersion : Nat
  destination : if method = .electronic then email.isSome ∧ address = none else address.isSome ∧ email = none

/-- The contact with the values of a change. -/
def ContactChange.applied (cfg : Settings) (data : ContactChange) (p : CaseParticipant) (contact : ServiceContact) :
    ServiceContact :=
  { contact with
    participantSnapshot := some (participantSnapshot p)
    userId := p.userId
    name := p.partyName
    method := data.method
    email := data.email.map cfg.lower
    address := data.address
    isActive := data.isActive
    authority := some data.authority }

/-- `ServiceContact(case_id=..., participant_id=..., **values)`, with this primary key -/
def newContact (id : ContactId) (caseId : CaseId) (p : CaseParticipant) : ServiceContact where
  id := id
  caseId := caseId
  participantId := p.id
  participantSnapshot := none
  userId := none
  name := ""
  method := .electronic
  email := none
  address := none
  authority := none

/-- The contact as the reviewer saves it. -/
def ServiceContact.reviewed (contact : ServiceContact) (version : Nat) (time : Instant) (reviewerId : UserId) :
    ServiceContact :=
  { contact with version, reviewedAt := some time, reviewerId := some reviewerId }

/-- The event of a change. -/
def ContactChange.event (data : ContactChange) (actor : User) (before : Option ServiceContact)
    (after : ServiceContact) :
    ContactEvent where
  participantId := after.participantId
  actorName := actor.fullName
  reason := data.reason
  before := before.map contactSnapshot
  after := contactSnapshot after

/-- The accounts and the case that `save_service_instructions` locks, and what it asks of them. -/
def contactCase (userId : UserId) (caseId : CaseId) : Portal (Account × CaseFile) := do
  let _ ← getCurrentUser userId
  let actorRow ← lockUpdate (.user userId)
  let row ← lockUpdate (.case caseId)
  let actor ← expect actorRow (.http 403 "Account is unavailable")
  let case ← expect row (.http 404 "Case not found")
  require (actor.user.isActive = true ∧ actor.isCourtStaff case.row.courtId = true)
    (.http 403 "A staff assignment for this court is required")
  return (actor, case)

/-- `db.get(User, participant.user_id) if participant.user_id else None` -/
def participantUser (p : CaseParticipant) : Portal (Option (UserId × User)) :=
  match p.userId with
  | none => return none
  | some id => do
    let account ← look (.user id)
    return account.map fun account => (id, account.user)

/-- Save the contacts of a case with the event of the change. -/
def saveContacts (caseId : CaseId) (contacts : List ServiceContact) (event : ContactEvent) : Service Unit := do
  Service.save (.contacts caseId) fun _ => contacts
  Service.save (.contactEvents caseId) fun events => events ++ [event]

/-- `PUT /cases/{case_id}/participants/{participant_id}/service-contact`, which answers with the contact
and its version -/
def saveServiceInstructions (cfg : Settings) (userId : UserId) (caseId : CaseId) (participantId : ParticipantId)
    (data : ContactChange) : Service (ContactId × Nat) := do
  let (actor, case) ← ofPortal (contactCase userId caseId)
  let contacts ← Service.lock (.contacts caseId)
  Service.check (case.row.participantVersion = data.expectedParticipantVersion)
    (.http 409 "The participant records changed. Refresh before saving")
  let p ← Service.get (case.participants.find? fun p => p.id == participantId)
    (.http 404 "Participant not found on this case")
  let contact := contacts.find? fun c => c.participantId == participantId
  Service.check (p.userId ≠ some userId ∧ contact.all (fun c => c.userId != some userId) = true)
    (.http 409 "Another court staff member must manage your service instructions")
  Service.check (contact.all (fun c => c.caseId == caseId) = true)
    (.http 409 "This older contact belongs to another case and needs reconciliation")
  Service.check ((contact.map ServiceContact.version).getD 0 = data.expectedVersion)
    (.http 409 "The service instructions changed. Refresh before saving")
  let account ← ofPortal (participantUser p)
  let issues := routingIssues cfg case.row p account (data.applied cfg p (newContact 0 caseId p))
  Service.check (data.isActive = true → issues = []) (.http 422 (" ".intercalate issues))
  match contact with
  | some contact =>
    if data.applied cfg p contact = contact then return (contact.id, contact.version)
    else do
      let time ← Service.now
      let saved := (data.applied cfg p contact).reviewed (data.expectedVersion + 1) time userId
      saveContacts caseId (contacts.map fun c => if c.id = contact.id then saved else c)
        (data.event actor.user (some contact) saved)
      return (saved.id, saved.version)
  | none => do
    let id ← Service.newId
    let time ← Service.now
    let saved := (data.applied cfg p (newContact id caseId p)).reviewed (data.expectedVersion + 1) time userId
    saveContacts caseId (contacts ++ [saved]) (data.event actor.user none saved)
    return (saved.id, saved.version)

end Muefs
