import Muefs.Portal.Accounts

/-!
# Administration

The requests that change what the filing requests check: a court's intake and calendars, the participants and the
sealing of a case.
-/

namespace Muefs
open RowLocks

/-! ## Intake and calendars -/

/-- `CourtIntakeChange`: each case type once. -/
structure CourtIntakeChange where
  expectedVersion : Nat
  isEfilingEnabled : Bool
  publicNotice : Option String
  caseTypes : List (CaseTypeId × Bool)
  unique : (caseTypes.map Prod.fst).Nodup

/-- `select(CaseType).where(court_id == ...).with_for_update()` -/
def lockCaseTypes : List CaseTypeId → Portal (List (CaseTypeId × CaseType))
  | [] => return []
  | id :: ids => do
    let row ← lockUpdate (.caseType id)
    let rest ← lockCaseTypes ids
    return match row with
      | some caseType => (id, caseType) :: rest
      | none => rest

/-- `for item in case_types: item.is_active = desired[item.id]` -/
def setActive (desired : List (CaseTypeId × Bool)) : List (CaseTypeId × CaseType) → Portal Unit
  | [] => return ()
  | (id, caseType) :: rest => do
    write (.caseType id) fun _ => some { caseType with isActive := (desired.lookup id).getD caseType.isActive }
    setActive desired rest

/-- `PUT /courts/{court_id}/intake` -/
def publishIntake (userId : UserId) (courtId : CourtId) (data : CourtIntakeChange) : Portal Unit := do
  let account ← lockCurrentUser userId
  requireCourtAdministrator account courtId
  let courtRow ← lockUpdate (.court courtId)
  let court ← expect courtRow (.http 404 "Court not found")
  require (court.intakeVersion = data.expectedVersion)
    (.http 409 "Intake changed. Reload and review settings before publishing")
  let ids ← look (.courtCaseTypes courtId)
  let caseTypes ← lockCaseTypes ids
  require (data.caseTypes.map Prod.fst ⊆ caseTypes.map Prod.fst ∧
      caseTypes.map Prod.fst ⊆ data.caseTypes.map Prod.fst)
    (.http 409 "Available case types changed. Reload intake settings")
  if court.isEfilingEnabled = data.isEfilingEnabled ∧ court.intakeNotice = data.publicNotice ∧
      ∀ t ∈ caseTypes, some t.2.isActive = data.caseTypes.lookup t.1 then
    return ()
  else do
    require ((data.isEfilingEnabled = true ∧ ∀ t ∈ data.caseTypes, t.2 = true) ∨ data.publicNotice.isSome = true)
      (.http 422 "Publish instructions for filers when closing electronic intake")
    write (.court courtId) fun _ => some { court with
      isEfilingEnabled := data.isEfilingEnabled
      intakeNotice := data.publicNotice
      intakeVersion := data.expectedVersion + 1 }
    setActive data.caseTypes caseTypes

/-- Calendars stand in the order of their ids, newest first. -/
def insertCalendar (calendar : CourtCalendar) (calendars : List CourtCalendar) : List CourtCalendar :=
  calendars.takeWhile (fun c => decide (calendar.id < c.id)) ++
    calendar :: calendars.dropWhile fun c => decide (calendar.id < c.id)

/-- `POST /courts/{court_id}/calendars` -/
def publishCalendar (userId : UserId) (courtId : CourtId) (data : CourtCalendar) : Portal Unit := do
  let account ← lockCurrentUser userId
  require (account.hasRole courtId .admin = true ∨ account.hasRole courtId .judge = true)
    (.http 403 "Court administrator or judge assignment required")
  let id ← newId
  write (.calendars courtId) fun calendars => insertCalendar { data with id } calendars

/-! ## Cases -/

/-- `require_case_staff`, on the account locked before -/
def requireCaseStaff (account : Account) (caseId : CaseId) : Portal Unit := do
  let row ← look (.case caseId)
  let case ← expect row (.http 404 "Case not found")
  require (account.user.isActive = true ∧ account.isCourtStaff case.row.courtId = true)
    (.http 403 "A staff assignment for this court is required")

/-- `ParticipantChange` -/
structure ParticipantChange where
  partyName : String
  role : ParticipantRole
  accountEmail : Option String
  attorneyBarNumber : Option String
  representedPartyName : Option String
  isActive : Bool
  accessEnabled : Bool
  expectedVersion : Nat
  reason : String
  access : accessEnabled = true → isActive = true ∧ accountEmail.isSome = true

/-- The account with the email, if the change names one. -/
def participantAccount (cfg : Settings) (data : ParticipantChange) : Portal (Option (UserId × Account)) :=
  match data.accountEmail with
  | none => return none
  | some email => do
    let matching ← selectUsers fun _ user => cfg.lowerSql user.email == cfg.lower email
    match matching with
    | [] => .raise (.http 422 "This email has no account")
    | [(id, account)] => do
      require (data.accessEnabled = false ∨ (account.user.isActive = true ∧
          (account.user.keycloakId.isSome = true ∨ cfg.allowDemoMode = true)))
        (.http 422 "Access requires an active account bound to the identity provider")
      return some (id, account)
    | _ => .raise (.http 422 "This email matches multiple accounts. Resolve their identities first")

/-- The participant with the values of a change. -/
def ParticipantChange.applied (data : ParticipantChange) (account : Option UserId) (p : CaseParticipant) :
    CaseParticipant :=
  { p with
    partyName := data.partyName
    role := data.role
    attorneyBarNumber := data.attorneyBarNumber
    representedPartyName := data.representedPartyName
    isActive := data.isActive
    accessEnabled := data.accessEnabled
    userId := account }

/-- The participant that a change names. -/
def changedParticipant (case : CaseFile) : Option ParticipantId → Portal (Option CaseParticipant)
  | none => return none
  | some id => do
    let p ← expect (case.participants.find? fun p => p.id == id) (.http 404 "Participant not found on this case")
    return some p

/-- Save the participants under the next version, with the event. -/
def saveParticipants (caseId : CaseId) (case : CaseFile) (participants : List CaseParticipant) (event : CaseEvent) :
    Portal Unit :=
  write (.case caseId) fun _ => some { case with
    row := { case.row with participantVersion := case.row.participantVersion + 1 }
    participants
    events := case.events ++ [event] }

/-- `change_participant` -/
def changeParticipant (cfg : Settings) (actorId : UserId) (caseId : CaseId) (participantId : Option ParticipantId)
    (data : ParticipantChange) : Portal Unit := do
  let actorRow ← lockUpdate (.user actorId)
  let actor ← expect actorRow (.http 403 "Account is unavailable")
  requireCaseStaff actor caseId
  let row ← lockUpdate (.case caseId)
  let case ← expect row (.http 404 "Case not found")
  require (case.row.participantVersion = data.expectedVersion)
    (.http 409 "The case access records changed. Refresh before saving")
  let participant ← changedParticipant case participantId
  let account ← participantAccount cfg data
  require (account.any (fun a => a.1 == actorId) = false ∧
      participant.any (fun p => p.userId == some actorId) = false)
    (.http 409 "Another court staff member must manage your participant record")
  require (data.accessEnabled = false ∨ data.role.isCounsel = false ∨
      account.any (fun a => a.2.user.userType == .attorney && a.2.user.barNumberVerified
        && data.attorneyBarNumber.any (· ≠ "") && data.attorneyBarNumber == a.2.user.barNumber) = true)
    (.http 422 "Counsel access requires the linked attorney's matching verified bar number")
  match participant with
  | some p =>
    if p.reviewedAt.isSome = true ∧ data.applied (account.map Prod.fst) p = p then return ()
    else do
      let time ← now
      let changed := { data.applied (account.map Prod.fst) p with reviewedAt := some time }
      saveParticipants caseId case (case.participants.map fun q => if q.id = p.id then changed else q)
        (.participant actorId actor.user.fullName data.reason (some (participantSnapshot p))
          (participantSnapshot changed))
  | none => do
    let id ← newId
    let time ← now
    let added : CaseParticipant :=
      data.applied (account.map Prod.fst) { id, userId := none, role := data.role, partyName := data.partyName }
    saveParticipants caseId case (case.participants ++ [{ added with reviewedAt := some time }])
      (.participant actorId actor.user.fullName data.reason none (participantSnapshot added))

/-- `PublicCaseAccessChange` -/
structure PublicCaseAccessChange where
  expectedVersion : Nat
  isSealed : Bool
  confirmPublicRelease : Bool
  reason : String
  authorityReference : String

/-- `PUT /cases/{case_id}/public-access` -/
def changePublicAccess (userId : UserId) (caseId : CaseId) (data : PublicCaseAccessChange) : Portal Unit := do
  let account ← lockCurrentUser userId
  requireCaseStaff account caseId
  let seen ← look (.case caseId)
  require (seen.any (fun c => c.participants.any fun p => p.userId == some userId && p.isActive) = false)
    (.http 403 "Another court reviewer must change access to your own case")
  let row ← lockUpdate (.case caseId)
  let case ← expect row (.http 404 "Case not found")
  require (case.row.participantVersion = data.expectedVersion)
    (.http 409 "Case access changed. Refresh and review before saving")
  if case.row.isSealed = data.isSealed then return ()
  else do
    require (data.isSealed = true ∨ data.confirmPublicRelease = true)
      (.http 422 "Confirm the court's instruction to restore public case access")
    let version := case.row.participantVersion
    write (.case caseId) fun _ => some { case with
      row := { case.row with isSealed := data.isSealed, participantVersion := version + 1 }
      events := case.events ++ [.publicAccess userId account.user.fullName case.row.caseNumber data.reason
        data.authorityReference data.confirmPublicRelease ⟨case.row.isSealed, version⟩ ⟨data.isSealed, version + 1⟩] }

end Muefs
