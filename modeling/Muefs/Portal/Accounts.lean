import Muefs.Model.Store

/-!
# Accounts

* `selectUsers` : a query over the accounts; `insertUser`, `updateUser` : a new row or a changed one, with its entries
  in the unique indexes;
* `createAccount`, `updateAccount`, `changeCourtRole` : what administrators do; `bootstrap` : the first administrator;
* `registerUser` : an account that a person opens; `resolveUser` : a sign-in, which may open an account or link one.
-/

namespace Muefs
open RowLocks

/-! ## The table -/

/-- The rows among `ids` that satisfy the condition, each read on its own. -/
def readUsers (p : UserId → User → Bool) : List UserId → Portal (List (UserId × Account))
  | [] => return []
  | id :: ids => do
    let row ← look (.user id)
    let rest ← readUsers p ids
    return match row with
      | some account => if p id account.user then (id, account) :: rest else rest
      | none => rest

/-- `select(User).where(...)` -/
def selectUsers (p : UserId → User → Bool) : Portal (List (UserId × Account)) := do
  let ids ← look .userIds
  readUsers p ids

/-- The account takes entries of the unique indexes, which must be free. -/
def takeKeys (id : UserId) (taken : Failure) : List AccountKey → Portal Unit
  | [] => return ()
  | key :: keys => do
    let owner ← lockUpdate (.accountKey key)
    require (owner = none) taken
    write (.accountKey key) fun _ => some id
    takeKeys id taken keys

/-- The account gives up entries of the unique indexes. -/
def dropKeys : List AccountKey → Portal Unit
  | [] => return ()
  | key :: keys => do
    let _ ← lockUpdate (.accountKey key)
    write (.accountKey key) fun _ => none
    dropKeys keys

/-- `insert into users`; `taken` is what a duplicate comes to. -/
def insertUser (taken : Failure) (account : UserId → Account) : Portal UserId := do
  let _ ← lockShare .usersTable
  let id ← newId
  let row ← lockUpdate (.user id)
  require (row = none) (.integrity "users_pkey")
  takeKeys id taken (account id).user.keys
  write (.user id) fun _ => some (account id)
  write .userIds fun ids => ids ++ [id]
  return id

/-- `update users`, for a row that is locked -/
def updateUser (taken : Failure) (id : UserId) (before after : Account) : Portal Unit := do
  let _ ← lockShare .usersTable
  takeKeys id taken (after.user.keys.filter (· ∉ before.user.keys))
  dropKeys (before.user.keys.filter (· ∉ after.user.keys))
  write (.user id) fun _ => some after

/-! ## Administrators -/

/-- `get_current_user`: outside a demonstration an account signs in by its identity. -/
def signedInAccount (cfg : Settings) (userId : UserId) : Portal Account := do
  let account ← getCurrentUser userId
  require (cfg.allowDemoMode = true ∨ account.user.keycloakId.isSome = true) (.http 401 "Authentication required")
  return account

/-- `require_court_administrator` -/
def requireCourtAdministrator (account : Account) (courtId : CourtId) : Portal Unit := do
  require (account.user.isActive = true) (.http 403 "Account disabled")
  require (account.user.userType = .admin ∨ account.isCourtAdministrator courtId = true)
    (.http 403 "Administrator assignment for this court required")
  let court ← look (.court courtId)
  require (court.isSome = true) (.http 404 "Court not found")

/-- `require_system_administrator` -/
def requireSystemAdministrator (account : Account) : Portal Unit :=
  require (account.user.isActive = true ∧ account.user.userType = .admin)
    (.http 403 "System administrator access required")

/-- `_lock_users`: both rows in the order of their ids. -/
def lockUsers (actorId userId : UserId) : Portal (Option Account × Option Account) :=
  if actorId = userId then do
    let row ← lockUpdate (.user actorId)
    return (row, row)
  else if actorId < userId then do
    let actor ← lockUpdate (.user actorId)
    let user ← lockUpdate (.user userId)
    return (actor, user)
  else do
    let user ← lockUpdate (.user userId)
    let actor ← lockUpdate (.user actorId)
    return (actor, user)

/-- What `_administration_transaction` makes of a unique index that refuses. -/
def alreadyAssigned : Failure :=
  .http 409 "This email address, identity subject or court grant is already assigned"

/-- `AccountChange` -/
structure AccountChange extends AccountFields where
  reason : String
  verified : barNumberVerified = true → barNumber.isSome = true ∧ userType = .attorney

/-- The fields after `normalize_email`. -/
def AccountChange.fields (cfg : Settings) (data : AccountChange) : AccountFields :=
  { data.toAccountFields with email := cfg.lower data.email }

/-- `AccountUpdate` -/
structure AccountUpdate extends AccountChange where
  expectedVersion : Nat

/-- `User(**fields)` -/
def AccountFields.newUser (fields : AccountFields) : User where
  email := fields.email
  firstName := fields.firstName
  lastName := fields.lastName
  barNumber := fields.barNumber
  barNumberVerified := fields.barNumberVerified
  userType := fields.userType
  keycloakId := fields.keycloakId
  isActive := fields.isActive

/-- `_validate_identity` -/
def validateIdentity (cfg : Settings) (fields : AccountFields) : Portal Unit :=
  require (fields.isActive = false ∨ fields.keycloakId.isSome = true ∨ cfg.allowDemoMode = true)
    (.http 422 "An active account requires its identity provider subject")

/-- `create_account` -/
def createAccount (cfg : Settings) (actorId : UserId) (data : AccountChange) : Portal UserId := do
  let _ ← signedInAccount cfg actorId
  let (actorRow, _) ← lockUsers actorId actorId
  let actor ← expect actorRow (.value "KeyError")
  requireSystemAdministrator actor
  let fields := data.fields cfg
  validateIdentity cfg fields
  let matching ← selectUsers fun _ user => cfg.lowerSql user.email == fields.email
  require (matching = []) (.http 409 "An account already uses this email address")
  insertUser alreadyAssigned fun id => {
    user := fields.newUser
    events := [.created actorId actor.user.fullName data.reason (accountSnapshot id fields.newUser)] }

/-- The account after an edit, with its event. -/
def Account.edited (account : Account) (id actorId : UserId) (actorName reason : String) (fields : AccountFields)
    (version : Nat) : Account :=
  let user := account.user
  let keepsEmail := user.email == fields.email && user.keycloakId == fields.keycloakId && fields.isActive
  let changed := { user.withFields fields with
    verifiedEmail := if keepsEmail then user.verifiedEmail else none
    administrationVersion := version }
  { account with
    user := changed
    events := account.events ++
      [.updated actorId actorName reason (accountSnapshot id user) (accountSnapshot id changed)] }

/-- `update_account` -/
def updateAccount (cfg : Settings) (actorId userId : UserId) (data : AccountUpdate) : Portal Unit := do
  let _ ← signedInAccount cfg actorId
  let (actorRow, userRow) ← lockUsers actorId userId
  let actor ← expect actorRow (.value "KeyError")
  requireSystemAdministrator actor
  let account ← expect userRow (.http 404 "Account not found")
  let user := account.user
  require (user.administrationVersion = data.expectedVersion)
    (.http 409 "This account changed. Refresh it before saving")
  let fields := data.fields cfg
  validateIdentity cfg fields
  require (actorId ≠ userId ∨ (fields.userType = user.userType ∧ fields.isActive = true ∧
      fields.keycloakId = user.keycloakId))
    (.http 409 "Another system administrator must change your own access")
  let matching ← selectUsers fun id user => cfg.lowerSql user.email == fields.email && id != userId
  require (matching = []) (.http 409 "An account already uses this email address")
  require ((fields.userType = user.userType ∧ fields.keycloakId = user.keycloakId) ∨
      account.roles.all (fun r => r.2 == .filer) = true)
    (.http 409 ("Revoke this account's court staff roles before changing its type " ++
      "or identity provider binding"))
  if fields = user.accountFields then return ()
  else
    updateUser alreadyAssigned userId account
      (account.edited userId actorId actor.user.fullName data.reason fields (data.expectedVersion + 1))

/-- `CourtRoleChange` -/
structure CourtRoleChange where
  role : CourtRole
  grant : Bool
  reason : String
  expectedVersion : Nat
  staffRole : role ≠ .filer

/-- The account's roles in a court, in the order of the enumeration. -/
def Account.courtRoles (account : Account) (courtId : CourtId) : List CourtRole :=
  [.filer, .clerk, .judge, .admin].filter (account.hasRole courtId)

/-- `sorted`, by the values of the roles -/
def sortedRoles (roles : List CourtRole) : List CourtRole :=
  [.admin, .clerk, .filer, .judge].filter fun role => roles.contains role

/-- The account after a grant or a revocation, with its event. -/
def Account.withRole (account : Account) (actorId : UserId) (actorName : String) (courtId : CourtId)
    (data : CourtRoleChange) : Account :=
  let before := account.courtRoles courtId
  { user := { account.user with administrationVersion := data.expectedVersion + 1 }
    roles := if data.grant then account.roles ++ [(courtId, data.role)]
      else account.roles.filter fun r => r != (courtId, data.role)
    events := account.events ++ [.roleChanged actorId actorName data.reason data.grant courtId before
      (if data.grant then sortedRoles (before ++ [data.role]) else before.filter (· != data.role))] }

/-- `change_court_role` -/
def changeCourtRole (cfg : Settings) (actorId userId : UserId) (courtId : CourtId) (data : CourtRoleChange) :
    Portal Unit := do
  let _ ← signedInAccount cfg actorId
  let (actorRow, userRow) ← lockUsers actorId userId
  let actor ← expect actorRow (.value "KeyError")
  requireCourtAdministrator actor courtId
  let account ← expect userRow (.http 404 "Account not found")
  let user := account.user
  require (actorId ≠ userId) (.http 409 "Another administrator must change your own court access")
  require (user.administrationVersion = data.expectedVersion)
    (.http 409 "This account changed. Refresh it before changing its court access")
  require (actor.user.userType = .admin ∨ (data.role ≠ .admin ∧ user.userType ≠ .admin))
    (.http 403 "Only system administrators can change administrator access")
  require (data.grant = false ∨ (user.isActive = true ∧
      (user.userType = .clerk ∨ user.userType = .judge ∨ user.userType = .admin)))
    (.http 422 "Grant court access only to active staff accounts that are set up")
  require (data.grant = false ∨ user.keycloakId.isSome = true ∨ cfg.allowDemoMode = true)
    (.http 422 "Bind this staff account to its identity provider subject first")
  require (data.grant = false ∨ data.role ≠ .judge ∨ user.userType = .judge)
    (.http 422 "Judicial access requires a judge account that is set up")
  if account.hasRole courtId data.role = data.grant then return ()
  else updateUser alreadyAssigned userId account (account.withRole actorId actor.user.fullName courtId data)

/-- `bootstrap`, by a database operator under a lock of the whole table -/
def bootstrap (cfg : Settings) (data : AccountChange) : Portal UserId := do
  let fields := data.fields cfg
  require (fields.keycloakId.isSome = true ∧ fields.userType = .admin ∧ fields.isActive = true)
    (.value "Bootstrap requires an active administrator and an identity subject")
  require (cfg.demoIsolatedSessions = false)
    (.value "Bootstrap operates on the shared database, not isolated demo sessions")
  let _ ← lockUpdate .usersTable
  let bound ← selectUsers fun _ user => user.userType == .admin && user.isActive && user.keycloakId.isSome
  require (bound = []) (.value "A bound administrator already exists; use administration in the portal")
  let used ← selectUsers fun _ user => cfg.lowerSql user.email == fields.email || user.keycloakId == fields.keycloakId
  require (used = []) (.value "Bootstrap requires an unused email and identity subject")
  insertUser (.integrity "users") fun id => {
    user := fields.newUser
    events := [.bootstrapped data.reason (accountSnapshot id fields.newUser)] }

/-! ## Registration and sign-in -/

/-- `UserCreate` -/
structure UserCreate where
  email : String
  firstName : String
  lastName : String
  barNumber : Option String := none
  userType : UserType := .selfRepresented

/-- `User(**data.model_dump())` -/
def UserCreate.newUser (data : UserCreate) : User where
  email := data.email
  firstName := data.firstName
  lastName := data.lastName
  barNumber := data.barNumber
  userType := data.userType

/-- `register_user` -/
def registerUser (cfg : Settings) (data : UserCreate) : Portal UserId := do
  require (cfg.allowPublicRegistration = true)
    (.http 403 "Self-registration is disabled. Sign in through your court identity provider.")
  let matching ← selectUsers fun _ user => cfg.lowerSql user.email == cfg.lower data.email
  require (matching = []) (.http 409 "User with this email already exists")
  require (data.userType = .attorney ∨ data.userType = .selfRepresented ∨ data.userType = .publicUser)
    (.http 403 "Cannot self-register with this user type")
  insertUser (.integrity "ix_users_email") fun _ => { user := data.newUser }

/-- What the portal reads of a token whose signature was verified. -/
structure Claims where
  sub : String
  email : Option String := none
  /-- True, or the text "true". -/
  emailVerified : Bool := false
  givenName : Option String := none
  firstName : Option String := none
  familyName : Option String := none
  lastName : Option String := none

/-- `verified_email_from_claims` -/
def verifiedEmailFromClaims (cfg : Settings) (claims : Claims) : Option String :=
  if claims.emailVerified then claims.email.bind fun email => (cfg.validateEmail (strip email)).map cfg.lower else none

/-- What `sync_verified_email` assigns, for the address that the account was read with. -/
def syncedEmail (cfg : Settings) (user : User) (claims : Claims) : Option String :=
  let email := verifiedEmailFromClaims cfg claims
  if email = some (cfg.lower (strip user.email)) then email else none

/-- `(claims.get(...) or claims.get(...) or "").strip() or default`, cut to the column -/
def claimedName (first second : Option String) (default : String) : String :=
  let name := strip (((first.filter (· ≠ "")).or second).getD "")
  String.ofList ((if name = "" then default else name).toList.take 100)

/-- The row of an `UPDATE` that names no more than its id, locked when it is its turn. -/
def lockUserRow (id : UserId) : Portal Account := do
  let _ ← lockShare .usersTable
  let row ← lockUpdate (.user id)
  expect row (.value "StaleDataError")

def Account.withVerified (account : Account) (email : Option String) : Account :=
  { account with user := { account.user with verifiedEmail := email } }

/-- `sync_verified_email`: the column is written when it differs from the value that was read. -/
def syncVerifiedEmail (cfg : Settings) (id : UserId) (seen : User) (claims : Claims) : Portal Unit :=
  if syncedEmail cfg seen claims = seen.verifiedEmail then return ()
  else do
    let _ ← lockUserRow id
    write (.user id) fun row => row.map (·.withVerified (syncedEmail cfg seen claims))

/-- The account after a sign-in was linked to it: the columns that differ from those that were read. -/
def Account.linked (account : Account) (cfg : Settings) (seen : User) (claims : Claims) : Account :=
  { account with user := { account.user with
    keycloakId := some claims.sub
    verifiedEmail := if syncedEmail cfg seen claims = seen.verifiedEmail then account.user.verifiedEmail
      else syncedEmail cfg seen claims } }

/-- An account that a sign-in must not be linked to. -/
def User.isPrivileged (user : User) : Bool :=
  user.userType == .admin || user.userType == .clerk || user.userType == .judge || user.barNumber.any (· ≠ "")

/-- `existing.keycloak_id = sub` on an account that was read before -/
def linkUser (cfg : Settings) (id : UserId) (existing : Account) (claims : Claims) : Portal (UserId × Account) := do
  let account ← lockUserRow id
  let linked := account.linked cfg existing.user claims
  updateUser (.integrity "users_keycloak_id_key") id account linked
  return (id, linked)

/-- `provision_user_from_oidc` -/
def provisionUserFromOidc (cfg : Settings) (claims : Claims) : Portal (Option (UserId × Account)) :=
  match verifiedEmailFromClaims cfg claims with
  | none => return none
  | some email => do
    let matching ← selectUsers fun _ user => cfg.lowerSql user.email == email
    match matching with
    | [] => do
      let user : User := {
        email
        verifiedEmail := some email
        firstName := claimedName claims.givenName claims.firstName "User"
        lastName := claimedName claims.familyName claims.lastName "Name"
        userType := .selfRepresented
        keycloakId := some claims.sub }
      let id ← insertUser (.integrity "users") fun _ => { user }
      return some (id, { user })
    | [(id, existing)] =>
      match existing.user.keycloakId with
      | some sub => return if sub = claims.sub then some (id, existing) else none
      | none => if existing.user.isPrivileged then return none else do
        let linked ← linkUser cfg id existing claims
        return some linked
    | _ => return none

/-- The account bound to the identity, or one that this sign-in opens or is linked to. -/
def identifiedUser (cfg : Settings) (claims : Claims) : Portal (Option (UserId × Account)) := do
  let bound ← selectUsers fun _ user => user.keycloakId == some claims.sub
  match bound with
  | user :: _ => return some user
  | [] => if cfg.provisionUserOnFirstOidcLogin then provisionUserFromOidc cfg claims else return none

/-- `get_current_user` for a token -/
def resolveUser (cfg : Settings) (claims : Claims) : Portal (UserId × Account) := do
  require (claims.sub ≠ "") (.http 401 "Your sign-in could not be verified")
  let found ← identifiedUser cfg claims
  let user ← expect found (.http 401 "This account is not set up for this system")
  require (user.2.user.isActive = true) (.http 403 "Account disabled")
  syncVerifiedEmail cfg user.1 user.2.user claims
  return user

/-- `GET /auth/me` -/
def getProfile (cfg : Settings) (claims : Claims) : Portal Response := do
  let user ← resolveUser cfg claims
  return .account user.1 user.2

end Muefs
