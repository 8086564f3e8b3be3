import Muefs.Portal.Requests

/-!
# What the requests on accounts change

* `AccountInserted`, `AccountUpdated` : a new row of `users` and a changed one, with their entries in
  the unique indexes;
* `AccountStep` : every change of an account, each with what its request had read and locked;
* `createAccount_step`, `updateAccount_step`, … : the requests make these changes and no others.
-/

namespace Muefs
open RowLocks

/-! ## Rows and their entries -/

/-- A new account: its number and its keys were free. -/
structure AccountInserted (db db' : Store) (id : UserId) (account : Account) : Prop where
  new : db (.user id) = none
  free : ∀ key ∈ account.user.keys, db (.accountKey key) = none
  row : db' (.user id) = some account
  keys : ∀ key, db' (.accountKey key) = if key ∈ account.user.keys then some id else db (.accountKey key)
  listed : db' .userIds = db .userIds ++ [id]
  others : ∀ id', id' ≠ id → db' (.user id') = db (.user id')
  frame : ∀ g, (∀ id, g ≠ .user id) → (∀ key, g ≠ .accountKey key) → g ≠ .userIds → db' g = db g

/-- A changed account: it took the keys that are new and gave up the others. -/
structure AccountUpdated (db db' : Store) (id : UserId) (before after : Account) : Prop where
  found : db (.user id) = some before
  free : ∀ key ∈ after.user.keys, key ∉ before.user.keys → db (.accountKey key) = none
  row : db' (.user id) = some after
  keys : ∀ key, db' (.accountKey key) = if key ∈ after.user.keys ∧ key ∉ before.user.keys then some id
    else if key ∈ before.user.keys ∧ key ∉ after.user.keys then none else db (.accountKey key)
  others : ∀ id', id' ≠ id → db' (.user id') = db (.user id')
  frame : ∀ g, (∀ id, g ≠ .user id) → (∀ key, g ≠ .accountKey key) → db' g = db g

/-- The store with these entries of the unique indexes. -/
def setKeys (keys : List AccountKey) (owner : Option UserId) (db : Store) : Store
  | .accountKey key => if key ∈ keys then owner else db (.accountKey key)
  | g => db g

theorem setKeys_key {keys : List AccountKey} {owner : Option UserId} {db : Store} {key : AccountKey} :
    setKeys keys owner db (.accountKey key) = if key ∈ keys then owner else db (.accountKey key) := rfl

theorem setKeys_of_ne {keys : List AccountKey} {owner : Option UserId} {db : Store} {g : Row}
    (h : ∀ key, g ≠ .accountKey key) : setKeys keys owner db g = db g := by
  cases g with
  | accountKey key => exact absurd rfl (h key)
  | _ => rfl

theorem setKeys_nil (owner : Option UserId) (db : Store) : setKeys [] owner db = db := by
  funext g
  cases g <;> simp [setKeys]

theorem setKeys_cons (key : AccountKey) (keys : List AccountKey) (owner : Option UserId) (db : Store) :
    setKeys keys owner (Function.update db (.accountKey key) owner) = setKeys (key :: keys) owner db := by
  funext g
  cases g with
  | accountKey key' =>
    simp only [setKeys, List.mem_cons]
    by_cases hkey : key' = key
    · subst hkey
      simp
    · simp [hkey]
  | _ => rfl

section Programs

variable {cfg : Settings} {db : Store} {id : UserId} {e : Failure}

theorem takeKeys_meets {keys : List AccountKey} :
    Meets db (takeKeys id e keys) fun tr _ => (∀ key ∈ keys, db (.accountKey key) = none) ∧
      ∀ db₀, commit tr db₀ = setKeys keys (some id) db₀ := by
  induction keys with
  | nil =>
    simp only [takeKeys, meets_pure]
    exact ⟨by simp, fun db₀ => (setKeys_nil _ _).symm⟩
  | cons key keys ih =>
    simp only [takeKeys, meets_bind, meets_lock, meets_require, meets_write]
    intro hfree
    refine ih.mono ?_
    rintro tr _ ⟨hrest, htr⟩
    refine ⟨by simpa using ⟨hfree, hrest⟩, fun db₀ => ?_⟩
    rw [← setKeys_cons, ← htr]
    rfl

theorem dropKeys_meets {keys : List AccountKey} :
    Meets db (dropKeys keys) fun tr _ => ∀ db₀, commit tr db₀ = setKeys keys none db₀ := by
  induction keys with
  | nil =>
    simp only [dropKeys, meets_pure]
    exact fun db₀ => (setKeys_nil _ _).symm
  | cons key keys ih =>
    simp only [dropKeys, meets_bind, meets_lock, meets_write]
    refine ih.mono fun tr _ htr db₀ => ?_
    rw [← setKeys_cons, ← htr]
    rfl

theorem insertUser_meets {account : UserId → Account} :
    Meets db (insertUser e account) fun tr id => ⟨.fresh, id⟩ ∈ tr ∧
      AccountInserted db (commit tr db) id (account id) := by
  simp only [insertUser, meets_bind, meets_lock, meets_newId, meets_require, meets_write, meets_pure]
  intro id hnew
  refine takeKeys_meets.mono ?_
  rintro tr _ ⟨hfree, htr⟩
  refine ⟨by simp, ?_⟩
  have hdb : commit ([⟨.lock .share .usersTable, db .usersTable⟩] ++ ([⟨.fresh, id⟩] ++
      ([⟨.lock .update (.user id), db (.user id)⟩] ++ ([] ++
      (tr ++ ([⟨.write (.user id) fun _ => some (account id), ()⟩] ++
      ([⟨.write .userIds fun ids => ids ++ [id], ()⟩] ++ []))))))) db =
      Function.update (Function.update (setKeys (account id).user.keys (some id) db) (.user id) (some (account id)))
        .userIds (db .userIds ++ [id]) := by
    simp only [commit_append, htr]
    rfl
  rw [hdb]
  exact {
    new := hnew
    free := hfree
    row := by simp
    keys := fun key => by simp [setKeys_key]
    listed := by simp
    others := fun id' hne => by simp [hne, setKeys]
    frame := fun g huser hkey hids => by
      rw [Function.update_of_ne hids, Function.update_of_ne (huser id), setKeys_of_ne hkey] }

theorem updateUser_meets {before after : Account} (hfound : db (.user id) = some before) :
    Meets db (updateUser e id before after) fun tr _ => AccountUpdated db (commit tr db) id before after := by
  simp only [updateUser, meets_bind, meets_lock, meets_write]
  refine takeKeys_meets.mono ?_
  rintro tr₁ _ ⟨hfree, htr₁⟩
  refine dropKeys_meets.mono fun tr₂ _ htr₂ => ?_
  have hdb : commit ([⟨.lock .share .usersTable, db .usersTable⟩] ++ (tr₁ ++ (tr₂ ++
      [⟨.write (.user id) fun _ => some after, ()⟩]))) db =
      Function.update (setKeys (before.user.keys.filter (· ∉ after.user.keys)) none
        (setKeys (after.user.keys.filter (· ∉ before.user.keys)) (some id) db)) (.user id) (some after) := by
    simp only [commit_append, htr₁, htr₂]
    rfl
  rw [hdb]
  exact {
    found := hfound
    free := fun key hafter hbefore => hfree key (by simp [hafter, hbefore])
    row := by simp
    keys := fun key => by
      rw [Function.update_of_ne (by simp), setKeys_key, setKeys_key]
      by_cases hafter : key ∈ after.user.keys <;> by_cases hbefore : key ∈ before.user.keys <;>
        simp [hafter, hbefore]
    others := fun id' hne => by simp [hne, setKeys]
    frame := fun g huser hkey => by rw [Function.update_of_ne (huser id), setKeys_of_ne hkey, setKeys_of_ne hkey] }

end Programs

/-! ## What a request read -/

/-- A query over the accounts, with each row as it was when it was read. -/
structure Selected (tr : Trace) (p : UserId → User → Bool) (ids : List UserId) (found : List (UserId × Account)) :
    Prop where
  listed : ⟨.look .userIds, ids⟩ ∈ tr
  rows : ∀ id ∈ ids, ∃ row, ⟨.look (.user id), row⟩ ∈ tr ∧
    ∀ account, row = some account → p id account.user = true → (id, account) ∈ found
  found : ∀ u ∈ found, ⟨.look (.user u.1), some u.2⟩ ∈ tr ∧ p u.1 u.2.user = true

theorem Selected.mono {tr tr' : Trace} {p : UserId → User → Bool} {ids : List UserId}
    {found : List (UserId × Account)} (h : Selected tr p ids found) (htr : ∀ e ∈ tr, e ∈ tr') :
    Selected tr' p ids found where
  listed := htr _ h.listed
  rows id hid := by
    obtain ⟨row, hrow, hfound⟩ := h.rows id hid
    exact ⟨row, htr _ hrow, hfound⟩
  found u hu := ⟨htr _ (h.found u hu).1, (h.found u hu).2⟩

theorem readUsers_meets {db : Store} {p : UserId → User → Bool} {ids : List UserId} :
    Meets db (readUsers p ids) fun tr found => Quiet tr ∧
      (∀ id ∈ ids, ∃ row, ⟨.look (.user id), row⟩ ∈ tr ∧
        ∀ account, row = some account → p id account.user = true → (id, account) ∈ found) ∧
      ∀ u ∈ found, ⟨.look (.user u.1), some u.2⟩ ∈ tr ∧ p u.1 u.2.user = true := by
  induction ids with
  | nil => simp [readUsers, Writes]
  | cons id ids ih =>
    simp only [readUsers, meets_bind, meets_look, meets_pure]
    refine fun row => ih.mono ?_
    rintro tr rest ⟨hq, hrows, hfound⟩
    refine ⟨by simp [hq, Writes], ?_, ?_⟩
    · intro id' hid'
      rcases List.mem_cons.1 hid' with rfl | hid'
      · refine ⟨row, by simp, ?_⟩
        rintro account rfl hp
        simp [hp]
      · obtain ⟨row', hrow', hin⟩ := hrows id' hid'
        refine ⟨row', by simp [hrow'], fun account haccount hp => ?_⟩
        have hrest := hin account haccount hp
        cases row with
        | none => exact hrest
        | some first =>
          simp only
          split
          · exact List.mem_cons_of_mem _ hrest
          · exact hrest
    · intro u hu
      have hold : u ∈ rest → ⟨.look (.user u.1), some u.2⟩ ∈ [⟨.look (.user id), row⟩] ++ (tr ++ []) ∧
          p u.1 u.2.user = true := fun h => ⟨by simp [(hfound u h).1], (hfound u h).2⟩
      cases row with
      | none => exact hold hu
      | some first =>
        simp only at hu
        split at hu
        · next hp =>
          rcases List.mem_cons.1 hu with rfl | hu
          · exact ⟨by simp, hp⟩
          · exact hold hu
        · exact hold hu

theorem selectUsers_meets {db : Store} {p : UserId → User → Bool} :
    Meets db (selectUsers p) fun tr found => Quiet tr ∧ ∃ ids, Selected tr p ids found := by
  simp only [selectUsers, meets_bind, meets_look]
  refine fun ids => readUsers_meets.mono ?_
  rintro tr found ⟨hq, hrows, hfound⟩
  refine ⟨by simp [hq, Writes], ids, ?_⟩
  exact {
    listed := by simp
    rows := fun id hid => by
      obtain ⟨row, hrow, hin⟩ := hrows id hid
      exact ⟨row, by simp [hrow], hin⟩
    found := fun u hu => ⟨by simp [(hfound u hu).1], (hfound u hu).2⟩ }

/-- The account as the trace read it last, if the table lists no account twice. -/
def LastRead (tr : Trace) (id : UserId) (account : Account) : Prop :=
  (∀ ids, ⟨.look .userIds, ids⟩ ∈ tr → ids.Nodup) → (reads (.user id) tr).getLast? = some (some account)

theorem LastRead.after {pre tr : Trace} {id : UserId} {account : Account} (h : LastRead tr id account) :
    LastRead (pre ++ tr) id account := by
  intro hnodup
  rw [reads_append, List.getLast?_append, h fun ids hids => hnodup ids (List.mem_append_right _ hids)]
  rfl

theorem LastRead.before {tr post : Trace} {id : UserId} {account : Account} (h : LastRead tr id account)
    (hpost : reads (.user id) post = []) : LastRead (tr ++ post) id account := by
  intro hnodup
  rw [reads_append, hpost, List.append_nil]
  exact h fun ids hids => hnodup ids (List.mem_append_left _ hids)

theorem readUsers_reads {db : Store} {p : UserId → User → Bool} {ids : List UserId} :
    Meets db (readUsers p ids) fun tr found => (∀ id ∉ ids, reads (.user id) tr = []) ∧
      (ids.Nodup → ∀ u ∈ found, (reads (.user u.1) tr).getLast? = some (some u.2)) ∧ ∀ u ∈ found, u.1 ∈ ids := by
  induction ids with
  | nil => simp [readUsers, reads]
  | cons id ids ih =>
    simp only [readUsers, meets_bind, meets_look, meets_pure]
    refine fun row => ih.mono ?_
    rintro tr rest ⟨hnone, hlast, hlisted⟩
    have hreads : ∀ id', reads (Row.user id') ([⟨.look (.user id), row⟩] ++ (tr ++ [])) =
        reads (Row.user id') [⟨.look (.user id), row⟩] ++ reads (Row.user id') tr := by
      intro id'
      rw [List.append_nil, reads_append]
    have hother : ∀ id', id' ≠ id → reads (Row.user id') [(⟨.look (.user id), row⟩ : Entry View)] = [] := by
      intro id' hne
      simp [reads, Entry.read, hne.symm]
    suffices hmain : ∀ found : List (UserId × Account), (∀ u ∈ found, (u.1 = id ∧ row = some u.2) ∨ u ∈ rest) →
        (∀ id' ∉ id :: ids, reads (Row.user id') ([⟨.look (.user id), row⟩] ++ (tr ++ [])) = []) ∧
        ((id :: ids).Nodup → ∀ u ∈ found,
          (reads (Row.user u.1) ([⟨.look (.user id), row⟩] ++ (tr ++ []))).getLast? = some (some u.2)) ∧
        ∀ u ∈ found, u.1 ∈ id :: ids by
      refine hmain _ fun u hu => ?_
      cases row with
      | none => exact .inr hu
      | some account =>
        simp only at hu
        split at hu
        · rcases List.mem_cons.1 hu with rfl | hu
          · exact .inl ⟨rfl, rfl⟩
          · exact .inr hu
        · exact .inr hu
    intro found hfound
    refine ⟨fun id' hid' => ?_, fun hnodup u hu => ?_, fun u hu => ?_⟩
    · rw [hreads, hother id' (fun h => hid' (h ▸ List.mem_cons_self)), hnone id' fun h =>
        hid' (List.mem_cons_of_mem _ h)]
      rfl
    · rw [hreads]
      rcases hfound u hu with ⟨hid, hrow⟩ | hu
      · rw [hid, hnone id (List.nodup_cons.1 hnodup).1, hrow]
        simp [reads]
      · rw [List.getLast?_append, hlast (List.nodup_cons.1 hnodup).2 u hu]
        rfl
    · rcases hfound u hu with ⟨hid, _⟩ | hu
      · exact hid ▸ List.mem_cons_self
      · exact List.mem_cons_of_mem _ (hlisted u hu)

theorem selectUsers_last {db : Store} {p : UserId → User → Bool} :
    Meets db (selectUsers p) fun tr found => ∀ u ∈ found, LastRead tr u.1 u.2 := by
  simp only [selectUsers, meets_bind, meets_look]
  refine fun ids => readUsers_reads.mono ?_
  rintro tr found ⟨_, hlast, _⟩ u hu hnodup
  have hfirst : reads (.user u.1) ([⟨.look .userIds, ids⟩] : Trace) = [] := by simp [reads, Entry.read]
  rw [reads_append, hfirst, List.nil_append]
  exact hlast (hnodup ids (by simp)) u hu

/-- No account was found that satisfies the condition. -/
def NoneFound (tr : Trace) (p : UserId → User → Bool) : Prop := ∃ ids, Selected tr p ids []

/-- The account signed in, and is locked. -/
structure SignedIn (cfg : Settings) (db : Store) (tr : Trace) (actorId : UserId) (actor : Account) : Prop where
  looked : ∃ seen, ⟨.look (.user actorId), some seen⟩ ∈ tr ∧ (cfg.allowDemoMode = true ∨
    seen.user.keycloakId.isSome = true)
  stored : db (.user actorId) = some actor

/-- `require_system_administrator` -/
def User.IsSystemAdministrator (user : User) : Prop := user.isActive = true ∧ user.userType = .admin

/-- `_validate_identity` -/
def AccountFields.Valid (cfg : Settings) (fields : AccountFields) : Prop :=
  fields.isActive = false ∨ fields.keycloakId.isSome = true ∨ cfg.allowDemoMode = true

/-! ## Changes -/

/-- What `update_account` checked. -/
structure Admissible (cfg : Settings) (tr : Trace) (actorId id : UserId) (data : AccountUpdate) (account : Account) :
    Prop where
  version : account.user.administrationVersion = data.expectedVersion
  valid : (data.fields cfg).Valid cfg
  own : actorId ≠ id ∨ ((data.fields cfg).userType = account.user.userType ∧ (data.fields cfg).isActive = true ∧
    (data.fields cfg).keycloakId = account.user.keycloakId)
  unused : NoneFound tr fun id' user => cfg.lowerSql user.email == (data.fields cfg).email && id' != id
  roles : ((data.fields cfg).userType = account.user.userType ∧
    (data.fields cfg).keycloakId = account.user.keycloakId) ∨ account.roles.all (fun r => r.2 == .filer) = true
  changed : data.fields cfg ≠ account.user.accountFields

/-- What `change_court_role` checked. -/
structure Assignable (cfg : Settings) (actorId id : UserId) (courtId : CourtId) (data : CourtRoleChange)
    (actor account : Account) : Prop where
  active : actor.user.isActive = true
  administrator : actor.user.userType = .admin ∨ actor.isCourtAdministrator courtId = true
  other : actorId ≠ id
  version : account.user.administrationVersion = data.expectedVersion
  reserved : actor.user.userType = .admin ∨ (data.role ≠ .admin ∧ account.user.userType ≠ .admin)
  staff : data.grant = true → account.user.isActive = true ∧
    (account.user.userType = .clerk ∨ account.user.userType = .judge ∨ account.user.userType = .admin)
  bound : data.grant = true → account.user.keycloakId.isSome = true ∨ cfg.allowDemoMode = true
  judge : data.grant = true → data.role = .judge → account.user.userType = .judge
  changed : account.hasRole courtId data.role ≠ data.grant

/-- **Every change of an account.** -/
inductive AccountStep (cfg : Settings) (r : Request) (db db' : Store) (tr : Trace) : Prop where
  | created (actorId id : UserId) (data : AccountChange) (actor : Account) (hr : r = .createAccount actorId data)
      (hactor : SignedIn cfg db tr actorId actor) (hadmin : actor.user.IsSystemAdministrator)
      (hvalid : (data.fields cfg).Valid cfg)
      (hunused : NoneFound tr fun _ user => cfg.lowerSql user.email == (data.fields cfg).email)
      (h : AccountInserted db db' id { user := (data.fields cfg).newUser, events :=
        [.created actorId actor.user.fullName data.reason (accountSnapshot id (data.fields cfg).newUser)] })
  | edited (actorId id : UserId) (data : AccountUpdate) (actor account : Account)
      (hr : r = .updateAccount actorId id data) (hactor : SignedIn cfg db tr actorId actor)
      (hadmin : actor.user.IsSystemAdministrator) (hdata : Admissible cfg tr actorId id data account)
      (h : AccountUpdated db db' id account (account.edited id actorId actor.user.fullName data.reason (data.fields cfg)
        (data.expectedVersion + 1)))
  | roleChanged (actorId id : UserId) (courtId : CourtId) (data : CourtRoleChange) (actor account : Account)
      (hr : r = .changeCourtRole actorId id courtId data) (hactor : SignedIn cfg db tr actorId actor)
      (hdata : Assignable cfg actorId id courtId data actor account)
      (h : AccountUpdated db db' id account (account.withRole actorId actor.user.fullName courtId data))
  | bootstrapped (id : UserId) (data : AccountChange) (hr : r = .bootstrap data)
      (hbound : (data.fields cfg).keycloakId.isSome = true) (hadmin : (data.fields cfg).userType = .admin)
      (hunused : NoneFound tr fun _ user => cfg.lowerSql user.email == (data.fields cfg).email ||
        user.keycloakId == (data.fields cfg).keycloakId)
      (h : AccountInserted db db' id { user := (data.fields cfg).newUser, events := [.bootstrapped data.reason
        (accountSnapshot id (data.fields cfg).newUser)] })
  | registered (id : UserId) (data : UserCreate) (hr : r = .registerUser data)
      (hallowed : cfg.allowPublicRegistration = true)
      (htype : data.userType = .attorney ∨ data.userType = .selfRepresented ∨ data.userType = .publicUser)
      (hunused : NoneFound tr fun _ user => cfg.lowerSql user.email == cfg.lower data.email)
      (h : AccountInserted db db' id { user := data.newUser })
  | provisioned (claims : Claims) (id : UserId) (email : String) (user : User) (verified : Option String)
      (hr : r = .signIn claims) (hemail : verifiedEmailFromClaims cfg claims = some email)
      (haddress : user.email = email) (htype : user.userType = .selfRepresented)
      (hsub : user.keycloakId = some claims.sub)
      (hunused : NoneFound tr fun _ user => cfg.lowerSql user.email == email)
      (h : AccountInserted db db' id (Account.withVerified { user } verified))
  | linked (claims : Claims) (id : UserId) (existing account : Account) (verified : Option String)
      (hr : r = .signIn claims) (hseen : ⟨.look (.user id), some existing⟩ ∈ tr)
      (hunbound : existing.user.keycloakId = none) (hplain : existing.user.isPrivileged = false)
      (hlock : ⟨.lock .update (.user id), some account⟩ ∈ tr) (hlast : LastRead tr id existing)
      (h : AccountUpdated db db' id account ((account.linked cfg existing.user claims).withVerified verified))
  | synced (claims : Claims) (id : UserId) (verified : Option String) (hr : r = .signIn claims)
      (hrow : db' (.user id) = (db (.user id)).map (·.withVerified verified))
      (hframe : ∀ g, g ≠ .user id → db' g = db g)

/-- A request on accounts changes nothing, or an account. -/
def AccountChanges (cfg : Settings) (r : Request) (db : Store) (tr : Trace) : Prop :=
  Quiet tr ∨ AccountStep cfg r db (commit tr db) tr

section Requests

variable {cfg : Settings} {db : Store} {actorId userId : UserId}

theorem signedInAccount_meets :
    Meets db (signedInAccount cfg actorId) fun tr account => Quiet tr ∧ ⟨.look (.user actorId), some account⟩ ∈ tr ∧
      (cfg.allowDemoMode = true ∨ account.user.keycloakId.isSome = true) := by
  simp only [signedInAccount, getCurrentUser, meets_bind, meets_look, meets_expect, meets_require, meets_pure]
  rintro _ account rfl _ hbound
  exact ⟨by simp [Writes], by simp, hbound⟩

theorem requireCourtAdministrator_meets {account : Account} {courtId : CourtId} :
    Meets db (requireCourtAdministrator account courtId) fun tr _ => Quiet tr ∧ account.user.isActive = true ∧
      (account.user.userType = .admin ∨ account.isCourtAdministrator courtId = true) := by
  simp only [requireCourtAdministrator, meets_bind, meets_require, meets_look]
  intro hactive hadmin _ _
  exact ⟨by simp [Writes], hactive, hadmin⟩

theorem lockUsers_meets :
    Meets db (lockUsers actorId userId) fun tr rows => Quiet tr ∧ rows = (db (.user actorId), db (.user userId)) := by
  simp only [lockUsers, meets_ite, meets_bind, meets_lock, meets_pure]
  refine ⟨fun h => ?_, fun _ => ⟨fun _ => by simp [Writes], fun _ => by simp [Writes]⟩⟩
  subst h
  simp [Writes]

theorem commit_quiet {pre tr : Trace} (h : Quiet pre) (db : Store) : commit (pre ++ tr) db = commit tr db := by
  rw [commit_append, h.commit]

theorem commit_then_quiet {tr post : Trace} (h : Quiet post) (db : Store) : commit (tr ++ post) db = commit tr db := by
  rw [commit_append, h.commit]

theorem SignedIn.of_quiet {tr₁ tr₂ : Trace} {seen actor : Account} (hseen : ⟨.look (.user actorId), some seen⟩ ∈ tr₁)
    (hbound : cfg.allowDemoMode = true ∨ seen.user.keycloakId.isSome = true)
    (hactor : db (.user actorId) = some actor) :
    SignedIn cfg db (tr₁ ++ tr₂) actorId actor :=
  ⟨⟨seen, List.mem_append_left _ hseen, hbound⟩, hactor⟩

theorem createAccount_step {data : AccountChange} :
    Meets db (createAccount cfg actorId data) fun tr _ => AccountChanges cfg (.createAccount actorId data) db tr := by
  simp only [createAccount, requireSystemAdministrator, validateIdentity, meets_bind, meets_expect, meets_require]
  refine signedInAccount_meets.mono ?_
  rintro tr₁ seen ⟨h₁, hseen, hbound⟩
  refine lockUsers_meets.mono ?_
  rintro tr₂ _ ⟨h₂, rfl⟩ actor hactor hadmin hvalid
  refine selectUsers_meets.mono ?_
  rintro tr₃ matching ⟨h₃, ids, hids⟩ hnone
  subst hnone
  refine insertUser_meets.mono ?_
  rintro tr₄ id ⟨_, h₄⟩
  refine .inr ?_
  have hdb : commit (tr₁ ++ (tr₂ ++ ([] ++ ([] ++ ([] ++ (tr₃ ++ ([] ++ tr₄))))))) db = commit tr₄ db := by
    simp only [List.nil_append, commit_quiet h₁, commit_quiet h₂, commit_quiet h₃]
  refine .created actorId id data actor rfl (.of_quiet hseen hbound hactor) hadmin hvalid ⟨ids, hids.mono ?_⟩ (hdb ▸ h₄)
  exact fun e he => by simp [he]

theorem updateAccount_step {data : AccountUpdate} :
    Meets db (updateAccount cfg actorId userId data) fun tr _ =>
      AccountChanges cfg (.updateAccount actorId userId data) db tr := by
  simp only [updateAccount, requireSystemAdministrator, validateIdentity, meets_bind, meets_expect, meets_require,
    meets_ite, meets_pure]
  refine signedInAccount_meets.mono ?_
  rintro tr₁ seen ⟨h₁, hseen, hbound⟩
  refine lockUsers_meets.mono ?_
  rintro tr₂ _ ⟨h₂, rfl⟩ actor hactor hadmin account haccount hversion hvalid hown
  refine selectUsers_meets.mono ?_
  rintro tr₃ matching ⟨h₃, ids, hids⟩ hnone hroles
  refine ⟨fun _ => ?_, fun hchanged => ?_⟩
  · exact .inl (by simp [h₁, h₂, h₃])
  · subst hnone
    refine (updateUser_meets haccount).mono fun tr₄ _ h₄ => .inr ?_
    have hdb : commit (tr₁ ++ (tr₂ ++ ([] ++ ([] ++ ([] ++ ([] ++ ([] ++ ([] ++ (tr₃ ++ ([] ++ ([] ++ tr₄)))))))))))
      db =
        commit tr₄ db := by
      simp only [List.nil_append, commit_quiet h₁, commit_quiet h₂, commit_quiet h₃]
    refine .edited actorId userId data actor account rfl (.of_quiet hseen hbound hactor) hadmin ?_ (hdb ▸ h₄)
    exact ⟨hversion, hvalid, hown, ⟨ids, hids.mono fun e he => by simp [he]⟩, hroles, hchanged⟩

theorem changeCourtRole_step {courtId : CourtId} {data : CourtRoleChange} :
    Meets db (changeCourtRole cfg actorId userId courtId data) fun tr _ =>
      AccountChanges cfg (.changeCourtRole actorId userId courtId data) db tr := by
  simp only [changeCourtRole, meets_bind, meets_expect, meets_require, meets_ite, meets_pure]
  refine signedInAccount_meets.mono ?_
  rintro tr₁ seen ⟨h₁, hseen, hbound⟩
  refine lockUsers_meets.mono ?_
  rintro tr₂ _ ⟨h₂, rfl⟩ actor hactor
  refine requireCourtAdministrator_meets.mono ?_
  rintro tr₃ _ ⟨h₃, hactive, hadmin⟩
  intro account haccount hother hversion hreserved hstaff hidentity hjudge
  refine ⟨fun _ => .inl (by simp [h₁, h₂, h₃]), fun hchanged => (updateUser_meets haccount).mono fun tr₄ _ h₄ =>
    .inr ?_⟩
  have hgrant : ∀ {p : Prop}, data.grant = false ∨ p → data.grant = true → p := fun h hg =>
    h.resolve_left (by simp [hg])
  have hdb : commit (tr₁ ++ (tr₂ ++ ([] ++ (tr₃ ++ ([] ++ ([] ++ ([] ++ ([] ++ ([] ++ ([] ++ ([] ++ tr₄))))))))))) db =
      commit tr₄ db := by
    simp only [List.nil_append, commit_quiet h₁, commit_quiet h₂, commit_quiet h₃]
  refine .roleChanged actorId userId courtId data actor account rfl (.of_quiet hseen hbound hactor) ?_ (hdb ▸ h₄)
  exact {
    active := hactive
    administrator := hadmin
    other := hother
    version := hversion
    reserved := hreserved
    staff := hgrant hstaff
    bound := hgrant hidentity
    judge := fun hg hrole => (hgrant hjudge hg).resolve_left (absurd hrole)
    changed := hchanged }

theorem bootstrap_step {data : AccountChange} :
    Meets db (bootstrap cfg data) fun tr _ => AccountChanges cfg (.bootstrap data) db tr := by
  simp only [bootstrap, meets_bind, meets_require, meets_lock]
  rintro ⟨hbound, hadmin, _⟩ _
  refine selectUsers_meets.mono ?_
  rintro tr₁ _ ⟨h₁, _⟩ _
  refine selectUsers_meets.mono ?_
  rintro tr₂ used ⟨h₂, ids, hids⟩ hnone
  subst hnone
  refine insertUser_meets.mono ?_
  rintro tr₃ id ⟨_, h₃⟩
  refine .inr ?_
  have hdb : commit ([] ++ ([] ++ ([⟨.lock .update .usersTable, db .usersTable⟩] ++ (tr₁ ++ ([] ++ (tr₂ ++
      ([] ++ tr₃))))))) db = commit tr₃ db := by
    have hlock : Quiet [⟨.lock .update .usersTable, db .usersTable⟩] := by simp [Writes]
    simp only [List.nil_append, commit_quiet hlock, commit_quiet h₁, commit_quiet h₂]
  refine .bootstrapped id data rfl hbound hadmin ⟨ids, hids.mono ?_⟩ (hdb ▸ h₃)
  exact fun e he => by simp [he]

theorem registerUser_step {data : UserCreate} :
    Meets db (registerUser cfg data) fun tr _ => AccountChanges cfg (.registerUser data) db tr := by
  simp only [registerUser, meets_bind, meets_require]
  refine fun hallowed => selectUsers_meets.mono ?_
  rintro tr₁ matching ⟨h₁, ids, hids⟩ hnone htype
  subst hnone
  refine insertUser_meets.mono ?_
  rintro tr₂ id ⟨_, h₂⟩
  refine .inr ?_
  have hdb : commit ([] ++ (tr₁ ++ ([] ++ ([] ++ tr₂)))) db = commit tr₂ db := by
    simp only [List.nil_append, commit_quiet h₁]
  refine .registered id data rfl hallowed htype ⟨ids, hids.mono ?_⟩ (hdb ▸ h₂)
  exact fun e he => by simp [he]

/-- What a sign-in comes to before its address is compared. -/
inductive Resolved (cfg : Settings) (claims : Claims) (db : Store) (tr : Trace) : Option (UserId × Account) → Prop where
  | read (found : Option (UserId × Account)) (h : Quiet tr) : Resolved cfg claims db tr found
  | provisioned (id : UserId) (email : String) (user : User) (hemail : verifiedEmailFromClaims cfg claims = some email)
      (haddress : user.email = email) (htype : user.userType = .selfRepresented)
      (hsub : user.keycloakId = some claims.sub)
      (hunused : NoneFound tr fun _ user => cfg.lowerSql user.email == email)
      (h : AccountInserted db (commit tr db) id { user }) : Resolved cfg claims db tr (some (id, { user }))
  | linked (id : UserId) (existing account : Account) (hseen : ⟨.look (.user id), some existing⟩ ∈ tr)
      (hunbound : existing.user.keycloakId = none) (hplain : existing.user.isPrivileged = false)
      (hlock : ⟨.lock .update (.user id), some account⟩ ∈ tr) (hlast : LastRead tr id existing)
      (h : AccountUpdated db (commit tr db) id account (account.linked cfg existing.user claims)) :
      Resolved cfg claims db tr (some (id, account.linked cfg existing.user claims))

theorem Resolved.after {claims : Claims} {pre tr : Trace} {found : Option (UserId × Account)} (hpre : Quiet pre)
    (h : Resolved cfg claims db tr found) : Resolved cfg claims db (pre ++ tr) found := by
  cases h with
  | read _ h => exact .read _ (by simp [hpre, h])
  | provisioned id email user hemail haddress htype hsub hunused h =>
    obtain ⟨ids, hids⟩ := hunused
    refine .provisioned id email user hemail haddress htype hsub ⟨ids, hids.mono fun e he => by simp [he]⟩ ?_
    rwa [commit_quiet hpre]
  | linked id existing account hseen hunbound hplain hlock hlast h =>
    refine .linked id existing account (by simp [hseen]) hunbound hplain (by simp [hlock]) hlast.after ?_
    rwa [commit_quiet hpre]

theorem linkUser_meets {id : UserId} {existing : Account} {claims : Claims} :
    Meets db (linkUser cfg id existing claims) fun tr r => ∃ account, ⟨.lock .update (.user id), some account⟩ ∈ tr ∧
      AccountUpdated db (commit tr db) id account (account.linked cfg existing.user claims) ∧
      r = (id, account.linked cfg existing.user claims) := by
  simp only [linkUser, lockUserRow, meets_bind, meets_lock, meets_expect, meets_pure]
  intro account haccount
  refine (updateUser_meets haccount).mono fun tr _ h => ⟨account, by simp [haccount], ?_, rfl⟩
  have hlocks : Quiet [⟨.lock .share .usersTable, db .usersTable⟩, ⟨.lock .update (.user id), db (.user id)⟩] := by
    simp [Writes]
  have hdb : commit (([⟨.lock .share .usersTable, db .usersTable⟩] ++ ([⟨.lock .update (.user id), db (.user id)⟩] ++
      [])) ++ (tr ++ [])) db = commit tr db := by
    rw [List.append_nil, List.append_nil]
    exact commit_quiet hlocks db
  exact hdb ▸ h

theorem linkUser_unread {id : UserId} {existing : Account} {claims : Claims} :
    Meets db (linkUser cfg id existing claims) fun tr _ => reads (.user id) tr = [] := by
  have htake : ∀ taken keys, (takeKeys id taken keys).Asks fun o => ∀ g, o ≠ .look g := by
    intro taken keys
    induction keys with
    | nil => simp [takeKeys]
    | cons key keys ih =>
      exact Txn.Asks.bind (by simp) fun owner => .bind (by simp) fun _ => .bind (by simp) fun _ => ih
  have hdrop : ∀ keys, (dropKeys keys).Asks fun o => ∀ g, o ≠ .look g := by
    intro keys
    induction keys with
    | nil => simp [dropKeys]
    | cons key keys ih => exact Txn.Asks.bind (by simp) fun owner => .bind (by simp) fun _ => ih
  have hasks : (linkUser cfg id existing claims).Asks fun o => ∀ g, o ≠ .look g := by
    refine Txn.Asks.bind (Txn.Asks.bind (by simp) fun _ => .bind (by simp) fun row => by simp) fun account => ?_
    refine Txn.Asks.bind ?_ fun _ => by simp
    exact Txn.Asks.bind (by simp) fun _ => (htake _ _).bind fun _ => (hdrop _).bind fun _ => by simp
  refine (meets_of_asks hasks).mono fun tr _ hall => List.filterMap_eq_nil_iff.2 fun e he => ?_
  cases hread : e.read (.user id) with
  | none => rfl
  | some v =>
    rw [Entry.read_eq_some.1 hread] at he
    exact absurd rfl (hall _ he (.user id))

theorem provisionUserFromOidc_meets {claims : Claims} :
    Meets db (provisionUserFromOidc cfg claims) fun tr found => Resolved cfg claims db tr found := by
  unfold provisionUserFromOidc
  split
  · simp only [meets_pure]
    exact .read _ (by simp [Writes])
  · next email hemail =>
    rw [meets_bind]
    refine (selectUsers_meets.both selectUsers_last).mono ?_
    rintro tr₁ matching ⟨⟨h₁, ids, hids⟩, hlast⟩
    split
    · simp only [meets_bind, meets_pure]
      refine insertUser_meets.mono ?_
      rintro tr₂ id ⟨_, h₂⟩
      refine .provisioned id email _ hemail rfl rfl rfl ⟨ids, hids.mono fun e he => by simp [he]⟩ ?_
      rw [List.append_nil, commit_quiet h₁]
      exact h₂
    · next _ id existing =>
      have hseen := (hids.found (id, existing) (by simp)).1
      split
      · simp only [meets_pure]
        exact .read _ (by simp [h₁])
      · next hunbound =>
        split
        · simp only [meets_pure]
          exact .read _ (by simp [h₁])
        · next hplain =>
          simp only [meets_bind, meets_pure]
          refine (linkUser_meets.both linkUser_unread).mono ?_
          rintro tr₂ _ ⟨⟨account, hlock, h₂, rfl⟩, hunread⟩
          have hread : LastRead tr₁ id existing := hlast (id, existing) (by simp)
          refine .linked id existing account (by simp [hseen]) hunbound (by simpa using hplain) (by simp [hlock])
            (hread.before (by simpa using hunread)) ?_
          rw [List.append_nil, commit_quiet h₁]
          exact h₂
    · simp only [meets_pure]
      exact .read _ (by simp [h₁])

theorem AccountInserted.sync {db' : Store} {id : UserId} {account : Account} (h : AccountInserted db db' id account)
    (email : Option String) :
    AccountInserted db (Function.update db' (.user id) ((db' (.user id)).map (·.withVerified email))) id
      (account.withVerified email) where
  new := h.new
  free := h.free
  row := by simp [h.row]
  keys key := by
    rw [Function.update_of_ne (by simp)]
    exact h.keys key
  listed := by rw [Function.update_of_ne (by simp), h.listed]
  others id' hne := by rw [Function.update_of_ne (by simpa using hne), h.others id' hne]
  frame g huser hkey hids := by rw [Function.update_of_ne (huser id), h.frame g huser hkey hids]

theorem AccountUpdated.sync {db' : Store} {id : UserId} {before after : Account}
    (h : AccountUpdated db db' id before after)
    (email : Option String) :
    AccountUpdated db (Function.update db' (.user id) ((db' (.user id)).map (·.withVerified email))) id before
      (after.withVerified email) where
  found := h.found
  free := h.free
  row := by simp [h.row]
  keys key := by
    rw [Function.update_of_ne (by simp)]
    exact h.keys key
  others id' hne := by rw [Function.update_of_ne (by simpa using hne), h.others id' hne]
  frame g huser hkey := by rw [Function.update_of_ne (huser id), h.frame g huser hkey]

theorem syncVerifiedEmail_meets {id : UserId} {seen : User} {claims : Claims} :
    Meets db (syncVerifiedEmail cfg id seen claims) fun tr _ => reads (.user id) tr = [] ∧ (Quiet tr ∨ ∃ email, ∀ db₀,
      commit tr db₀ = Function.update db₀ (.user id) ((db₀ (.user id)).map (·.withVerified email))) := by
  simp only [syncVerifiedEmail, lockUserRow, meets_ite, meets_pure, meets_bind, meets_lock, meets_expect,
    meets_write]
  refine ⟨fun _ => ⟨rfl, .inl (by simp [Writes])⟩, fun _ account _ => ⟨?_, .inr ?_⟩⟩
  · simp [reads, Entry.read]
  · exact ⟨syncedEmail cfg seen claims, fun _ => rfl⟩

theorem Resolved.step {claims : Claims} {tr tr' : Trace} {id : UserId} {account : Account}
    (h : Resolved cfg claims db tr (some (id, account))) (hunread : reads (.user id) tr' = [])
    (h' : Quiet tr' ∨ ∃ email, ∀ db₀, commit tr' db₀ =
      Function.update db₀ (.user id) ((db₀ (.user id)).map (·.withVerified email))) :
    AccountChanges cfg (.signIn claims) db (tr ++ tr') := by
  cases h with
  | read _ hquiet =>
    rcases h' with h' | ⟨email, h'⟩
    · exact .inl (by simp [hquiet, h'])
    · refine .inr (.synced claims id email rfl ?_ fun g hg => ?_)
      · rw [commit_quiet hquiet, h', Function.update_self]
      · rw [commit_quiet hquiet, h', Function.update_of_ne hg]
  | provisioned _ email user hemail haddress htype hsub hunused hin =>
    obtain ⟨ids, hids⟩ := hunused
    have hunused' : NoneFound (tr ++ tr') fun _ user => cfg.lowerSql user.email == email :=
      ⟨ids, hids.mono fun e he => by simp [he]⟩
    rcases h' with h' | ⟨verified, h'⟩
    · refine .inr (.provisioned claims id email user user.verifiedEmail rfl hemail haddress htype hsub hunused' ?_)
      rw [commit_then_quiet h']
      exact hin
    · refine .inr (.provisioned claims id email user verified rfl hemail haddress htype hsub hunused' ?_)
      rw [commit_append, h']
      exact hin.sync verified
  | linked _ existing before hseen hunbound hplain hlock hlast hup =>
    have hseen' : ⟨.look (.user id), some existing⟩ ∈ tr ++ tr' := List.mem_append_left _ hseen
    have hlock' : ⟨.lock .update (.user id), some before⟩ ∈ tr ++ tr' := List.mem_append_left _ hlock
    rcases h' with h' | ⟨verified, h'⟩
    · refine .inr (.linked claims id existing before (before.linked cfg existing.user claims).user.verifiedEmail rfl
        hseen' hunbound hplain hlock' (hlast.before hunread) ?_)
      rw [commit_then_quiet h']
      exact hup
    · refine .inr (.linked claims id existing before verified rfl hseen' hunbound hplain hlock'
        (hlast.before hunread) ?_)
      rw [commit_append, h']
      exact hup.sync verified

theorem identifiedUser_meets {claims : Claims} :
    Meets db (identifiedUser cfg claims) fun tr found => Resolved cfg claims db tr found := by
  simp only [identifiedUser, meets_bind]
  refine selectUsers_meets.mono ?_
  rintro tr₁ bound ⟨h₁, _⟩
  split
  · exact meets_pure.2 (.read _ (by simp [h₁]))
  · simp only [meets_ite, meets_pure]
    refine ⟨fun _ => provisionUserFromOidc_meets.mono fun tr₂ found h₂ => h₂.after h₁, fun _ => ?_⟩
    exact .read _ (by simp [h₁])

theorem getProfile_step {claims : Claims} :
    Meets db (getProfile cfg claims) fun tr _ => AccountChanges cfg (.signIn claims) db tr := by
  simp only [getProfile, resolveUser, meets_bind, meets_require, meets_expect, meets_pure]
  refine fun _ => identifiedUser_meets.mono fun tr₁ found h₁ user huser _ => ?_
  subst huser
  refine syncVerifiedEmail_meets.mono ?_
  rintro tr₂ _ ⟨hunread, h₂⟩
  simpa only [List.nil_append, List.append_nil] using h₁.step hunread h₂

end Requests

end Muefs
