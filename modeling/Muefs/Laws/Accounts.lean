import Muefs.Steps.AccountRuns

/-!
# Administrators and their grants

* `Governed` : the store has a system administrator who can sign in; `Run.governed_step` : every step keeps one;
* `WithinCourt` : what an actor may change who is not a system administrator;
* `GrantedSince` : the world in which an account got a grant that it has held since;
* `AccountsLaw`, `Run.accounts_kept` : the law.
-/

namespace Muefs
open RowLocks

variable {cfg : Settings} {w₀ w w' : PortalWorld}

/-! ## A system administrator -/

/-- An active system administrator, bound to an identity outside a demonstration. -/
structure User.Governs (cfg : Settings) (user : User) : Prop where
  administrator : user.IsSystemAdministrator
  bound : cfg.allowDemoMode = true ∨ user.keycloakId.isSome = true

/-- There is a system administrator who can sign in. -/
def Governed (cfg : Settings) (db : Store) : Prop :=
  ∃ id account, db (.user id) = some account ∧ account.user.Governs cfg

theorem Run.signedIn_bound (h : Run cfg w₀ w) {sid : Nat} {s : Session View Failure Response Request}
    (hs : w.sessions sid = some s) {actorId : UserId} {actor : Account}
    (hactor : SignedIn cfg w.db s.trace actorId actor) (hactive : actor.user.isActive = true) :
    cfg.allowDemoMode = true ∨ actor.user.keycloakId.isSome = true := by
  obtain ⟨⟨seen, hseen, hbound⟩, hstored⟩ := hactor
  obtain ⟨w₁, h₁, hs₁, hval⟩ := h.steps.looked_at h.start.idle hs hseen
  have hkept := Run.account_since ⟨h.start, h₁⟩ (I := fun account => cfg.allowDemoMode = true ∨
    account.user.keycloakId.isSome = true ∨ account.user.isActive = false) hval.symm (hbound.imp_right .inl) ?_ hs₁
  · obtain ⟨account, haccount, hI⟩ := hkept
    cases hstored.symm.trans haccount
    simpa [hactive] using hI
  · intro w₂ sid₂ s₂ a₂ before after _ _ _ hI hrow
    cases hrow with
    | same | roleChanged | synced => exact hI
    | edited actorId' data actor' account hr hactor' hadmin hdata =>
      rcases hdata.valid with hoff | hid | hdemo
      · exact .inr (.inr hoff)
      · exact .inr (.inl hid)
      · exact .inl hdemo
    | linked => exact .inr (.inl rfl)

theorem AccountRow.not_edited {r : Request} {db : Store} {tr : Trace} {actorId id id' : UserId} {data : AccountUpdate}
    {account : Account} {row : Option Account} (hr : r = .updateAccount actorId id data) (hne : id' ≠ id)
    (h : AccountRow cfg r db tr id' (some account) row) : row = some account := by
  subst hr
  cases h with
  | same => rfl
  | edited _ _ _ _ hr =>
    cases hr
    exact absurd rfl hne
  | roleChanged _ _ _ _ _ hr | linked _ _ _ _ hr | synced _ _ _ hr => cases hr

/-- **Every step leaves a system administrator who can sign in.** The account that an edit makes powerless is not the
actor's, and the actor is one. -/
theorem Run.governed_step (h : Run cfg w₀ w) (hs : Step (portal cfg) w w') (hg : Governed cfg w.db) :
    Governed cfg w'.db := by
  obtain ⟨id, account, haccount, hgoverns⟩ := hg
  rcases h.account_step hs id with heq | ⟨sid, s, a, hc, rfl, hrow⟩
  · exact ⟨id, account, heq.trans haccount, hgoverns⟩
  · rw [haccount] at hrow
    generalize hrow' : (w.committed sid s a).db (.user id) = row at hrow
    cases hrow with
    | same => exact ⟨id, account, hrow', hgoverns⟩
    | roleChanged | synced => exact ⟨id, _, hrow', hgoverns.administrator, hgoverns.bound⟩
    | linked => exact ⟨id, _, hrow', hgoverns.administrator, .inr rfl⟩
    | edited actorId data actor _ hr hactor hadmin hdata =>
      have hbound := h.signedIn_bound hc.found hactor hadmin.1
      by_cases hself : actorId = id
      · subst hself
        obtain ⟨htype, hactive, hidentity⟩ := hdata.own.resolve_left fun hne => hne rfl
        refine ⟨actorId, _, hrow', ⟨hactive, htype.trans hgoverns.administrator.2⟩, ?_⟩
        exact hgoverns.bound.imp_right fun hsome => (congrArg Option.isSome hidentity).trans hsome
      · refine ⟨actorId, actor, ?_, hadmin, hbound⟩
        have hother := h.account_commit hc actorId
        rw [hactor.stored] at hother
        exact hother.not_edited hr hself

/-! ## What an actor may change -/

/-- The requests of an administrator. A bootstrap is the operator's. -/
inductive Administers (actorId : UserId) : Request → Prop where
  | createAccount (data : AccountChange) : Administers actorId (.createAccount actorId data)
  | updateAccount (id : UserId) (data : AccountUpdate) : Administers actorId (.updateAccount actorId id data)
  | changeCourtRole (id : UserId) (courtId : CourtId) (data : CourtRoleChange) :
      Administers actorId (.changeCourtRole actorId id courtId data)

/-- An account after a change by an actor who is not a system administrator: it was there, with the same details; an
administrator's account and the actor's own keep their roles, and no one's grant of administration changes. -/
structure WithinCourt (actorId id : UserId) (before : Option Account) (after : Account) : Prop where
  change : ∃ account, before = some account ∧ after.user.accountFields = account.user.accountFields ∧
    after.user.verifiedEmail = account.user.verifiedEmail ∧
    (∀ courtId, after.hasRole courtId .admin = account.hasRole courtId .admin) ∧
    (id = actorId ∨ account.user.userType = .admin → after = account)

theorem WithinCourt.refl (actorId id : UserId) (account : Account) : WithinCourt actorId id (some account) account :=
  ⟨account, rfl, rfl, rfl, fun _ => rfl, fun _ => rfl⟩

theorem Account.withRole_admin {account : Account} {actorId : UserId} {actorName : String} {courtId : CourtId}
    {data : CourtRoleChange} (h : data.role ≠ .admin) (courtId' : CourtId) :
    (account.withRole actorId actorName courtId data).hasRole courtId' .admin = account.hasRole courtId' .admin := by
  rw [Bool.eq_iff_iff]
  simp only [Account.hasRole, Account.withRole, List.contains_iff_mem]
  split
  · simp [h.symm]
  · simp [List.mem_filter, h.symm]

/-- **An actor who is not a system administrator changes neither accounts, nor grants of administration, nor his own
roles, nor those of a system administrator.** -/
theorem Run.within_court (h : Run cfg w₀ w) {sid : Nat} {s : Session View Failure Response Request} {a : Response}
    (hc : Commits (portal cfg) w sid s a) {actorId : UserId} (hr : Administers actorId s.request)
    (hplain : ∀ actor, w.db (.user actorId) = some actor → ¬ actor.user.IsSystemAdministrator) {id : UserId}
    {after : Account} (hafter : (w.committed sid s a).db (.user id) = some after) :
    WithinCourt actorId id (w.db (.user id)) after := by
  rcases h.changes hc (.user id) with heq | hstep
  · rw [← show (w.committed sid s a).db (.user id) = w.db (.user id) from heq, hafter]
    exact .refl _ _ _
  · cases hstep with
    | created actorId' _ data actor hreq hactor hadmin =>
      rw [hreq] at hr
      cases hr
      exact absurd hadmin (hplain actor hactor.stored)
    | edited actorId' _ data actor account hreq hactor hadmin =>
      rw [hreq] at hr
      cases hr
      exact absurd hadmin (hplain actor hactor.stored)
    | roleChanged actorId' id' courtId data actor account hreq hactor hdata hupdated =>
      rw [hreq] at hr
      cases hr
      have htype : actor.user.userType ≠ .admin := fun h => hplain actor hactor.stored ⟨hdata.active, h⟩
      obtain ⟨hrole, haccount⟩ := hdata.reserved.resolve_left htype
      by_cases hid : id = id'
      · subst hid
        cases hafter.symm.trans hupdated.row
        refine ⟨account, hupdated.found, rfl, rfl, Account.withRole_admin hrole, ?_⟩
        rintro (hself | hadmin)
        · exact absurd hself.symm hdata.other
        · exact absurd hadmin haccount
      · rw [← hupdated.others id hid, show commit s.trace w.db (.user id) = some after from hafter]
        exact .refl _ _ _
    | bootstrapped _ _ hreq | registered _ _ hreq | provisioned _ _ _ _ _ hreq | linked _ _ _ _ _ hreq
    | synced _ _ _ hreq =>
      rw [hreq] at hr
      cases hr

/-! ## Grants -/

/-- The types of account that may have the role. -/
def CourtRole.fits : CourtRole → UserType → Bool
  | .judge, type => type == .judge
  | .clerk, type | .admin, type => type == .clerk || type == .judge || type == .admin
  | .filer, _ => true

def HasGrant (w : PortalWorld) (id : UserId) (grant : CourtId × CourtRole) : Prop :=
  ∃ account, w.db (.user id) = some account ∧ grant ∈ account.roles

/-- Steps from one world to another through worlds in which the account has the grant. -/
def HeldAlong (cfg : Settings) (id : UserId) (grant : CourtId × CourtRole) : PortalWorld → PortalWorld → Prop :=
  Relation.ReflTransGen fun w w' => Step (portal cfg) w w' ∧ HasGrant w' id grant

/-- This world is one that a change of roles comes to which makes the grant. -/
def MadeAt (cfg : Settings) (w₀ : PortalWorld) (id : UserId) (grant : CourtId × CourtRole) (w : PortalWorld) : Prop :=
  ∃ w₁ sid s a actorId data, Run cfg w₀ w₁ ∧ Commits (portal cfg) w₁ sid s a ∧ w = w₁.committed sid s a ∧
    s.request = .changeCourtRole actorId id grant.1 data ∧ data.role = grant.2 ∧ data.grant = true

def NoSignIns (w : PortalWorld) : Prop := ∀ sid s claims, w.sessions sid = some s → s.request ≠ .signIn claims

/-- The account got the grant in the world `w₁`, or had it at first, and has held it since, with the same type, and with
the same identity if no one signed in. -/
structure GrantedSince (cfg : Settings) (w₀ w : PortalWorld) (id : UserId) (grant : CourtId × CourtRole)
    (account : Account) (w₁ : PortalWorld) (account₁ : Account) : Prop where
  row : w₁.db (.user id) = some account₁
  mem : grant ∈ account₁.roles
  made : w₁ = w₀ ∨ (MadeAt cfg w₀ id grant w₁ ∧ grant.2.fits account₁.user.userType = true)
  held : HeldAlong cfg id grant w₁ w
  type : account.user.userType = account₁.user.userType
  identity : NoSignIns w → account.user.keycloakId = account₁.user.keycloakId

theorem NoSignIns.before (hs : Step (portal cfg) w w') (h : NoSignIns w') : NoSignIns w := by
  intro sid s claims hfound hr
  obtain ⟨s', hfound', hr', _⟩ := hs.session_next hfound
  exact h sid s' claims hfound' (hr'.trans hr)

theorem GrantedSince.step {id : UserId} {grant : CourtId × CourtRole} {account account' account₁ : Account}
    {w₁ : PortalWorld} (h : GrantedSince cfg w₀ w id grant account w₁ account₁) (hs : Step (portal cfg) w w')
    (hrow : w'.db (.user id) = some account') (hmem : grant ∈ account'.roles)
    (htype : account'.user.userType = account.user.userType)
    (hidentity : NoSignIns w' → account'.user.keycloakId = account.user.keycloakId) :
    GrantedSince cfg w₀ w' id grant account' w₁ account₁ where
  row := h.row
  mem := h.mem
  made := h.made
  held := h.held.tail ⟨hs, account', hrow, hmem⟩
  type := htype.trans h.type
  identity hno := (hidentity hno).trans (h.identity (hno.before hs))

theorem Assignable.fits {actorId id : UserId} {courtId : CourtId} {data : CourtRoleChange} {actor account : Account}
    (h : Assignable cfg actorId id courtId data actor account) (hgrant : data.grant = true) :
    data.role.fits account.user.userType = true := by
  obtain ⟨_, htype⟩ := h.staff hgrant
  cases hrole : data.role with
  | judge => simpa [CourtRole.fits] using h.judge hgrant hrole
  | clerk | admin => rcases htype with h | h | h <;> simp [CourtRole.fits, h]
  | filer => rfl

theorem Account.mem_withRole {account : Account} {actorId : UserId} {actorName : String} {courtId : CourtId}
    {data : CourtRoleChange} {grant : CourtId × CourtRole}
    (h : grant ∈ (account.withRole actorId actorName courtId data).roles) :
    grant ∈ account.roles ∨ (data.grant = true ∧ grant = (courtId, data.role)) := by
  simp only [Account.withRole] at h
  split at h
  · next hgrant =>
    rcases List.mem_append.1 h with h | h
    · exact .inl h
    · exact .inr ⟨hgrant, List.mem_singleton.1 h⟩
  · exact .inl (List.mem_filter.1 h).1

/-- **Every staff grant was there at first, or was made for an account that fits it, and the account has kept its type
and its identity since.** -/
theorem Run.granted_since (h : Run cfg w₀ w) {id : UserId} {account : Account} {grant : CourtId × CourtRole}
    (hrow : w.db (.user id) = some account) (hmem : grant ∈ account.roles) (hstaff : grant.2 ≠ .filer) :
    ∃ w₁ account₁, GrantedSince cfg w₀ w id grant account w₁ account₁ := by
  obtain ⟨hstart, hsteps⟩ := h
  induction hsteps generalizing account with
  | refl => exact ⟨w₀, account, hrow, hmem, .inl rfl, .refl, rfl, fun _ => rfl⟩
  | @tail w w' hsteps hs ih =>
    have hrun : Run cfg w₀ w := ⟨hstart, hsteps⟩
    rcases hrun.account_step hs id with heq | ⟨sid, s, a, hc, rfl, hchange⟩
    · obtain ⟨w₁, account₁, hsince⟩ := ih (heq ▸ hrow) hmem
      exact ⟨w₁, account₁, hsince.step hs hrow hmem rfl fun _ => rfl⟩
    · rw [hrow] at hchange
      generalize hbefore : w.db (.user id) = before at hchange
      cases hchange with
      | same =>
        obtain ⟨w₁, account₁, hsince⟩ := ih hbefore hmem
        exact ⟨w₁, account₁, hsince.step hs hrow hmem rfl fun _ => rfl⟩
      | opened _ hroles =>
        rw [hroles] at hmem
        cases hmem
      | edited actorId data actor account hr hactor hadmin hdata =>
        obtain ⟨w₁, account₁, hsince⟩ := ih hbefore hmem
        rcases hdata.roles with ⟨htype, hidentity⟩ | hfilers
        · exact ⟨w₁, account₁, hsince.step hs hrow hmem htype fun _ => hidentity⟩
        · have hfiler := List.all_eq_true.1 hfilers grant hmem
          exact absurd (by simpa using hfiler) hstaff
      | roleChanged actorId courtId data actor account hr hactor hdata =>
        by_cases hold : grant ∈ account.roles
        · obtain ⟨w₁, account₁, hsince⟩ := ih hbefore hold
          exact ⟨w₁, account₁, hsince.step hs hrow hmem rfl fun _ => rfl⟩
        · obtain ⟨hgrant, rfl⟩ := (Account.mem_withRole hmem).resolve_left hold
          have hmade : MadeAt cfg w₀ id (courtId, data.role) (w.committed sid s a) :=
            ⟨w, sid, s, a, actorId, data, hrun, hc, rfl, hr, rfl, hgrant⟩
          exact ⟨_, _, hrow, hmem, .inr ⟨hmade, hdata.fits hgrant⟩, .refl, rfl, fun _ => rfl⟩
      | linked claims existing account verified hr =>
        obtain ⟨w₁, account₁, hsince⟩ := ih hbefore hmem
        refine ⟨w₁, account₁, hsince.step hs hrow hmem rfl fun hno => absurd hr ?_⟩
        exact hno sid { s with status := .committed a } claims (by simp [World.committed, World.put])
      | synced claims account verified hr =>
        obtain ⟨w₁, account₁, hsince⟩ := ih hbefore hmem
        exact ⟨w₁, account₁, hsince.step hs hrow hmem rfl fun _ => rfl⟩

/-! ## The law -/

/-- A system administrator who can sign in remains; actors who are not one stay within their court; every staff grant is
one that fits the account, from a world since which the account has kept its type and its identity. -/
structure AccountsLaw (cfg : Settings) (w₀ w : PortalWorld) : Prop where
  governed : Governed cfg w₀.db → Governed cfg w.db
  limited : ∀ w₁ sid s a, Steps (portal cfg) w₀ w₁ → Commits (portal cfg) w₁ sid s a →
    Steps (portal cfg) (w₁.committed sid s a) w → ∀ actorId, Administers actorId s.request →
    (∀ actor, w₁.db (.user actorId) = some actor → ¬ actor.user.IsSystemAdministrator) →
    ∀ id after, (w₁.committed sid s a).db (.user id) = some after → WithinCourt actorId id (w₁.db (.user id)) after
  since : ∀ id account grant, w.db (.user id) = some account → grant ∈ account.roles → grant.2 ≠ .filer →
    ∃ w₁ account₁, GrantedSince cfg w₀ w id grant account w₁ account₁
  fitting : (∀ id account, w₀.db (.user id) = some account → ∀ grant ∈ account.roles,
      grant.2.fits account.user.userType = true) →
    ∀ id account, w.db (.user id) = some account → ∀ grant ∈ account.roles, grant.2.fits account.user.userType = true

/-- **Administrators and their grants, in every reachable state.** -/
theorem Run.accounts_kept (h : Run cfg w₀ w) : AccountsLaw cfg w₀ w where
  governed hg := by
    obtain ⟨hstart, hsteps⟩ := h
    induction hsteps with
    | refl => exact hg
    | tail hsteps hs ih => exact Run.governed_step ⟨hstart, hsteps⟩ hs ih
  limited w₁ sid s a hs₁ hc _ actorId hr hplain id after hafter :=
    Run.within_court ⟨h.start, hs₁⟩ hc hr hplain hafter
  since id account grant hrow hmem hstaff := h.granted_since hrow hmem hstaff
  fitting hfits id account hrow grant hmem := by
    by_cases hstaff : grant.2 = .filer
    · rw [hstaff]
      rfl
    · obtain ⟨w₁, account₁, hsince⟩ := h.granted_since hrow hmem hstaff
      rw [hsince.type]
      rcases hsince.made with rfl | ⟨_, hfit⟩
      · exact hfits id account₁ hsince.row grant hsince.mem
      · exact hfit

def deputyRequests : List (Instant × Request) := [
  (1000, .createAccount 3 {
    firstName := "Dee", lastName := "Deputy", email := "deputy@example.org", userType := .clerk
    reason := "Appointed", verified := by simp }),
  (2000, .changeCourtRole 3 10 1 ⟨.clerk, true, "Appointed", 0, by decide⟩)]

def deputyWorld : PortalWorld := smallWorld.serveAll (portal .demo) 0 deputyRequests

theorem deputyWorld_run : Run .demo smallWorld deputyWorld := Run.serveAll smallWorld_initial (by decide +kernel)

theorem deputyWorld_calm : deputyWorld.Calm 2 [] := World.serveAll_calm smallWorld_initial.idle.calm

/-- The deputy has her grant, and there was an administrator at first. -/
theorem deputyWorld_kept : AccountsLaw .demo smallWorld deputyWorld ∧ Governed .demo smallWorld.db ∧
    (deputyWorld.db (.user 10)).any (fun account => account.hasRole 1 .clerk) = true :=
  ⟨Run.accounts_kept deputyWorld_run, ⟨3, _, rfl, ⟨rfl, rfl⟩, .inl rfl⟩, by decide +kernel⟩

end Muefs
