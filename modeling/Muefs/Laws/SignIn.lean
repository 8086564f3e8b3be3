import Muefs.Laws.Accounts

/-!
# Sign-ins and the identities of accounts

* `User.Linkable sub` : the account is bound to `sub`, or unbound and without an office or a bar number;
* `Takes` : a commit after which an account is not linkable; `OvertakenSignIn` : such a commit falls between a sign-in's
  last look at the account and the commit that links it;
* `Run.identities_kept` : unless that happens, sign-ins bind linkable accounts only and no identity is overwritten;
* `staffAccount_linked` : a sign-in that was overtaken takes a clerk's account.
-/

namespace Muefs
open RowLocks

variable {cfg : Settings} {w₀ w w' : PortalWorld} {id : UserId} {sub : String}

/-! ## Accounts that a sign-in may take -/

/-- The account is bound to this identity, or it is unbound, without an office and without a bar number. -/
def User.Linkable (user : User) (sub : String) : Prop :=
  user.keycloakId = some sub ∨ (user.keycloakId = none ∧ user.isPrivileged = false)

instance (user : User) (sub : String) : Decidable (user.Linkable sub) := by
  unfold User.Linkable
  infer_instance

/-- The commit leaves the account so that a sign-in of this identity may not take it: an edit to such fields, or another
sign-in that is linked to the account. -/
inductive Takes (cfg : Settings) (id : UserId) (sub : String) (r : Request) (tr : Trace) : Prop where
  | edited (actorId : UserId) (data : AccountUpdate) (hr : r = .updateAccount actorId id data)
      (hfields : ¬ (data.fields cfg).newUser.Linkable sub)
  | linked (claims : Claims) (account : Account) (hr : r = .signIn claims) (hsub : claims.sub ≠ sub)
      (hlock : ⟨.lock .update (.user id), some account⟩ ∈ tr)

/-- Such a commit between two worlds. -/
structure TakenBetween (cfg : Settings) (w w' : PortalWorld) (id : UserId) (sub : String) (w₁ : PortalWorld) (sid : Nat)
    (s : Session View Failure Response Request) (a : Response) : Prop where
  before : Steps (portal cfg) w w₁
  commits : Commits (portal cfg) w₁ sid s a
  after : Steps (portal cfg) (w₁.committed sid s a) w'
  takes : Takes cfg id sub s.request s.trace

theorem AccountRow.linkable {r : Request} {db : Store} {tr : Trace} {before after : Account}
    (h : AccountRow cfg r db tr id (some before) (some after)) (hb : before.user.Linkable sub)
    (htakes : ¬ Takes cfg id sub r tr) : after.user.Linkable sub := by
  cases h with
  | same => exact hb
  | edited actorId data actor account hr =>
    by_contra hnot
    exact htakes (.edited actorId data hr hnot)
  | roleChanged => exact hb
  | linked claims existing account verified hr hseen hunbound hplain hlock hlast =>
    by_cases hsub : claims.sub = sub
    · exact .inl (hsub ▸ rfl)
    · exact absurd (.linked claims before hr hsub hlock) htakes
  | synced claims account verified hr => exact hb

theorem Run.linkable_since (h : Run cfg w₀ w) (hs : Steps (portal cfg) w w') {account : Account}
    (hrow : w.db (.user id) = some account) (hlinkable : account.user.Linkable sub)
    (hfree : ∀ w₁ sid s a, ¬ TakenBetween cfg w w' id sub w₁ sid s a) :
    ∃ account', w'.db (.user id) = some account' ∧ account'.user.Linkable sub := by
  induction hs with
  | refl => exact ⟨account, hrow, hlinkable⟩
  | @tail w₁ w₂ hs h₁ ih =>
    obtain ⟨before, hbefore, hb⟩ := ih fun w₃ sid s a ht => hfree w₃ sid s a { ht with after := ht.after.tail h₁ }
    rcases (h.trans hs).account_step h₁ id with heq | ⟨sid, s, a, hc, rfl, hchange⟩
    · exact ⟨before, heq ▸ hbefore, hb⟩
    · rw [hbefore] at hchange
      cases hafter : (w₁.committed sid s a).db (.user id) with
      | none =>
        rw [hafter] at hchange
        cases hchange
      | some after =>
        rw [hafter] at hchange
        exact ⟨after, rfl, hchange.linkable hb fun ht => hfree w₁ sid s a ⟨hs, hc, .refl, ht⟩⟩

/-! ## The commit of a sign-in -/

/-- A commit takes the account after the sign-in of a session last looked at it and before the sign-in is linked. -/
structure OvertakenAt (cfg : Settings) (w₀ w : PortalWorld) (sid : Nat) (s : Session View Failure Response Request)
    (id : UserId) (sub : String) : Prop where
  linking : ∃ account, ⟨.lock .update (.user id), some account⟩ ∈ s.trace
  taken : ∃ w₁ s₁ w₂ sid₂ s₂ a₂, Steps (portal cfg) w₀ w₁ ∧ w₁.sessions sid = some s₁ ∧
    reads (.user id) s₁.trace = reads (.user id) s.trace ∧ TakenBetween cfg w₁ w id sub w₂ sid₂ s₂ a₂

theorem Run.last_account (h : Run cfg w₀ w) (hl : Listed w₀.db) {sid : Nat} {s : Session View Failure Response Request}
    (hs : w.sessions sid = some s) {existing : Account} (hlast : LastRead s.trace id existing) :
    ∃ w₁ s₁, Steps (portal cfg) w₀ w₁ ∧ Steps (portal cfg) w₁ w ∧ w₁.sessions sid = some s₁ ∧
      reads (.user id) s₁.trace = reads (.user id) s.trace ∧ w₁.db (.user id) = some existing := by
  have hids : ∀ ids, ⟨.look .userIds, ids⟩ ∈ s.trace → ids.Nodup := by
    intro ids hlook
    obtain ⟨w₁, hs₁, _, rfl⟩ := h.steps.looked_at h.start.idle hs hlook
    exact (Run.listed ⟨h.start, hs₁⟩ hl).nodup
  obtain ⟨w₁, s₁, hs₁, hs₂, hfound, _, hreads, hdb⟩ := h.steps.last_read (h.start.idle sid) hs (hlast hids)
  exact ⟨w₁, s₁, hs₁, hs₂, hfound, hreads, hdb⟩

/-- **A sign-in that was not overtaken sets the identity of an unbound account without an office, or none.** -/
theorem Run.identity_set (h : Run cfg w₀ w) (hl : Listed w₀.db) {sid : Nat} {s : Session View Failure Response Request}
    {a : Response} (hc : Commits (portal cfg) w sid s a) {claims : Claims} (hr : s.request = .signIn claims)
    (hfree : ¬ OvertakenAt cfg w₀ w sid s id claims.sub) {before after : Account}
    (hbefore : w.db (.user id) = some before) (hafter : (w.committed sid s a).db (.user id) = some after)
    (hset : after.user.keycloakId ≠ before.user.keycloakId) :
    before.user.keycloakId = none ∧ before.user.isPrivileged = false := by
  have hchange := h.account_commit hc id
  rw [hbefore, hafter, hr] at hchange
  cases hchange with
  | same => exact absurd rfl hset
  | edited _ _ _ _ hedit => cases hedit
  | roleChanged => exact absurd rfl hset
  | synced => exact absurd rfl hset
  | linked claims' existing account verified hsign hseen hunbound hplain hlock hlast =>
    cases hsign
    obtain ⟨w₁, s₁, hs₁, hs₂, hfound, hreads, hdb⟩ := h.last_account hl hc.found hlast
    have hlinkable₀ : existing.user.Linkable claims.sub := .inr ⟨hunbound, hplain⟩
    obtain ⟨account', hrow, hlinkable⟩ := Run.linkable_since ⟨h.start, hs₁⟩ hs₂ hdb hlinkable₀ fun w₂ sid₂ s₂ a₂ ht =>
        hfree ⟨⟨before, hlock⟩, w₁, s₁, w₂, sid₂, s₂, a₂, hs₁, hfound, hreads, ht⟩
    cases hbefore.symm.trans hrow
    exact hlinkable.resolve_left fun hsame => hset hsame.symm

/-! ## The law -/

/-- Every sign-in binds an unbound account without an office, or changes no identity; and an identity lasts until an
administrator changes it. -/
structure IdentityLaw (cfg : Settings) (w₀ w : PortalWorld) : Prop where
  set : ∀ w₁ sid s a claims, Steps (portal cfg) w₀ w₁ → Commits (portal cfg) w₁ sid s a →
    Steps (portal cfg) (w₁.committed sid s a) w → s.request = .signIn claims →
    ∀ id before after, w₁.db (.user id) = some before → (w₁.committed sid s a).db (.user id) = some after →
      after.user.keycloakId ≠ before.user.keycloakId →
      before.user.keycloakId = none ∧ before.user.isPrivileged = false
  kept : ∀ w₁ id account identity, Steps (portal cfg) w₀ w₁ → Steps (portal cfg) w₁ w →
    w₁.db (.user id) = some account → account.user.keycloakId = some identity →
    (∃ account', w.db (.user id) = some account' ∧ account'.user.keycloakId = some identity) ∨
    ∃ w₂ sid s a actorId data, Steps (portal cfg) w₁ w₂ ∧ Commits (portal cfg) w₂ sid s a ∧
      Steps (portal cfg) (w₂.committed sid s a) w ∧ s.request = .updateAccount actorId id data ∧
      (data.fields cfg).keycloakId ≠ some identity

/-- A sign-in of the run was overtaken. -/
structure OvertakenSignIn (cfg : Settings) (w₀ w : PortalWorld) (w₁ : PortalWorld) (sid : Nat)
    (s : Session View Failure Response Request) (a : Response) (claims : Claims) (id : UserId) : Prop where
  before : Steps (portal cfg) w₀ w₁
  commits : Commits (portal cfg) w₁ sid s a
  after : Steps (portal cfg) (w₁.committed sid s a) w
  request : s.request = .signIn claims
  taken : OvertakenAt cfg w₀ w₁ sid s id claims.sub

theorem Run.identity_step (h : Run cfg w₀ w) (hl : Listed w₀.db) (hs : Step (portal cfg) w w')
    (hfree : ∀ sid s a claims, Commits (portal cfg) w sid s a → w' = w.committed sid s a → s.request = .signIn claims →
      ¬ OvertakenAt cfg w₀ w sid s id claims.sub) {account : Account} {identity : String}
    (hrow : w.db (.user id) = some account) (hidentity : account.user.keycloakId = some identity) :
    (∃ account', w'.db (.user id) = some account' ∧ account'.user.keycloakId = some identity) ∨
    ∃ sid s a actorId data, Commits (portal cfg) w sid s a ∧ w' = w.committed sid s a ∧
      s.request = .updateAccount actorId id data ∧ (data.fields cfg).keycloakId ≠ some identity := by
  rcases h.account_step hs id with heq | ⟨sid, s, a, hc, rfl, hchange⟩
  · exact .inl ⟨account, heq ▸ hrow, hidentity⟩
  · rw [hrow] at hchange
    generalize hafter : (w.committed sid s a).db (.user id) = row at hchange
    cases hchange with
    | same => exact .inl ⟨account, rfl, hidentity⟩
    | edited actorId data actor account hr =>
      by_cases hkept : (data.fields cfg).keycloakId = some identity
      · exact .inl ⟨_, rfl, hkept⟩
      · exact .inr ⟨sid, s, a, actorId, data, hc, rfl, hr, hkept⟩
    | roleChanged => exact .inl ⟨_, rfl, hidentity⟩
    | synced => exact .inl ⟨_, rfl, hidentity⟩
    | linked claims existing account verified hr =>
      refine .inl ⟨_, rfl, ?_⟩
      by_contra hchanged
      have hunbound := (h.identity_set hl hc hr (hfree sid s a claims hc rfl hr) hrow hafter
        fun hsame => hchanged (hsame.trans hidentity)).1
      rw [hidentity] at hunbound
      cases hunbound

/-- **Where no sign-in is overtaken, sign-ins bind unbound accounts without an office only, and no identity is ever
overwritten by one.** -/
theorem Run.identities_kept (h : Run cfg w₀ w) (hl : Listed w₀.db)
    (hfree : ∀ w₁ sid s a claims id, ¬ OvertakenSignIn cfg w₀ w w₁ sid s a claims id) : IdentityLaw cfg w₀ w where
  set w₁ sid s a claims hs₁ hc hs₂ hr id before after hbefore hafter hset :=
    Run.identity_set ⟨h.start, hs₁⟩ hl hc hr (fun ht => hfree w₁ sid s a claims id ⟨hs₁, hc, hs₂, hr, ht⟩)
      hbefore hafter hset
  kept w₁ id account identity hs₁ hs₂ hrow hidentity := by
    induction hs₂ with
    | refl => exact .inl ⟨account, hrow, hidentity⟩
    | @tail w₂ w₃ hs₂ hs ih =>
      have h₂ : Run cfg w₀ w₂ := ⟨h.start, hs₁.trans hs₂⟩
      rcases ih h₂ fun w₄ sid s a claims id ho => hfree w₄ sid s a claims id { ho with after := ho.after.tail hs } with
        ⟨account₂, hrow₂, hidentity₂⟩ | ⟨w₄, sid, s, a, actorId, data, hs₄, hc, hs₅, hr, hother⟩
      · have hstep := h₂.identity_step hl hs (fun sid s a claims hc heq hr ht =>
          hfree w₂ sid s a claims id ⟨h₂.steps, hc, heq ▸ .refl, hr, ht⟩) hrow₂ hidentity₂
        rcases hstep with hkept | ⟨sid, s, a, actorId, data, hc, heq, hr, hother⟩
        · exact .inl hkept
        · exact .inr ⟨w₂, sid, s, a, actorId, data, hs₂, hc, heq ▸ .refl, hr, hother⟩
      · exact .inr ⟨w₄, sid, s, a, actorId, data, hs₄, hc, hs₅.tail hs, hr, hother⟩

/-! ## A sign-in and an edit -/

/-- The filer signs in, and is linked to the account of his e-mail address. -/
def filerSignIn : Request := .signIn { sub := "s1", email := some "filer@example.org", emailVerified := true }

/-- An administrator makes the filer an attorney and leaves the identity alone. -/
def filerPromoted : AccountUpdate where
  firstName := "Fay"
  lastName := "Filer"
  email := "filer@example.org"
  userType := .attorney
  keycloakId := some "s1"
  barNumber := some "P12345"
  reason := "Admitted"
  expectedVersion := 0
  verified := by simp

def linkedWorld : PortalWorld :=
  smallWorld.serveAll (portal .demo) 0 [(1000, filerSignIn), (2000, .updateAccount 3 1 filerPromoted)]

theorem linkedWorld_run : Run .demo smallWorld linkedWorld := Run.serveAll smallWorld_initial (by decide +kernel)

theorem smallWorld_listed : Listed smallWorld.db where
  nodup := by decide
  mem id := by
    simp only [smallWorld, smallStore, smallAccount]
    split_ifs <;> simp [*]

/-- A request that takes no account from a sign-in of the filer. -/
def Request.sparesFiler : Request → Bool
  | .signIn claims => claims.sub == "s1"
  | .updateAccount _ _ data => (data.fields .demo).keycloakId == some "s1"
  | _ => true

theorem linkedWorld_spares {sid : Nat} {s : Session View Failure Response Request}
    (hs : linkedWorld.sessions sid = some s) : s.request.sparesFiler = true := by
  have hall : ∀ sid < 2, (linkedWorld.sessions sid).all (fun s => s.request.sparesFiler) = true := by decide +kernel
  by_cases hsid : sid < 2
  · have hspares := hall sid hsid
    rw [hs] at hspares
    exact hspares
  · have hcalm : linkedWorld.Calm (0 + 2) [] := World.serveAll_calm smallWorld_initial.idle.calm
    rw [hcalm.unused sid (by omega)] at hs
    cases hs

theorem committed_session (w : PortalWorld) (sid : Nat) (s : Session View Failure Response Request) (a : Response) :
    (w.committed sid s a).sessions sid = some { s with status := .committed a } := by
  simp [World.committed, World.put]

theorem linkedWorld_free (w₁ : PortalWorld) (sid : Nat) (s : Session View Failure Response Request) (a : Response)
    (claims : Claims) (id : UserId) : ¬ OvertakenSignIn .demo smallWorld linkedWorld w₁ sid s a claims id := by
  intro ho
  have hsub : claims.sub = "s1" := by
    have hspares := linkedWorld_spares (ho.after.ended (committed_session w₁ sid s a) (by simp))
    rw [show ({ s with status := .committed a } : Session View Failure Response Request).request = .signIn claims
      from ho.request] at hspares
    exact beq_iff_eq.1 hspares
  obtain ⟨_, _, w₂, sid₂, s₂, a₂, _, _, _, ht⟩ := ho.taken.taken
  have hlater : Steps (portal .demo) (w₂.committed sid₂ s₂ a₂) linkedWorld :=
    (ht.after.tail (.commit sid s a ho.commits)).trans ho.after
  have hspares := linkedWorld_spares (hlater.ended (committed_session w₂ sid₂ s₂ a₂) (by simp))
  cases ht.takes with
  | edited actorId data hr hfields =>
    rw [show ({ s₂ with status := .committed a₂ } : Session View Failure Response
      Request).request = _ from hr] at hspares
    exact hfields (.inl (hsub ▸ beq_iff_eq.1 hspares))
  | linked claims' account hr hne hlock =>
    rw [show ({ s₂ with status := .committed a₂ } : Session View Failure Response
      Request).request = _ from hr] at hspares
    exact hne (hsub ▸ beq_iff_eq.1 hspares)

/-- The filer's account is linked, and then an attorney's. -/
theorem linkedWorld_kept : IdentityLaw .demo smallWorld linkedWorld ∧
    (linkedWorld.db (.user 1)).any (fun account =>
      account.user.keycloakId == some "s1" && account.user.userType == .attorney) = true :=
  ⟨Run.identities_kept linkedWorld_run smallWorld_listed linkedWorld_free, by decide +kernel⟩

def signInPart : Trace × Portal Response :=
  ((portal .demo).program filerSignIn).opening (portal .demo).row 1000 smallWorld.db 8

def pausedSignIn : PortalWorld := smallWorld.pause (portal .demo) 0 1000 8 filerSignIn

theorem clerkAppointed_unverified : false = true → (none : Option String).isSome = true ∧ UserType.clerk = .attorney :=
  fun h => absurd h Bool.false_ne_true

/-- An administrator makes the account a clerk's, bound to the clerk's identity. -/
def clerkAppointed : Request := .updateAccount 3 1 {
  firstName := "Fay", lastName := "Filer", email := "filer@example.org", userType := .clerk
  keycloakId := some "k2", reason := "Appointed", expectedVersion := 0, verified := clerkAppointed_unverified }

def clerkBound : PortalWorld := pausedSignIn.serve (portal .demo) 1 2000 clerkAppointed

theorem pausedSignIn_steps : Steps (portal .demo) smallWorld pausedSignIn ∧
    ((portal .demo).program filerSignIn).After signInPart.1 signInPart.2 :=
  World.pause_steps smallWorld_initial.idle.calm 1000 8 filerSignIn fun _ _ => List.not_mem_nil

theorem clerkBound_steps : Steps (portal .demo) pausedSignIn clerkBound :=
  World.serve_steps (World.pause_calm smallWorld_initial.idle.calm 1000 8 filerSignIn) (by decide +kernel)
    (by decide +kernel)

theorem signIn_commits : ∃ w s a, Run .demo smallWorld w ∧ Commits (portal .demo) w 0 s a ∧ s.request = filerSignIn ∧
    (w.db (.user 1)).any (fun account => account.user.keycloakId == some "k2" && account.user.userType == .clerk) =
      true ∧
    ((w.committed 0 s a).db (.user 1)).any (fun account => account.user.keycloakId == some "s1") = true := by
  have hok : (signInPart.2.alone (portal .demo).row 3000 clerkBound.db clerkBound.next).sound = true := by
    decide +kernel
  have hanswer : (signInPart.2.alone (portal .demo).row 3000 clerkBound.db clerkBound.next).result.isOk = true := by
    decide +kernel
  have hcalm : clerkBound.CalmBut 0 [] := (smallWorld_initial.idle.calm.but 0).put
    (s := ⟨filerSignIn, signInPart.1, .running⟩) rfl |>.serve 2000 clerkAppointed
  have hfound : clerkBound.sessions 0 = some ⟨filerSignIn, signInPart.1, .running⟩ := rfl
  cases hr : (signInPart.2.alone (portal .demo).row 3000 clerkBound.db clerkBound.next).result with
  | error x =>
    rw [hr] at hanswer
    cases hanswer
  | ok a =>
    obtain ⟨w, s, hsteps, hc, hresume, hreq, _, hdb⟩ := World.resume_commits hcalm hfound pausedSignIn_steps.2 hok hr
    have hstart : Run .demo smallWorld smallWorld := ⟨smallWorld_initial, .refl⟩
    refine ⟨w, s, a, ((hstart.trans pausedSignIn_steps.1).trans clerkBound_steps).trans hsteps, hc, hreq, ?_, ?_⟩
    · rw [hdb, Txn.alone_row hok (g := .user 1) rfl]
      decide +kernel
    · rw [← hresume]
      decide +kernel

/-- **A sign-in that was overtaken binds a clerk's account, over the identity that an administrator gave it.** -/
theorem staffAccount_linked : ∃ w, Run .demo smallWorld w ∧ ¬ IdentityLaw .demo smallWorld w := by
  obtain ⟨w, s, a, hrun, hc, hreq, hbefore, hafter⟩ := signIn_commits
  refine ⟨w.committed 0 s a, hrun.tail (.commit 0 s a hc), fun hlaw => ?_⟩
  obtain ⟨before, hrow, hbefore⟩ := (Option.any_eq_true _ _).1 hbefore
  obtain ⟨after, hrow', hafter⟩ := (Option.any_eq_true _ _).1 hafter
  simp only [Bool.and_eq_true, beq_iff_eq] at hbefore hafter
  have hset := hlaw.set w 0 s a _ hrun.steps hc .refl hreq 1 before after hrow hrow' (by rw [hafter, hbefore.1]; decide)
  rw [hbefore.1] at hset
  cases hset.1

end Muefs
