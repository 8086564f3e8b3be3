import Muefs.Laws.SignIn

/-!
# Edits of accounts and their audit trail

* `Chained` : each snapshot before an edit is what the events so far came to;
* `Links` : a sign-in that gives an account its identity, without a version or an event;
* `UnlinkedSince`, `Run.edits_kept` : since a world, unless that happens, an edit overwrites what its version stood for,
  and the events of the account come to its fields;
* `linkedIdentity_overwritten` : an edit that overwrites the identity of a sign-in after it was read.
-/

namespace Muefs
open RowLocks

variable {cfg : Settings} {w₀ w w' : PortalWorld} {id : UserId}

/-! ## The audit trail -/

/-- The fields of an account after an event, if the event starts from those before it. -/
def AccountEvent.next (fields : AccountFields) : AccountEvent → Option AccountFields
  | .created _ _ _ after | .bootstrapped _ after => if after.fields = fields then some fields else none
  | .updated _ _ _ before after => if before.fields = fields then some after.fields else none
  | .roleChanged .. => some fields

/-- Each event starts from the fields that the events before it came to, and all of them come to `fields'`. -/
def Chained (fields : AccountFields) (events : List AccountEvent) (fields' : AccountFields) : Prop :=
  events.foldlM AccountEvent.next fields = some fields'

theorem Chained.nil (fields : AccountFields) : Chained fields [] fields := rfl

theorem Chained.single {fields fields' : AccountFields} {event : AccountEvent} (h : event.next fields = some fields') :
    Chained fields [event] fields' := by
  simp [Chained, h]

theorem Chained.append {fields fields₁ fields₂ : AccountFields} {events events' : List AccountEvent}
    (h : Chained fields events fields₁) (h' : Chained fields₁ events' fields₂) :
    Chained fields (events ++ events') fields₂ := by
  unfold Chained at h h' ⊢
  rw [List.foldlM_append, h]
  exact h'

theorem OpeningEvents.chained {user : User} {events : List AccountEvent} (h : OpeningEvents id user events) :
    Chained user.accountFields events user.accountFields := by
  cases h with
  | none => exact .nil _
  | created => exact .single (by simp [AccountEvent.next, accountSnapshot])
  | bootstrapped => exact .single (by simp [AccountEvent.next, accountSnapshot])

/-! ## What a commit does to an account -/

/-- The commit of a sign-in that gives the account another identity. -/
structure Links (id : UserId) (r : Request) (tr : Trace) (claims : Claims) (account : Account) : Prop where
  request : r = .signIn claims
  lock : ⟨.lock .update (.user id), some account⟩ ∈ tr
  identity : account.user.keycloakId ≠ some claims.sub

/-- An account and the same account later: the events in between lead from its fields to the later ones, and the version
rose unless the fields are the same. -/
structure Followed (account account' : Account) : Prop where
  chained : ∃ new, account'.events = account.events ++ new ∧
    Chained account.user.accountFields new account'.user.accountFields
  version : account.user.administrationVersion < account'.user.administrationVersion ∨
    (account'.user.administrationVersion = account.user.administrationVersion ∧
      account'.user.accountFields = account.user.accountFields)

theorem Followed.refl (account : Account) : Followed account account :=
  ⟨⟨[], (List.append_nil _).symm, .nil _⟩, .inr ⟨rfl, rfl⟩⟩

theorem Followed.trans {account₁ account₂ account₃ : Account} (h : Followed account₁ account₂)
    (h' : Followed account₂ account₃) : Followed account₁ account₃ := by
  obtain ⟨⟨new, hnew, hchain⟩, hversion⟩ := h
  obtain ⟨⟨new', hnew', hchain'⟩, hversion'⟩ := h'
  refine ⟨⟨new ++ new', by rw [hnew', hnew, List.append_assoc], hchain.append hchain'⟩, ?_⟩
  rcases hversion with hlt | ⟨heq, hfields⟩
  · rcases hversion' with hlt' | ⟨heq', _⟩
    · exact .inl (hlt.trans hlt')
    · exact .inl (heq' ▸ hlt)
  · rcases hversion' with hlt' | ⟨heq', hfields'⟩
    · exact .inl (heq ▸ hlt')
    · exact .inr ⟨heq'.trans heq, hfields'.trans hfields⟩

theorem AccountRow.followed {r : Request} {db : Store} {tr : Trace} {before after : Account}
    (h : AccountRow cfg r db tr id (some before) (some after))
    (hfree : ∀ claims account, ¬ Links id r tr claims account) :
    Followed before after := by
  cases h with
  | same => exact .refl _
  | edited actorId data actor account hr hactor hadmin hdata =>
    refine ⟨⟨_, rfl, .single ?_⟩, .inl ?_⟩
    · simp only [AccountEvent.next, accountSnapshot, if_true]
      rfl
    · have hraised : (before.edited id actorId actor.user.fullName data.reason (data.fields cfg)
          (data.expectedVersion + 1)).user.administrationVersion = data.expectedVersion + 1 := rfl
      rw [hraised, hdata.version]
      exact Nat.lt_succ_self _
  | roleChanged actorId courtId data actor account hr hactor hdata =>
    refine ⟨⟨_, rfl, .single rfl⟩, .inl ?_⟩
    have hraised : (before.withRole actorId actor.user.fullName courtId data).user.administrationVersion =
        data.expectedVersion + 1 := rfl
    rw [hraised, hdata.version]
    exact Nat.lt_succ_self _
  | linked claims existing account verified hr hseen hunbound hplain hlock hlast =>
    have hsame : before.user.keycloakId = some claims.sub := by
      by_contra hother
      exact hfree claims before ⟨hr, hlock, hother⟩
    have hfields : ((before.linked cfg existing.user claims).withVerified verified).user.accountFields =
        before.user.accountFields := by
      simp only [Account.withVerified, Account.linked, User.accountFields, hsame]
    refine ⟨⟨[], (List.append_nil _).symm, ?_⟩, .inr ⟨rfl, hfields⟩⟩
    rw [hfields]
    exact .nil _
  | synced => exact ⟨⟨[], (List.append_nil _).symm, .nil _⟩, .inr ⟨rfl, rfl⟩⟩

/-- No sign-in that committed since `w` gave the account another identity. -/
def UnlinkedSince (w w' : PortalWorld) (id : UserId) : Prop :=
  ∀ sid s a claims account, w'.sessions sid = some s → s.status = .committed a → w.sessions sid ≠ some s →
    ¬ Links id s.request s.trace claims account

theorem UnlinkedSince.before {w₁ : PortalWorld} (h : UnlinkedSince w₁ w' id) (hs : Steps (portal cfg) w w') :
    UnlinkedSince w₁ w id :=
  fun sid s a claims account hfound hstatus => h sid s a claims account (hs.ended hfound (by simp [hstatus])) hstatus

theorem UnlinkedSince.after {w₁ : PortalWorld} (h : UnlinkedSince w w' id) (hs : Steps (portal cfg) w w₁) :
    UnlinkedSince w₁ w' id := by
  intro sid s a claims account hfound hstatus hnew
  refine h sid s a claims account hfound hstatus fun hold => hnew ?_
  exact Steps.ended hs hold (by simp [hstatus])

/-- **An account and the same account later, where no sign-in in between gave it an identity.** -/
theorem Run.account_followed (h : Run cfg w₀ w) (hs : Steps (portal cfg) w w') (hfree : UnlinkedSince w w' id)
    {account : Account} (hrow : w.db (.user id) = some account) :
    ∃ account', w'.db (.user id) = some account' ∧ Followed account account' := by
  induction hs with
  | refl => exact ⟨account, hrow, .refl _⟩
  | @tail w₁ w₂ hs h₁ ih =>
    obtain ⟨account₁, hrow₁, hfollowed⟩ := ih (hfree.before (.single h₁))
    rcases (h.trans hs).account_step h₁ id with heq | ⟨sid, s, a, hc, rfl, hchange⟩
    · exact ⟨account₁, heq ▸ hrow₁, hfollowed⟩
    · rw [hrow₁] at hchange
      cases hafter : (w₁.committed sid s a).db (.user id) with
      | none =>
        rw [hafter] at hchange
        cases hchange
      | some account₂ =>
        rw [hafter] at hchange
        have hnew : w.sessions sid ≠ some { s with status := .committed a } := by
          intro hold
          have hended := Steps.ended hs hold (by simp)
          rw [hc.found] at hended
          have hrunning := hc.running
          rw [Option.some.inj hended] at hrunning
          cases hrunning
        refine ⟨account₂, rfl, hfollowed.trans (hchange.followed fun claims account => ?_)⟩
        exact hfree sid { s with status := .committed a } a claims account (committed_session w₁ sid s a) rfl hnew

theorem Run.opened_chained (h : Run cfg w₀ w) (hs : Steps (portal cfg) w w') (hnew : w.db (.user id) = none)
    (hfree : UnlinkedSince w w' id) {account : Account} (hrow : w'.db (.user id) = some account) :
    ∃ fields, Chained fields account.events account.user.accountFields := by
  have hborn := hs.born (P := fun w => (w.db (.user id)).isSome = true) (by simp [hnew]) (by simp [hrow])
  obtain ⟨w₁, w₂, hs₁, hstep, hs₂, hnone, hsome⟩ := hborn
  have h₁ : Run cfg w₀ w₁ := h.trans hs₁
  obtain ⟨first, hfirst⟩ := Option.isSome_iff_exists.1 hsome
  simp only [Bool.not_eq_true, Option.isSome_eq_false_iff, Option.isNone_iff_eq_none] at hnone
  have hopening : ∃ fields, Chained fields first.events first.user.accountFields := by
    rcases h₁.account_step hstep id with heq | ⟨_, _, _, _, _, hchange⟩
    · rw [hfirst, hnone] at heq
      cases heq
    · rw [hfirst, hnone] at hchange
      cases hchange with
      | opened account hroles hevents => exact ⟨_, hevents.chained⟩
  obtain ⟨account', hrow', hfollowed⟩ :=
    (h₁.tail hstep).account_followed hs₂ (hfree.after (hs₁.tail hstep)) hfirst
  cases hrow.symm.trans hrow'
  obtain ⟨fields, hopening⟩ := hopening
  obtain ⟨new, hnew, hchain⟩ := hfollowed.chained
  exact ⟨fields, hnew ▸ hopening.append hchain⟩

/-! ## Edits -/

theorem updateAccount_version {actorId : UserId} {data : AccountUpdate} {db : Store} :
    Meets db (updateAccount cfg actorId id data) fun _ _ =>
      ∃ account, db (.user id) = some account ∧ account.user.administrationVersion = data.expectedVersion := by
  simp only [updateAccount, requireSystemAdministrator, validateIdentity, meets_bind, meets_expect, meets_require]
  refine signedInAccount_meets.mono fun _ _ _ => lockUsers_meets.mono ?_
  rintro _ _ ⟨_, rfl⟩ actor _ _ account haccount hversion _ _
  exact selectUsers_meets.mono fun _ _ _ _ _ _ _ _ _ => ⟨account, haccount, hversion⟩

/-- An edit that a session committed. -/
structure EditCommits (cfg : Settings) (w : PortalWorld) (id : UserId) (sid : Nat)
    (s : Session View Failure Response Request) (a : Response) (actorId : UserId) (data : AccountUpdate) : Prop where
  commits : Commits (portal cfg) w sid s a
  request : s.request = .updateAccount actorId id data

theorem EditCommits.version {sid : Nat} {s : Session View Failure Response Request} {a : Response} {actorId : UserId}
    {data : AccountUpdate} (h : Run cfg w₀ w) (hc : EditCommits cfg w id sid s a actorId data) :
    ∃ account, w.db (.user id) = some account ∧ account.user.administrationVersion = data.expectedVersion := by
  have hprogram : (portal cfg).program s.request = thenSaved (updateAccount cfg actorId id data) := by
    rw [hc.request]
    rfl
  refine hc.commits.meets h.guarded (Q := fun _ _ => ∃ account, w.db (.user id) = some account ∧
    account.user.administrationVersion = data.expectedVersion) ?_
  rw [hprogram]
  simp only [thenSaved, meets_bind, meets_pure]
  exact updateAccount_version.mono fun _ _ hversion => hversion

/-! ## The law -/

/-- An edit that expects the version of an account in an earlier world finds the same fields; in every world the events
of the account since an earlier one lead from its fields then to its fields now; and the events of an account that was
opened since `w₀` all chain up to its fields. -/
structure EditsLaw (cfg : Settings) (w₀ w : PortalWorld) (id : UserId) : Prop where
  edits : ∀ w₁ w₂ sid s a actorId data read, Steps (portal cfg) w₀ w₁ → Steps (portal cfg) w₁ w₂ →
    EditCommits cfg w₂ id sid s a actorId data → Steps (portal cfg) (w₂.committed sid s a) w →
    w₁.db (.user id) = some read → read.user.administrationVersion = data.expectedVersion →
    ∃ account, w₂.db (.user id) = some account ∧ account.user.accountFields = read.user.accountFields
  chained : ∀ w₁ w₂ account₁, Steps (portal cfg) w₀ w₁ → Steps (portal cfg) w₁ w₂ → Steps (portal cfg) w₂ w →
    w₁.db (.user id) = some account₁ → ∃ account₂ new, w₂.db (.user id) = some account₂ ∧
      account₂.events = account₁.events ++ new ∧ Chained account₁.user.accountFields new account₂.user.accountFields
  opened : ∀ w₁ account, Steps (portal cfg) w₀ w₁ → Steps (portal cfg) w₁ w → w₀.db (.user id) = none →
    w₁.db (.user id) = some account → ∃ fields, Chained fields account.events account.user.accountFields

/-- **From any world of a run on, where no sign-in gives the account an identity, no edit overwrites a change that it
did not read, and the audit trail of the account comes to its fields.** -/
theorem Run.edits_kept {w₁ : PortalWorld} (h : Run cfg w₀ w₁) (hfree : UnlinkedSince w₁ w id) :
    EditsLaw cfg w₁ w id where
  edits w₂ w₃ sid s a actorId data read hs₁ hs₂ hc hs₃ hread hversion := by
    have hlater : Steps (portal cfg) w₃ w := .head (.commit sid s a hc.commits) hs₃
    obtain ⟨account, hrow, hfollowed⟩ := (h.trans hs₁).account_followed hs₂ ((hfree.before hlater).after hs₁) hread
    obtain ⟨account', hrow', hexpected⟩ := hc.version (h.trans (hs₁.trans hs₂))
    cases hrow.symm.trans hrow'
    refine ⟨account, hrow, ?_⟩
    rcases hfollowed.version with hlt | ⟨_, hfields⟩
    · omega
    · exact hfields
  chained w₂ w₃ account₁ hs₁ hs₂ hs₃ hrow := by
    obtain ⟨account₂, hrow₂, ⟨new, hnew, hchain⟩, _⟩ :=
      (h.trans hs₁).account_followed hs₂ ((hfree.before hs₃).after hs₁) hrow
    exact ⟨account₂, new, hrow₂, hnew, hchain⟩
  opened w₂ account hs₁ hs₂ hnew hrow := h.opened_chained hs₁ hnew (hfree.before hs₂) hrow

/-! ## A sign-in between two edits -/

/-- The deputy's account is never linked, and has an event for its opening and one for its role. -/
theorem deputyWorld_edits : EditsLaw .demo smallWorld deputyWorld 10 ∧
    (deputyWorld.db (.user 10)).any (fun account => account.events.length == 2) = true := by
  refine ⟨Run.edits_kept ⟨smallWorld_initial, .refl⟩ fun sid s a claims account hs _ _ hlinks => ?_, by decide +kernel⟩
  have hall : ∀ sid < 2, (deputyWorld.sessions sid).all (fun s => s.request matches .signIn _) = false := by
    decide +kernel
  by_cases hsid : sid < 2
  · have hother := hall sid hsid
    simp only [hs, hlinks.request, Option.all_some] at hother
    cases hother
  · rw [deputyWorld_calm.unused sid (by omega)] at hs
    cases hs

def signedInWorld : PortalWorld := smallWorld.serveAll (portal .demo) 0 [(1000, filerSignIn)]

def marriedName : AccountUpdate where
  firstName := "Fay"
  lastName := "Miller"
  email := "filer@example.org"
  userType := .selfRepresented
  reason := "Marriage"
  expectedVersion := 0
  verified := by simp

theorem signedInWorld_run : Run .demo smallWorld signedInWorld := Run.serveAll smallWorld_initial (by decide +kernel)

/-- **An edit overwrites the identity that a sign-in gave the account after the edit's version was read.** -/
theorem linkedIdentity_overwritten : ∃ w, Run .demo smallWorld w ∧ ¬ EditsLaw .demo smallWorld w 1 := by
  have hcalm : signedInWorld.Calm 1 [] := World.serveAll_calm smallWorld_initial.idle.calm
  obtain ⟨w, s, a, hrun, hc, _, hreq, hdb⟩ := signedInWorld_run.served hcalm (t := 2000)
    (r := .updateAccount 3 1 marriedName) (by decide +kernel) (by decide +kernel)
  refine ⟨w.committed 1 s a, hrun.tail (.commit 1 s a hc), fun hlaw => ?_⟩
  obtain ⟨account, hrow, hfields⟩ := hlaw.edits smallWorld w 1 s a 3 marriedName _ .refl hrun.steps ⟨hc,
    hreq⟩ .refl rfl rfl
  have hlinked : (signedInWorld.db (.user 1)).any (fun account => account.user.keycloakId == some "s1") = true := by
    decide +kernel
  rw [← hdb (.user 1) rfl, hrow] at hlinked
  have hidentity := congrArg AccountFields.keycloakId hfields
  simp only [User.accountFields] at hidentity
  simp [hidentity] at hlinked

end Muefs
