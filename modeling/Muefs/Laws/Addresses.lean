import Muefs.Laws.Edits

/-!
# E-mail addresses of accounts

* `Distinct` : no two accounts have addresses that are equal up to letter case; `accountsWith` : a lookup by address;
* `AddressKeyed` : the unique index of addresses agrees with the rows, along every run;
* `Crosses` : two transactions write addresses that differ in letter case only, one within the other;
* `Hidden` : the search of a writer misses such an address, because the database has another lower case;
* `Run.addresses_kept` : unless that happens, addresses stay distinct; `Run.crosses_registration` : only a registration
  can cross;
* `annTwice`, `umlautTwice` : two registrations that cross, and two of which one is hidden.
-/

namespace Muefs
open RowLocks

variable {cfg : Settings} {w₀ w w' : PortalWorld} {id : UserId}

/-! ## The index -/

/-- The entries of addresses in the unique index are those of the rows. -/
def AddressKeyed (db : Store) : Prop :=
  ∀ email id, db (.accountKey (.email email)) = some id ↔ ∃ account, db (.user id) = some account ∧
    account.user.email = email

theorem User.email_mem_keys {user : User} {email : String} : .email email ∈ user.keys ↔ email = user.email := by
  simp [User.keys]

theorem AccountInserted.keyed {db db' : Store} {account : Account} (h : AccountInserted db db' id account)
    (hk : AddressKeyed db) : AddressKeyed db' := by
  intro email id'
  rw [h.keys]
  by_cases hid : id' = id
  · subst hid
    simp only [User.email_mem_keys, h.row, Option.some.injEq, exists_eq_left']
    by_cases hemail : email = account.user.email
    · simp [hemail]
    · have hnone : ¬ ∃ account, db (.user id') = some account ∧ account.user.email = email := by simp [h.new]
      rw [if_neg hemail, hk]
      exact iff_of_false hnone fun heq => hemail heq.symm
  · rw [h.others id' hid]
    by_cases hemail : email = account.user.email
    · have hfree := h.free _ (User.email_mem_keys.2 rfl)
      rw [if_pos (User.email_mem_keys.2 hemail), ← hk, hemail, hfree]
      simp [Ne.symm hid]
    · rw [if_neg (mt User.email_mem_keys.1 hemail), hk]

theorem AccountUpdated.keyed {db db' : Store} {before after : Account} (h : AccountUpdated db db' id before after)
    (hk : AddressKeyed db) : AddressKeyed db' := by
  intro email id'
  rw [h.keys]
  simp only [User.email_mem_keys]
  by_cases hid : id' = id
  · subst hid
    simp only [h.row, Option.some.injEq, exists_eq_left']
    by_cases hafter : email = after.user.email
    · by_cases hbefore : email = before.user.email
      · rw [if_neg (by simp [hbefore]), if_neg (by simp [hafter]), hk]
        simp [h.found, ← hbefore, hafter]
      · simp [hafter, hafter ▸ hbefore]
    · by_cases hbefore : email = before.user.email
      · rw [if_neg (by simp [hafter]), if_pos ⟨hbefore, hafter⟩]
        simp [Ne.symm hafter]
      · rw [if_neg (by simp [hafter]), if_neg (by simp [hbefore]), hk]
        simp [h.found, Ne.symm hbefore, Ne.symm hafter]
  · rw [h.others id' hid, ← hk]
    have howner : db (.accountKey (.email before.user.email)) = some id := (hk _ _).2 ⟨before, h.found, rfl⟩
    split_ifs with htaken hgiven
    · have hfree := h.free (.email email) (User.email_mem_keys.2 htaken.1) (mt User.email_mem_keys.1 htaken.2)
      simp [hfree, Ne.symm hid]
    · rw [hgiven.1, howner]
      simp [Ne.symm hid]
    · rfl

theorem AccountStep.keyed {r : Request} {db db' : Store} {tr : Trace} (h : AccountStep cfg r db db' tr)
    (hk : AddressKeyed db) : AddressKeyed db' := by
  cases h with
  | created _ _ _ _ _ _ _ _ _ h | bootstrapped _ _ _ _ _ _ h | registered _ _ _ _ _ _ h
  | provisioned _ _ _ _ _ _ _ _ _ _ _ h => exact h.keyed hk
  | edited _ _ _ _ _ _ _ _ _ h | roleChanged _ _ _ _ _ _ _ _ _ h | linked _ _ _ _ _ _ _ _ _ _ _ h => exact h.keyed hk
  | synced claims id verified hr hrow hframe =>
    intro email id'
    rw [hframe _ (by simp), hk]
    by_cases hid : id' = id
    · subst hid
      rw [hrow]
      cases db (.user id') with
      | none => simp
      | some account => simp [Account.withVerified]
    · rw [hframe (.user id') (by simpa using hid)]

theorem Run.keyed (h : Run cfg w₀ w) (hk : AddressKeyed w₀.db) : AddressKeyed w.db := by
  refine Run.table_since ⟨h.start, .refl⟩ hk (fun db db' heq hk email id => ?_) (fun w₁ sid s a _ _ _ hk hchanges => ?_)
    h.steps
  · rw [heq (.accountKey (.email email)) (by simp), heq (.user id) (by simp), hk]
  · rcases hchanges.accounts with hstep | ⟨_, hrows, hkeys⟩
    · exact hstep.keyed hk
    · intro email id
      rw [hkeys, hrows, hk]

/-! ## Addresses -/

/-- The same address up to letter case, for the program or for the database. -/
def SameAddress (cfg : Settings) (email email' : String) : Prop :=
  cfg.lower email = cfg.lower email' ∨ cfg.lowerSql email = cfg.lowerSql email'

theorem SameAddress.symm {email email' : String} (h : SameAddress cfg email email') : SameAddress cfg email' email :=
  h.imp Eq.symm Eq.symm

/-- No two accounts have addresses that are equal up to letter case. -/
def Distinct (cfg : Settings) (db : Store) : Prop :=
  ∀ id id' account account', db (.user id) = some account → db (.user id') = some account' →
    SameAddress cfg account.user.email account'.user.email → id = id'

theorem Distinct.changed {db db' : Store} {account : Account} (h : Distinct cfg db)
    (hrow : db' (.user id) = some account)
    (hothers : ∀ id', id' ≠ id → db' (.user id') = db (.user id'))
    (hnew : ∀ id' account', id' ≠ id → db (.user id') = some account' →
      ¬ SameAddress cfg account'.user.email account.user.email) : Distinct cfg db' := by
  intro i j account₁ account₂ h₁ h₂ hsame
  by_cases hi : i = id
  · subst hi
    cases hrow.symm.trans h₁
    by_contra hne
    exact hnew j account₂ (Ne.symm hne) (hothers j (Ne.symm hne) ▸ h₂) hsame.symm
  · rw [hothers i hi] at h₁
    by_cases hj : j = id
    · subst hj
      cases hrow.symm.trans h₂
      exact absurd hsame (hnew i account₁ hi h₁)
    · rw [hothers j hj] at h₂
      exact h i j account₁ account₂ h₁ h₂ hsame

/-- The address that a request writes when it opens or edits an account. -/
def Request.address (cfg : Settings) : Request → Option String
  | .createAccount _ data | .bootstrap data => some (data.fields cfg).email
  | .updateAccount _ _ data => some (data.fields cfg).email
  | .registerUser data => some data.email
  | .signIn claims => verifiedEmailFromClaims cfg claims
  | _ => none

theorem AccountStep.address {r : Request} {db db' : Store} {tr : Trace} (h : AccountStep cfg r db db' tr)
    {account : Account} (hrow : db' (.user id) = some account)
    (hnew : (db (.user id)).map (·.user.email) ≠ some account.user.email) :
    r.address cfg = some account.user.email := by
  have hinserted : ∀ {id' : UserId} {account' : Account}, AccountInserted db db' id' account' → account = account' := by
    intro id' account' h
    by_cases hid : id = id'
    · subst hid
      exact Option.some.inj (hrow.symm.trans h.row)
    · rw [h.others id hid] at hrow
      exact absurd (by rw [hrow, Option.map_some]) hnew
  have hupdated : ∀ {id' : UserId} {before after : Account}, AccountUpdated db db' id' before after →
      account = after ∧ before.user.email ≠ account.user.email := by
    intro id' before after h
    by_cases hid : id = id'
    · subst hid
      rw [h.found] at hnew
      exact ⟨Option.some.inj (hrow.symm.trans h.row), fun hsame => hnew (by rw [Option.map_some, hsame])⟩
    · rw [h.others id hid] at hrow
      exact absurd (by rw [hrow, Option.map_some]) hnew
  cases h with
  | created actorId _ data actor hr hactor hadmin hvalid hunused h =>
    rw [hr, hinserted h]
    rfl
  | bootstrapped _ data hr hbound hadmin hunused h =>
    rw [hr, hinserted h]
    rfl
  | registered _ data hr hallowed htype hunused h =>
    rw [hr, hinserted h]
    rfl
  | provisioned claims _ email user verified hr hemail haddress htype hsub hunused h =>
    rw [hr, hinserted h]
    simp only [Request.address, hemail, Account.withVerified, haddress]
  | edited actorId _ data actor account' hr hactor hadmin hdata h =>
    rw [hr, (hupdated h).1]
    rfl
  | roleChanged _ _ _ _ _ _ _ _ _ h =>
    obtain ⟨rfl, hne⟩ := hupdated h
    exact absurd rfl hne
  | linked _ _ _ _ _ _ _ _ _ _ _ h =>
    obtain ⟨rfl, hne⟩ := hupdated h
    exact absurd rfl hne
  | synced claims id' verified hr hrow' hframe =>
    by_cases hid : id = id'
    · subst hid
      rw [hrow'] at hrow
      obtain ⟨before, hbefore, rfl⟩ := Option.map_eq_some_iff.1 hrow
      exact absurd (by rw [hbefore]; rfl) hnew
    · rw [hframe (.user id) (by simpa using hid)] at hrow
      exact absurd (by rw [hrow, Option.map_some]) hnew

/-! ## Crossing -/

/-- The commit gives an account the address: a new account, or one that had another address. -/
def WritesAddress (w : PortalWorld) (sid : Nat) (s : Session View Failure Response Request) (a : Response) (id : UserId)
    (email : String) : Prop :=
  ((w.committed sid s a).db (.user id)).map (·.user.email) = some email ∧
    (w.db (.user id)).map (·.user.email) ≠ some email

/-- While the transaction of a request that writes an address runs, another one commits an address that differs from it
in letter case only. -/
structure Crosses (cfg : Settings) (w w₁ w₂ : PortalWorld) (sid : Nat) (s : Session View Failure Response Request)
    (a : Response) (sid₁ : Nat) (s₁ : Session View Failure Response Request) (a₁ : Response) (email email' : String) :
    Prop where
  running : ∃ s₀, w.sessions sid = some s₀ ∧ s₀.request = s.request
  before : Steps (portal cfg) w w₁
  commits : Commits (portal cfg) w₁ sid₁ s₁ a₁
  after : Steps (portal cfg) (w₁.committed sid₁ s₁ a₁) w₂
  writes : ∃ id, WritesAddress w₂ sid s a id email
  writes' : ∃ id, WritesAddress w₁ sid₁ s₁ a₁ id email'
  same : SameAddress cfg email email'
  different : email ≠ email'

/-- The search for a new address does not find an address that is the same: the database's lower case of this one is not
the program's lower case of the new one. -/
structure Hidden (cfg : Settings) (email new : String) : Prop where
  same : SameAddress cfg email new
  missed : cfg.lowerSql email ≠ cfg.lower new

theorem Run.address (h : Run cfg w₀ w) {sid : Nat} {s : Session View Failure Response Request} {a : Response}
    (hc : Commits (portal cfg) w sid s a) {email : String} (hwrites : WritesAddress w sid s a id email) :
    s.request.address cfg = some email := by
  obtain ⟨account, hrow, rfl⟩ := Option.map_eq_some_iff.1 hwrites.1
  rcases (h.changes hc).accounts with hchange | ⟨_, hrows, _⟩
  · exact hchange.address hrow hwrites.2
  · exact absurd ((congrArg (Option.map (·.user.email)) (hrows id)).symm.trans hwrites.1) hwrites.2

theorem Request.address_lower {r : Request} {email : String} (h : r.address cfg = some email)
    (hr : ∀ data, r ≠ .registerUser data) : cfg.lower email = email := by
  cases r with
  | registerUser data => exact absurd rfl (hr data)
  | createAccount | updateAccount | bootstrap =>
    cases h
    exact cfg.lower_lower _
  | signIn claims =>
    simp only [Request.address, verifiedEmailFromClaims] at h
    split_ifs at h
    obtain ⟨text, _, htext⟩ := Option.bind_eq_some_iff.1 h
    obtain ⟨_, _, rfl⟩ := Option.map_eq_some_iff.1 htext
    exact cfg.lower_lower _
  | _ => cases h

theorem Request.address_registered {r : Request} {email : String} (h : r.address cfg = some email)
    (hlower : cfg.lower email ≠ email) : ∃ data, r = .registerUser data ∧ data.email = email := by
  by_contra hnone
  refine hlower (Request.address_lower h fun data hr => hnone ⟨data, hr, ?_⟩)
  rw [hr] at h
  exact Option.some.inj h

theorem SameAddress.eq_of_lower {email email' : String} (h : SameAddress cfg email email')
    (hlower : cfg.lower email = email)
    (hlower' : cfg.lower email' = email') : email = email' := by
  rcases h with h | h
  · rw [← hlower, h, hlower']
  · rw [← hlower, ← cfg.lowerSql_lower email, hlower, h, ← hlower', cfg.lowerSql_lower email', hlower']

/-- **Only a registration can cross, with an address that is not in lower case.** -/
theorem Run.crosses_registration (h : Run cfg w₀ w) {w₁ w₂ : PortalWorld} {sid sid₁ : Nat}
    {s s₁ : Session View Failure Response Request} {a a₁ : Response} {email email' : String}
    (hcross : Crosses cfg w w₁ w₂ sid s a sid₁ s₁ a₁ email email') (hc : Commits (portal cfg) w₂ sid s a) :
    (∃ data, s.request = .registerUser data ∧ cfg.lower data.email ≠ data.email) ∨
    ∃ data, s₁.request = .registerUser data ∧ cfg.lower data.email ≠ data.email := by
  have h₁ := h.trans hcross.before
  have h₂ := (h₁.tail (.commit sid₁ s₁ a₁ hcross.commits)).trans hcross.after
  obtain ⟨id, hwrites⟩ := hcross.writes
  obtain ⟨id', hwrites'⟩ := hcross.writes'
  by_cases hemail : cfg.lower email = email
  · by_cases hemail' : cfg.lower email' = email'
    · exact absurd (hcross.same.eq_of_lower hemail hemail') hcross.different
    · obtain ⟨data, hr, rfl⟩ := Request.address_registered (h₁.address hcross.commits hwrites') hemail'
      exact .inr ⟨data, hr, hemail'⟩
  · obtain ⟨data, hr, rfl⟩ := Request.address_registered (h₂.address hc hwrites) hemail
    exact .inl ⟨data, hr, hemail⟩

/-- No request of the run crossed another one that committed later. -/
def NeverCrossed (cfg : Settings) (w₀ w : PortalWorld) : Prop :=
  ∀ w₁ w₂ w₃ sid s a sid' s' a' email email', Steps (portal cfg) w₀ w₁ → Commits (portal cfg) w₃ sid s a →
    Steps (portal cfg) (w₃.committed sid s a) w → ¬ Crosses cfg w₁ w₂ w₃ sid s a sid' s' a' email email'

/-- No request of the run wrote an address from which the one of another account was hidden. -/
def NeverHidden (cfg : Settings) (w₀ w : PortalWorld) : Prop :=
  ∀ w₁ sid s a id email id' account, Steps (portal cfg) w₀ w₁ → Commits (portal cfg) w₁ sid s a →
    Steps (portal cfg) (w₁.committed sid s a) w → WritesAddress w₁ sid s a id email → id' ≠ id →
    w₁.db (.user id') = some account → ¬ Hidden cfg account.user.email email

theorem NeverCrossed.before (h : NeverCrossed cfg w₀ w') (hs : Steps (portal cfg) w w') : NeverCrossed cfg w₀ w :=
  fun w₁ w₂ w₃ sid s a sid' s' a' email email' hs₁ hc hs₂ =>
    h w₁ w₂ w₃ sid s a sid' s' a' email email' hs₁ hc (hs₂.trans hs)

theorem NeverHidden.before (h : NeverHidden cfg w₀ w') (hs : Steps (portal cfg) w w') : NeverHidden cfg w₀ w :=
  fun w₁ sid s a id email id' account hs₁ hc hs₂ => h w₁ sid s a id email id' account hs₁ hc (hs₂.trans hs)

section Check

variable {sid : Nat} {s : Session View Failure Response Request} {a : Response} {p : UserId → User → Bool}

/-- A row that a search without a result passed over was not one that it looks for, in a world since the
request began. -/
theorem Run.passed_over (h : Run cfg w₀ w) (hl : Listed w₀.db) (hs : w.sessions sid = some s)
    (hnone : NoneFound s.trace p)
    (id : UserId) : ∃ w₁ s₁, Steps (portal cfg) w₀ w₁ ∧ Steps (portal cfg) w₁ w ∧ w₁.sessions sid = some s₁ ∧
      s₁.request = s.request ∧ ∀ account, w₁.db (.user id) = some account → p id account.user = false := by
  obtain ⟨ids, hids⟩ := hnone
  by_cases hmem : id ∈ ids
  · obtain ⟨row, hlook, hrow⟩ := hids.rows id hmem
    obtain ⟨w₁, hans⟩ := h.steps.answered_at h.start.idle hs hlook
    obtain ⟨s₁, hfound, hreq, _⟩ := hans.session
    refine ⟨w₁, s₁, hans.reached, hans.later, hfound, hreq, fun account haccount => ?_⟩
    by_contra hp
    cases hrow account (hans.look.symm.trans haccount) (by simpa using hp)
  · obtain ⟨w₁, hans⟩ := h.steps.answered_at h.start.idle hs hids.listed
    obtain ⟨s₁, hfound, hreq, _⟩ := hans.session
    refine ⟨w₁, s₁, hans.reached, hans.later, hfound, hreq, fun account haccount => absurd ?_ hmem⟩
    rw [show ids = w₁.db .userIds from hans.look.symm, (Run.listed ⟨h.start, hans.reached⟩ hl).mem, haccount]
    rfl

/-- **At the commit of a request that was not crossed, no other account has the address that it found unused.** -/
theorem Run.unused_address (h : Run cfg w₀ w) (hl : Listed w₀.db) (hk : AddressKeyed w₀.db)
    (hc : Commits (portal cfg) w sid s a)
    {email : String} (hwrites : WritesAddress w sid s a id email) (hnone : NoneFound s.trace p)
    (hp : ∀ id' (user : User), id' ≠ id → cfg.lowerSql user.email = cfg.lower email → p id' user = true)
    (hfree : w.db (.accountKey (.email email)) = none)
    (hcross : ∀ w₁ w₂ sid' s' a' email', Steps (portal cfg) w₀ w₁ →
      ¬ Crosses cfg w₁ w₂ w sid s a sid' s' a' email email')
    (hhidden : ∀ id' account, id' ≠ id → w.db (.user id') = some account → ¬ Hidden cfg account.user.email email)
    {id' : UserId} {account : Account} (hid : id' ≠ id) (hrow : w.db (.user id') = some account) :
    ¬ SameAddress cfg account.user.email email := by
  intro hsame
  have hfound : cfg.lowerSql account.user.email = cfg.lower email := by
    by_contra hmissed
    exact hhidden id' account hid hrow ⟨hsame, hmissed⟩
  obtain ⟨w₁, s₁, hs₁, hs₂, hsession, hreq, hother⟩ := h.passed_over hl hc.found hnone id'
  have hbefore : (w₁.db (.user id')).map (·.user.email) ≠ some account.user.email := by
    intro hemail
    obtain ⟨account₁, hrow₁, hemail⟩ := Option.map_eq_some_iff.1 hemail
    have hfalse := hother account₁ hrow₁
    rw [hp id' account₁.user hid (hemail ▸ hfound)] at hfalse
    cases hfalse
  obtain ⟨w₂, w₃, hs₃, hstep, hs₄, hbefore, hafter⟩ := hs₂.born
    (P := fun w => (w.db (.user id')).map (·.user.email) = some account.user.email) hbefore (by simp [hrow])
  rcases table_step hstep with heq | ⟨sid', s', a', hc', rfl⟩
  · rw [heq (.user id') (by simp)] at hafter
    exact hbefore hafter
  · refine hcross w₁ w₂ sid' s' a' account.user.email hs₁ {
      running := ⟨s₁, hsession, hreq⟩
      before := hs₃
      commits := hc'
      after := hs₄
      writes := ⟨id, hwrites⟩
      writes' := ⟨id', hafter, hbefore⟩
      same := hsame.symm
      different := fun heq => ?_ }
    have howner := (h.keyed hk account.user.email id').2 ⟨account, hrow, rfl⟩
    rw [← heq, hfree] at howner
    cases howner

/-- **A commit that was not crossed, and from which no address was hidden, keeps addresses distinct.** -/
theorem Run.distinct_commit (h : Run cfg w₀ w) (hl : Listed w₀.db) (hk : AddressKeyed w₀.db) (hd : Distinct cfg w.db)
    (hc : Commits (portal cfg) w sid s a)
    (hcross : ∀ w₁ w₂ sid' s' a' email email', Steps (portal cfg) w₀ w₁ →
      ¬ Crosses cfg w₁ w₂ w sid s a sid' s' a' email email')
    (hhidden : ∀ id email id' account, WritesAddress w sid s a id email → id' ≠ id →
      w.db (.user id') = some account → ¬ Hidden cfg account.user.email email) :
    Distinct cfg (w.committed sid s a).db := by
  have hkeep : (∀ id account, (w.committed sid s a).db (.user id) = some account →
      ∃ before, w.db (.user id) = some before ∧ before.user.email = account.user.email) →
      Distinct cfg (w.committed sid s a).db := by
    intro hrows i j account₁ account₂ h₁ h₂ hsame
    obtain ⟨before₁, hbefore₁, hemail₁⟩ := hrows i account₁ h₁
    obtain ⟨before₂, hbefore₂, hemail₂⟩ := hrows j account₂ h₂
    exact hd i j before₁ before₂ hbefore₁ hbefore₂ (by rw [hemail₁, hemail₂]; exact hsame)
  have hinserted : ∀ {id : UserId} {account : Account} {p : UserId → User → Bool},
      AccountInserted w.db (w.committed sid s a).db id account → NoneFound s.trace p →
      (∀ id' user, cfg.lowerSql user.email = cfg.lower account.user.email → p id' user = true) →
      Distinct cfg (w.committed sid s a).db := by
    intro id account p hnew hnone hp
    have hwrites : WritesAddress w sid s a id account.user.email := by
      refine ⟨by rw [show (w.committed sid s a).db (.user id) = _ from hnew.row]; rfl, ?_⟩
      rw [hnew.new]
      simp
    refine hd.changed hnew.row hnew.others fun id' account' hid hrow => ?_
    exact h.unused_address hl hk hc hwrites hnone (fun id' user _ => hp id' user)
      (hnew.free _ (User.email_mem_keys.2 rfl)) (fun w₁ w₂ sid' s' a' => hcross w₁ w₂ sid' s' a' _)
      (fun id' account' hid hrow => hhidden id _ id' account' hwrites hid hrow) hid hrow
  rcases (h.changes hc).accounts with hstep | ⟨_, hrows, _⟩
  · cases hstep with
    | created actorId id data actor hr hactor hadmin hvalid hunused hnew =>
      exact hinserted hnew hunused fun id' user hsame => beq_iff_eq.2 (hsame.trans (cfg.lower_lower _))
    | bootstrapped id data hr hbound hadmin hunused hnew =>
      refine hinserted hnew hunused fun id' user hsame => ?_
      rw [Bool.or_eq_true]
      exact .inl (beq_iff_eq.2 (hsame.trans (cfg.lower_lower _)))
    | registered id data hr hallowed htype hunused hnew =>
      exact hinserted hnew hunused fun id' user hsame => beq_iff_eq.2 hsame
    | provisioned claims id email user verified hr hemail haddress htype hsub hunused hnew =>
      have hlower : cfg.lower email = email := Request.address_lower (r := .signIn claims) hemail (by simp)
      refine hinserted hnew hunused fun id' user hsame => ?_
      exact beq_iff_eq.2 (hsame.trans ((congrArg cfg.lower haddress).trans hlower))
    | edited actorId id data actor account hr hactor hadmin hdata hedit =>
      refine hd.changed hedit.row hedit.others fun id' account' hid hrow hsame => ?_
      by_cases hemail : (data.fields cfg).email = account.user.email
      · exact hid (hd id' id account' account hrow hedit.found (hemail ▸ hsame))
      · have hwrites : WritesAddress w sid s a id (data.fields cfg).email := by
          refine ⟨by rw [show (w.committed sid s a).db (.user id) = _ from hedit.row]; rfl, ?_⟩
          rw [hedit.found]
          exact fun heq => hemail (Option.some.inj heq).symm
        refine h.unused_address hl hk hc hwrites hdata.unused
          (fun id' user hne hlower => ?_) (hedit.free _ (User.email_mem_keys.2 rfl) (mt User.email_mem_keys.1 hemail))
          (fun w₁ w₂ sid' s' a' => hcross w₁ w₂ sid' s' a' _)
          (fun id' account' hid hrow => hhidden id _ id' account' hwrites hid hrow) hid hrow hsame
        rw [Bool.and_eq_true]
        exact ⟨beq_iff_eq.2 (hlower.trans (cfg.lower_lower _)), bne_iff_ne.2 hne⟩
    | roleChanged actorId id courtId data actor account hr hactor hdata hedit =>
      refine hd.changed hedit.row hedit.others fun id' account' hid hrow hsame => ?_
      exact hid (hd id' id account' account hrow hedit.found hsame)
    | linked claims id existing account verified hr hseen hunbound hplain hlock hlast hedit =>
      refine hd.changed hedit.row hedit.others fun id' account' hid hrow hsame => ?_
      exact hid (hd id' id account' account hrow hedit.found hsame)
    | synced claims id verified hr hrow hframe =>
      refine hkeep fun id' account hrow' => ?_
      by_cases hid : id' = id
      · subst hid
        rw [show (w.committed sid s a).db (.user id') = _ from hrow] at hrow'
        obtain ⟨before, hbefore, rfl⟩ := Option.map_eq_some_iff.1 hrow'
        exact ⟨before, hbefore, rfl⟩
      · exact ⟨account, (hframe (.user id') (by simpa using hid)) ▸ hrow', rfl⟩
  · exact hkeep fun id account hrow => ⟨account, hrows id ▸ hrow, rfl⟩

end Check

/-! ## The law -/

/-- `select(User).where(func.lower(User.email) == ...)` -/
def accountsWith (cfg : Settings) (db : Store) (email : String) : List UserId :=
  (db .userIds).filter fun id => (db (.user id)).any fun account => cfg.lowerSql account.user.email == email

/-- **Where no two writers cross and no address is hidden from a writer, no two accounts have addresses that are equal
up to letter case, and a lookup by address finds at most one.** -/
theorem Run.addresses_kept (h : Run cfg w₀ w) (hl : Listed w₀.db) (hk : AddressKeyed w₀.db) (hd : Distinct cfg w₀.db)
    (hcross : NeverCrossed cfg w₀ w) (hhidden : NeverHidden cfg w₀ w) :
    Distinct cfg w.db ∧ ∀ email, (accountsWith cfg w.db email).length ≤ 1 := by
  have hdistinct : Distinct cfg w.db := by
    obtain ⟨hstart, hsteps⟩ := h
    induction hsteps with
    | refl => exact hd
    | @tail w w' hsteps hs ih =>
      have hkept := ih (hcross.before (.single hs)) (hhidden.before (.single hs))
      rcases table_step hs with heq | ⟨sid, s, a, hc, rfl⟩
      · intro i j account₁ account₂ h₁ h₂
        rw [heq _ (by simp)] at h₁ h₂
        exact hkept i j account₁ account₂ h₁ h₂
      · exact Run.distinct_commit ⟨hstart, hsteps⟩ hl hk hkept hc
          (fun w₁ w₂ sid' s' a' email email' hs₁ => hcross w₁ w₂ w sid s a sid' s' a' email email' hs₁ hc .refl)
          (fun id email id' account hwrites => hhidden w sid s a id email id' account hsteps hc .refl hwrites)
  refine ⟨hdistinct, fun email => ?_⟩
  have hnodup : (accountsWith cfg w.db email).Nodup := (h.listed hl).nodup.filter _
  have hone : ∀ id ∈ accountsWith cfg w.db email, ∃ account, w.db (.user id) = some account ∧
      cfg.lowerSql account.user.email = email := by
    intro id hid
    obtain ⟨account, hrow, hemail⟩ := (Option.any_eq_true _ _).1 (List.mem_filter.1 hid).2
    exact ⟨account, hrow, beq_iff_eq.1 hemail⟩
  match hfound : accountsWith cfg w.db email with
  | [] | [_] => simp
  | i :: j :: rest =>
    rw [hfound] at hone hnodup
    obtain ⟨account₁, h₁, hemail₁⟩ := hone i (by simp)
    obtain ⟨account₂, h₂, hemail₂⟩ := hone j (by simp)
    have hsame := hdistinct i j account₁ account₂ h₁ h₂ (.inr (hemail₁.trans hemail₂.symm))
    simp [hsame] at hnodup

theorem NeverCrossed.of_lower (h : Run cfg w₀ w) (hlower : ∀ sid s data, w.sessions sid = some s →
    s.request = .registerUser data → cfg.lower data.email = data.email) : NeverCrossed cfg w₀ w := by
  intro w₁ w₂ w₃ sid s a sid' s' a' email email' hs₁ hc hs₂ hcross
  have hlater : Steps (portal cfg) (w₂.committed sid' s' a') w :=
    (hcross.after.tail (.commit sid s a hc)).trans hs₂
  rcases Run.crosses_registration ⟨h.start, hs₁⟩ hcross hc with ⟨data, hr, hupper⟩ | ⟨data, hr, hupper⟩
  · exact hupper (hlower sid _ data (hs₂.ended (committed_session w₃ sid s a) (by simp)) hr)
  · exact hupper (hlower sid' _ data (hlater.ended (committed_session w₂ sid' s' a') (by simp)) hr)

/-- The program and the database agree on the lower case of every address. -/
def Alike (cfg : Settings) (db : Store) : Prop :=
  ∀ id account, db (.user id) = some account → cfg.lowerSql account.user.email = cfg.lower account.user.email

theorem Run.alike_commit (h : Run cfg w₀ w) {sid : Nat} {s : Session View Failure Response Request} {a : Response}
    (hc : Commits (portal cfg) w sid s a) {email : String} (hwrites : WritesAddress w sid s a id email)
    (hregistered : ∀ data, s.request = .registerUser data → cfg.lowerSql data.email = cfg.lower data.email) :
    cfg.lowerSql email = cfg.lower email := by
  have haddress := h.address hc hwrites
  by_cases hlower : cfg.lower email = email
  · have hsql := cfg.lowerSql_lower email
    rw [hlower] at hsql ⊢
    exact hsql
  · obtain ⟨data, hr, rfl⟩ := Request.address_registered haddress hlower
    exact hregistered data hr

/-- **No address is hidden where the program and the database agree on those of the first accounts and of all
registrations.** -/
theorem NeverHidden.of_alike (h : Run cfg w₀ w) (halike : Alike cfg w₀.db) (hregistered : ∀ sid s data,
    w.sessions sid = some s → s.request = .registerUser data → cfg.lowerSql data.email = cfg.lower data.email) :
    NeverHidden cfg w₀ w := by
  have hkept : ∀ w₁, Steps (portal cfg) w₀ w₁ → Steps (portal cfg) w₁ w → Alike cfg w₁.db := by
    intro w₁ hs
    induction hs with
    | refl => exact fun _ => halike
    | @tail w₁ w₂ hs hstep ih =>
      intro hlater id account hrow
      have hthis : Steps (portal cfg) w₁ w₂ := .single hstep
      have hbefore := ih (hthis.trans hlater)
      rcases table_step hstep with heq | ⟨sid, s, a, hc, rfl⟩
      · rw [heq (.user id) (by simp)] at hrow
        exact hbefore id account hrow
      · by_cases hold : (w₁.db (.user id)).map (·.user.email) = some account.user.email
        · obtain ⟨account', hrow', hemail⟩ := Option.map_eq_some_iff.1 hold
          rw [← hemail]
          exact hbefore id account' hrow'
        · exact Run.alike_commit ⟨h.start, hs⟩ hc ⟨by rw [hrow]; rfl, hold⟩ fun data hr =>
            hregistered sid _ data (hlater.ended (committed_session w₁ sid s a) (by simp)) hr
  intro w₁ sid s a id email id' account hs₁ hc hs₂ hwrites hid hrow hhidden
  have hthis : Steps (portal cfg) w₁ (w₁.committed sid s a) := .single (.commit sid s a hc)
  have hnew := Run.alike_commit ⟨h.start, hs₁⟩ hc hwrites fun data hr =>
    hregistered sid _ data (hs₂.ended (committed_session w₁ sid s a) (by simp)) hr
  have hold := hkept w₁ hs₁ (hthis.trans hs₂) id' account hrow
  refine hhidden.missed ?_
  rcases hhidden.same with hsame | hsame
  · exact hold.trans hsame
  · exact hsame.trans hnew

/-! ## Two registrations -/

def openSettings : Settings := { Settings.demo with allowPublicRegistration := true }

def registration (email : String) : Request := .registerUser { email, firstName := "Ann", lastName := "Archer" }

/-- A person registers, and her first sign-in is linked to the account; the administrator opens another one. -/
def openRequests : List (Instant × Request) := [
  (1000, registration "ann@example.org"),
  (2000, .signIn { sub := "s1", email := some "Ann@example.org", emailVerified := true }),
  (3000, .createAccount 3 {
    firstName := "Bob", lastName := "Baker", email := "Bob@example.org", userType := .attorney
    reason := "Admitted", verified := by simp })]

def openWorld : PortalWorld := smallWorld.serveAll (portal openSettings) 0 openRequests

theorem smallAccount_cases {account : Account} (h : smallWorld.db (.user id) = some account) :
    (id = 1 ∧ account.user.email = "filer@example.org") ∨ (id = 2 ∧ account.user.email = "clerk@example.org") ∨
      (id = 3 ∧ account.user.email = "admin@example.org") := by
  simp only [smallWorld, smallStore, smallAccount] at h
  split_ifs at h with h₁ h₂ h₃ <;> cases h
  · exact .inl ⟨h₁, rfl⟩
  · exact .inr (.inl ⟨h₂, rfl⟩)
  · exact .inr (.inr ⟨h₃, rfl⟩)

theorem smallWorld_keyed : AddressKeyed smallWorld.db := by
  intro email id
  constructor
  · intro h
    have hfound : [1, 2, 3].find? (fun id => (smallAccount id).any (·.user.email == email)) = some id := h
    have howner : (smallAccount id).any (·.user.email == email) = true :=
      List.find?_some (p := fun id => (smallAccount id).any (·.user.email == email)) hfound
    obtain ⟨account, hrow, hemail⟩ := (Option.any_eq_true _ _).1 howner
    exact ⟨account, hrow, beq_iff_eq.1 hemail⟩
  · rintro ⟨account, hrow, rfl⟩
    rcases smallAccount_cases hrow with ⟨rfl, hemail⟩ | ⟨rfl, hemail⟩ | ⟨rfl, hemail⟩ <;> rw [hemail] <;> decide

theorem openSettings_sameAddress {email email' : String} :
    SameAddress openSettings email email' ↔ openSettings.lower email = openSettings.lower email' := or_self_iff

theorem smallWorld_distinct : Distinct openSettings smallWorld.db := by
  intro i j account₁ account₂ h₁ h₂ hsame
  rw [openSettings_sameAddress] at hsame
  have hother : openSettings.lower "filer@example.org" ≠ openSettings.lower "clerk@example.org" ∧
      openSettings.lower "filer@example.org" ≠ openSettings.lower "admin@example.org" ∧
      openSettings.lower "clerk@example.org" ≠ openSettings.lower "admin@example.org" := by decide +kernel
  rcases smallAccount_cases h₁ with ⟨rfl, hemail₁⟩ | ⟨rfl, hemail₁⟩ | ⟨rfl, hemail₁⟩ <;>
    rcases smallAccount_cases h₂ with ⟨rfl, hemail₂⟩ | ⟨rfl, hemail₂⟩ | ⟨rfl, hemail₂⟩ <;>
    rw [hemail₁, hemail₂] at hsame <;> simp_all

def Request.inLowerCase : Request → Bool
  | .registerUser data => openSettings.lower data.email == data.email
  | _ => true

theorem openWorld_served : smallWorld.servable (portal openSettings) 0 openRequests = true ∧
    (∀ sid < 3, (openWorld.sessions sid).all (fun s => s.request.inLowerCase) = true) ∧
    accountsWith openSettings openWorld.db "ann@example.org" = [10] ∧
    accountsWith openSettings openWorld.db "bob@example.org" = [11] := by decide +kernel

theorem openWorld_run : Run openSettings smallWorld openWorld := Run.serveAll smallWorld_initial openWorld_served.1

theorem openWorld_lower {sid : Nat} {s : Session View Failure Response Request} (hs : openWorld.sessions sid = some s) :
    s.request.inLowerCase = true := by
  by_cases hsid : sid < 3
  · have hlower := openWorld_served.2.1 sid hsid
    rw [hs] at hlower
    exact hlower
  · have hcalm : openWorld.Calm (0 + 3) [] := World.serveAll_calm smallWorld_initial.idle.calm
    rw [hcalm.unused sid (by omega)] at hs
    cases hs

/-- The registered account and the one that was opened for Bob have their addresses to themselves. -/
theorem openWorld_addresses : (Distinct openSettings openWorld.db ∧
    ∀ email, (accountsWith openSettings openWorld.db email).length ≤ 1) ∧
    accountsWith openSettings openWorld.db "ann@example.org" = [10] ∧
    accountsWith openSettings openWorld.db "bob@example.org" = [11] := by
  refine ⟨Run.addresses_kept openWorld_run smallWorld_listed smallWorld_keyed smallWorld_distinct
    (.of_lower openWorld_run ?_) (.of_alike openWorld_run (fun _ _ _ => rfl) fun _ _ _ _ _ => rfl),
    openWorld_served.2.2⟩
  intro sid s data hs hr
  have hlower := openWorld_lower hs
  rw [hr] at hlower
  exact beq_iff_eq.1 hlower

def annPart : Trace × Portal Response :=
  ((portal openSettings).program (registration "Ann@example.org")).opening (portal openSettings).row 1000
    smallWorld.db 4

def pausedAnn : PortalWorld := smallWorld.pause (portal openSettings) 0 1000 4 (registration "Ann@example.org")

def annRegistered : PortalWorld := pausedAnn.serve (portal openSettings) 1 2000 (registration "ann@example.org")

theorem pausedAnn_steps : Steps (portal openSettings) smallWorld pausedAnn ∧
    ((portal openSettings).program (registration "Ann@example.org")).After annPart.1 annPart.2 :=
  World.pause_steps smallWorld_initial.idle.calm 1000 4 _ fun _ _ => List.not_mem_nil

/-- The world in which the first registration goes on to its end. -/
def annResumed : PortalWorld :=
    annRegistered.resume (portal openSettings) 0 3000 (registration "Ann@example.org") annPart

theorem annResumed_served :
    (((portal openSettings).program (registration "ann@example.org")).alone (portal openSettings).row
      2000 pausedAnn.db pausedAnn.next).sound = true ∧
    (∀ g ∈ claimed (((portal openSettings).program (registration "ann@example.org")).alone (portal openSettings).row
      2000 pausedAnn.db pausedAnn.next).trace, g ∉ claimed annPart.1) ∧
    (annPart.2.alone (portal openSettings).row 3000 annRegistered.db annRegistered.next).sound = true ∧
    (annPart.2.alone (portal openSettings).row 3000 annRegistered.db annRegistered.next).result.isOk = true ∧
    (annResumed.db (.user 10)).any (fun account => account.user.email == "ann@example.org") = true ∧
    (annResumed.db (.user 11)).any (fun account => account.user.email == "Ann@example.org") = true ∧
    openSettings.lower "ann@example.org" = openSettings.lower "Ann@example.org" := by decide +kernel

theorem annRegistered_steps : Steps (portal openSettings) pausedAnn annRegistered :=
  World.serve_steps (World.pause_calm smallWorld_initial.idle.calm 1000 4 _) annResumed_served.1 annResumed_served.2.1

/-- **Two registrations that cross leave two accounts whose addresses differ in letter case only.** -/
theorem annTwice : ∃ w, Run openSettings smallWorld w ∧ ¬ Distinct openSettings w.db := by
  obtain ⟨-, -, hok, hanswer, hfirst, hsecond, hlower⟩ := annResumed_served
  have hcalm : annRegistered.CalmBut 0 [] := (smallWorld_initial.idle.calm.but 0).put
    (s := ⟨registration "Ann@example.org", annPart.1, .running⟩) rfl |>.serve 2000 _
  have hfound : annRegistered.sessions 0 = some ⟨registration "Ann@example.org", annPart.1, .running⟩ := rfl
  cases hr : (annPart.2.alone (portal openSettings).row 3000 annRegistered.db annRegistered.next).result with
  | error x =>
    rw [hr] at hanswer
    cases hanswer
  | ok a =>
    obtain ⟨w, s, hsteps, hc, hresume, hreq, _, hdb⟩ := World.resume_commits hcalm hfound pausedAnn_steps.2 hok hr
    have hstart : Run openSettings smallWorld smallWorld := ⟨smallWorld_initial, .refl⟩
    have hrun := ((hstart.trans pausedAnn_steps.1).trans annRegistered_steps).trans hsteps
    have hresumed : annResumed = w.committed 0 s a := hresume
    refine ⟨w.committed 0 s a, hrun.tail (.commit 0 s a hc), fun hdistinct => ?_⟩
    rw [hresumed] at hfirst hsecond
    obtain ⟨account₁, hrow₁, hemail₁⟩ := (Option.any_eq_true _ _).1 hfirst
    obtain ⟨account₂, hrow₂, hemail₂⟩ := (Option.any_eq_true _ _).1 hsecond
    have hsame := hdistinct 10 11 account₁ account₂ hrow₁ hrow₂
      (by rw [beq_iff_eq.1 hemail₁, beq_iff_eq.1 hemail₂, openSettings_sameAddress, hlower])
    cases hsame

/-! ## A hidden address -/

def lowerUmlaut (text : String) : String := String.ofList (text.toList.map fun c => if c = 'Ö' then 'ö' else c.toLower)

theorem toLower_ne_umlaut {c : Char} (hc : c ≠ 'Ö') : c.toLower ≠ 'Ö' := by
  intro heq
  by_cases h : c.val ≥ 'A'.val ∧ c.val ≤ 'Z'.val
  · have hval := toLower_toNat h
    have hcode : 'Ö'.val.toNat = 214 := rfl
    rw [heq] at hval
    omega
  · exact hc ((show c.toLower = c from dif_neg h).symm.trans heq)

theorem lowerUmlaut_lowerUmlaut (text : String) : lowerUmlaut (lowerUmlaut text) = lowerUmlaut text := by
  unfold lowerUmlaut
  rw [String.toList_ofList, List.map_map]
  refine congrArg String.ofList (List.map_congr_left fun c _ => ?_)
  by_cases hc : c = 'Ö'
  · subst hc
    decide
  · simp only [Function.comp_apply, if_neg hc, if_neg (toLower_ne_umlaut hc), toLower_toLower]

theorem lowerAscii_lowerUmlaut (text : String) : lowerAscii (lowerUmlaut text) = lowerUmlaut text := by
  unfold lowerAscii lowerUmlaut
  rw [String.toList_ofList, List.map_map]
  refine congrArg String.ofList (List.map_congr_left fun c _ => ?_)
  by_cases hc : c = 'Ö'
  · subst hc
    decide
  · simp only [Function.comp_apply, if_neg hc, toLower_toLower]

/-- Self-registration on a database whose `lower` knows ASCII only. -/
def umlautSettings : Settings := { openSettings with
  lower := lowerUmlaut
  lowerSql := lowerAscii
  lower_lower := lowerUmlaut_lowerUmlaut
  lowerSql_lower := lowerAscii_lowerUmlaut }

def umlautWorld : PortalWorld := smallWorld.serveAll (portal umlautSettings) 0
  [(1000, registration "Ömer@example.org"), (2000, registration "ömer@example.org")]

theorem umlautWorld_served : smallWorld.servable (portal umlautSettings) 0
      [(1000, registration "Ömer@example.org"), (2000, registration "ömer@example.org")] = true ∧
    (umlautWorld.db (.user 10)).any (fun account => account.user.email == "Ömer@example.org") = true ∧
    (umlautWorld.db (.user 11)).any (fun account => account.user.email == "ömer@example.org") = true ∧
    umlautSettings.lower "Ömer@example.org" = umlautSettings.lower "ömer@example.org" := by decide +kernel

/-- **A hidden address is registered twice,** one request after the other. -/
theorem umlautTwice : Run umlautSettings smallWorld umlautWorld ∧ ¬ Distinct umlautSettings umlautWorld.db := by
  obtain ⟨hserved, hfirst, hsecond, hlower⟩ := umlautWorld_served
  refine ⟨Run.serveAll smallWorld_initial hserved, fun hdistinct => ?_⟩
  obtain ⟨account₁, hrow₁, hemail₁⟩ := (Option.any_eq_true _ _).1 hfirst
  obtain ⟨account₂, hrow₂, hemail₂⟩ := (Option.any_eq_true _ _).1 hsecond
  have hsame := hdistinct 10 11 account₁ account₂ hrow₁ hrow₂
    (.inl (by rw [beq_iff_eq.1 hemail₁, beq_iff_eq.1 hemail₂, hlower]))
  cases hsame

end Muefs
