import Muefs.Steps.Acts
import Muefs.Steps.Persistence

/-!
# Accounts along a run

* `AccountRow` : what a step does to the row of one account;
* `AccountStep.row`, `Run.account_step` : every change of the row is one of these;
* `Run.account_since` : a property of an account that every change keeps;
* `Listed` : the table lists each account once.
-/

namespace Muefs
open RowLocks

variable {cfg : Settings} {w₀ w w' : PortalWorld}

/-- The events that a new account comes with. -/
inductive OpeningEvents (id : UserId) (user : User) : List AccountEvent → Prop where
  | none : OpeningEvents id user []
  | created (actorId : UserId) (actorName reason : String) :
      OpeningEvents id user [.created actorId actorName reason (accountSnapshot id user)]
  | bootstrapped (reason : String) : OpeningEvents id user [.bootstrapped reason (accountSnapshot id user)]

/-- **What a step does to the row of one account.** -/
inductive AccountRow (cfg : Settings) (r : Request) (db : Store) (tr : Trace) (id : UserId) :
    Option Account → Option Account → Prop where
  | same (row : Option Account) : AccountRow cfg r db tr id row row
  | opened (account : Account) (hroles : account.roles = []) (hevents : OpeningEvents id account.user account.events) :
      AccountRow cfg r db tr id none (some account)
  | edited (actorId : UserId) (data : AccountUpdate) (actor account : Account)
      (hr : r = .updateAccount actorId id data) (hactor : SignedIn cfg db tr actorId actor)
      (hadmin : actor.user.IsSystemAdministrator) (hdata : Admissible cfg tr actorId id data account) :
      AccountRow cfg r db tr id (some account) (some (account.edited id actorId actor.user.fullName data.reason
        (data.fields cfg) (data.expectedVersion + 1)))
  | roleChanged (actorId : UserId) (courtId : CourtId) (data : CourtRoleChange) (actor account : Account)
      (hr : r = .changeCourtRole actorId id courtId data) (hactor : SignedIn cfg db tr actorId actor)
      (hdata : Assignable cfg actorId id courtId data actor account) :
      AccountRow cfg r db tr id (some account) (some (account.withRole actorId actor.user.fullName courtId data))
  | linked (claims : Claims) (existing account : Account) (verified : Option String) (hr : r = .signIn claims)
      (hseen : ⟨.look (.user id), some existing⟩ ∈ tr) (hunbound : existing.user.keycloakId = none)
      (hplain : existing.user.isPrivileged = false) (hlock : ⟨.lock .update (.user id), some account⟩ ∈ tr)
      (hlast : LastRead tr id existing) :
      AccountRow cfg r db tr id (some account) (some ((account.linked cfg existing.user claims).withVerified verified))
  | synced (claims : Claims) (account : Account) (verified : Option String) (hr : r = .signIn claims) :
      AccountRow cfg r db tr id (some account) (some (account.withVerified verified))

theorem AccountInserted.accountRow {r : Request} {db db' : Store} {tr : Trace} {id id' : UserId} {account : Account}
    (h : AccountInserted db db' id account) (hroles : account.roles = [])
    (hevents : OpeningEvents id account.user account.events) :
    AccountRow cfg r db tr id' (db (.user id')) (db' (.user id')) := by
  by_cases hid : id' = id
  · rw [hid, h.new, h.row]
    exact .opened account hroles hevents
  · rw [h.others id' hid]
    exact .same _

theorem AccountUpdated.accountRow {r : Request} {db db' : Store} {tr : Trace} {id id' : UserId} {before after : Account}
    (h : AccountUpdated db db' id before after) (hrow : AccountRow cfg r db tr id (some before) (some after)) :
    AccountRow cfg r db tr id' (db (.user id')) (db' (.user id')) := by
  by_cases hid : id' = id
  · rw [hid, h.found, h.row]
    exact hrow
  · rw [h.others id' hid]
    exact .same _

theorem AccountStep.row {r : Request} {db db' : Store} {tr : Trace} (h : AccountStep cfg r db db' tr) (id : UserId) :
    AccountRow cfg r db tr id (db (.user id)) (db' (.user id)) := by
  cases h with
  | created actorId _ data actor hr hactor hadmin hvalid hunused h => exact h.accountRow rfl (.created _ _ _)
  | bootstrapped _ data hr hbound hadmin hunused h => exact h.accountRow rfl (.bootstrapped _)
  | registered _ data hr hallowed htype hunused h => exact h.accountRow rfl .none
  | provisioned claims _ email user verified hr hemail haddress htype hsub hunused h => exact h.accountRow rfl .none
  | edited actorId _ data actor account hr hactor hadmin hdata h =>
    exact h.accountRow (.edited actorId data actor account hr hactor hadmin hdata)
  | roleChanged actorId _ courtId data actor account hr hactor hdata h =>
    exact h.accountRow (.roleChanged actorId courtId data actor account hr hactor hdata)
  | linked claims _ existing account verified hr hseen hunbound hplain hlock hlast h =>
    exact h.accountRow (.linked claims existing account verified hr hseen hunbound hplain hlock hlast)
  | synced claims id' verified hr hrow hframe =>
    by_cases hid : id = id'
    · subst hid
      rw [hrow]
      cases db (.user id) with
      | none => exact .same _
      | some account => exact .synced claims account verified hr
    · rw [hframe (.user id) (by simpa using hid)]
      exact .same _

theorem Run.account_commit (h : Run cfg w₀ w) {sid : Nat} {s : Session View Failure Response Request} {a : Response}
    (hc : Commits (portal cfg) w sid s a) (id : UserId) :
    AccountRow cfg s.request w.db s.trace id (w.db (.user id)) ((w.committed sid s a).db (.user id)) := by
  rcases h.changes hc (.user id) with heq | hstep
  · rw [show (w.committed sid s a).db (.user id) = w.db (.user id) from heq]
    exact .same _
  · exact AccountStep.row hstep id

theorem Run.account_step (h : Run cfg w₀ w) (hs : Step (portal cfg) w w') (id : UserId) :
    w'.db (.user id) = w.db (.user id) ∨ ∃ sid s a, Commits (portal cfg) w sid s a ∧ w' = w.committed sid s a ∧
      AccountRow cfg s.request w.db s.trace id (w.db (.user id)) (w'.db (.user id)) := by
  rcases Run.step_cases hs with heq | ⟨sid, s, a, hc, rfl⟩
  · exact .inl (heq _ rfl)
  · exact .inr ⟨sid, s, a, hc, rfl, h.account_commit hc id⟩

/-- **A property that an account has in one world and every change keeps, it has in every later world.** -/
theorem Run.account_since {I : Account → Prop} (h : Run cfg w₀ w) {id : UserId} {account : Account}
    (hrow : w.db (.user id) = some account) (h₀ : I account)
    (hstep : ∀ w₁ sid s a before after, Run cfg w₀ w₁ → Steps (portal cfg) w w₁ → Commits (portal cfg) w₁ sid s a →
      I before → AccountRow cfg s.request w₁.db s.trace id (some before) (some after) → I after)
    (hs : Steps (portal cfg) w w') : ∃ account', w'.db (.user id) = some account' ∧ I account' := by
  refine h.row_since (g := .user id) rfl (I := fun row => ∃ account, row = some account ∧ I account)
    ⟨account, hrow, h₀⟩ ?_ hs
  rintro w₁ sid s a hrun hs₁ hc ⟨before, hbefore, hI⟩ hchange
  have hrow := AccountStep.row hchange id
  rw [hbefore] at hrow
  cases hafter : commit s.trace w₁.db (.user id) with
  | none =>
    rw [hafter] at hrow
    cases hrow
  | some after =>
    rw [hafter] at hrow
    exact ⟨after, rfl, hstep w₁ sid s a before after hrun hs₁ hc hI hrow⟩

/-! ## The table -/

theorem Changes.accounts {r : Request} {db : Store} {tr : Trace} (h : Changes cfg r db tr) :
    AccountStep cfg r db (commit tr db) tr ∨ (commit tr db .userIds = db .userIds ∧
      (∀ id, commit tr db (.user id) = db (.user id)) ∧ ∀ key, commit tr db (.accountKey key) =
      db (.accountKey key)) := by
  by_cases hstep : AccountStep cfg r db (commit tr db) tr
  · exact .inl hstep
  · exact .inr ⟨(h .userIds).resolve_right hstep, fun id => (h (.user id)).resolve_right hstep,
      fun key => (h (.accountKey key)).resolve_right hstep⟩

/-- The table lists each account once. -/
structure Listed (db : Store) : Prop where
  nodup : (db .userIds).Nodup
  mem : ∀ id, id ∈ db .userIds ↔ (db (.user id)).isSome = true

theorem AccountInserted.listed_kept {db db' : Store} {id : UserId} {account : Account}
    (h : AccountInserted db db' id account) (hl : Listed db) : Listed db' where
  nodup := by
    have hnot : id ∉ db .userIds := by
      rw [hl.mem, h.new]
      simp
    rw [h.listed, List.nodup_append]
    refine ⟨hl.nodup, List.nodup_singleton _, fun a ha b hb => ?_⟩
    rintro rfl
    exact hnot (List.mem_singleton.1 hb ▸ ha)
  mem id' := by
    rw [h.listed, List.mem_append, List.mem_singleton, hl.mem]
    by_cases hid : id' = id
    · subst hid
      simp [h.row]
    · simp [h.others id' hid, hid]

theorem AccountUpdated.listed_kept {db db' : Store} {id : UserId} {before after : Account}
    (h : AccountUpdated db db' id before after) (hl : Listed db) : Listed db' := by
  have hids : db' .userIds = db .userIds := h.frame _ (by simp) (by simp)
  refine ⟨hids ▸ hl.nodup, fun id' => ?_⟩
  rw [hids, hl.mem]
  by_cases hid : id' = id
  · subst hid
    rw [h.found, h.row]
    rfl
  · rw [h.others id' hid]

theorem AccountStep.listed_kept {r : Request} {db db' : Store} {tr : Trace} (h : AccountStep cfg r db db' tr)
    (hl : Listed db) : Listed db' := by
  cases h with
  | created _ _ _ _ _ _ _ _ _ h | bootstrapped _ _ _ _ _ _ h | registered _ _ _ _ _ _ h
  | provisioned _ _ _ _ _ _ _ _ _ _ _ h => exact h.listed_kept hl
  | edited _ _ _ _ _ _ _ _ _ h | roleChanged _ _ _ _ _ _ _ _ _ h | linked _ _ _ _ _ _ _ _ _ _ _ h =>
    exact h.listed_kept hl
  | synced claims id verified hr hrow hframe =>
    have hids : db' .userIds = db .userIds := hframe _ (by simp)
    refine ⟨hids ▸ hl.nodup, fun id' => ?_⟩
    rw [hids, hl.mem]
    by_cases hid : id' = id
    · subst hid
      rw [hrow, Option.isSome_map]
    · rw [hframe (.user id') (by simpa using hid)]

theorem table_step (hs : Step (portal cfg) w w') : (∀ g, (∀ key, g ≠ .object key) → w'.db g = w.db g) ∨
    ∃ sid s a, Commits (portal cfg) w sid s a ∧ w' = w.committed sid s a := by
  rcases hs.db_cases with heq | ⟨sid, s, g, f, _, _, _, ⟨q, hq⟩, hdb⟩ | hc
  · exact .inl fun g _ => by rw [heq]
  · refine .inl fun g' hg' => ?_
    have hact := (program_ordinary fun _ h => h).after hq ⟨.act g f, ()⟩ (by simp)
    cases g with
    | object key => rw [hdb, Function.update_of_ne (hg' key)]
    | _ => exact hact.elim
  · exact .inr hc

/-- **A property of the accounts as a whole that every commit keeps holds later.** -/
theorem Run.table_since {I : Store → Prop} (h : Run cfg w₀ w) (h₀ : I w.db)
    (hobjects : ∀ db db' : Store, (∀ g, (∀ key, g ≠ .object key) → db' g = db g) → I db → I db')
    (hstep : ∀ w₁ sid s a, Run cfg w₀ w₁ → Steps (portal cfg) w w₁ → Commits (portal cfg) w₁ sid s a → I w₁.db →
      Changes cfg s.request w₁.db s.trace → I (commit s.trace w₁.db))
    (hs : Steps (portal cfg) w w') : I w'.db := by
  induction hs with
  | refl => exact h₀
  | @tail w₁ w₂ hs h₁ ih =>
    have hrun := h.trans hs
    rcases table_step h₁ with heq | ⟨sid, s, a, hc, rfl⟩
    · exact hobjects _ _ heq ih
    · exact hstep _ _ _ _ hrun hs hc ih (hrun.changes hc)

theorem Run.listed (h : Run cfg w₀ w) (hl : Listed w₀.db) : Listed w.db := by
  refine Run.table_since ⟨h.start, .refl⟩ hl (fun db db' heq hl => ?_) (fun w₁ sid s a _ _ _ hl hchanges => ?_) h.steps
  · have hids : db' .userIds = db .userIds := heq _ (by simp)
    exact ⟨hids ▸ hl.nodup, fun id => by rw [hids, heq (.user id) (by simp), hl.mem]⟩
  · rcases hchanges.accounts with hstep | ⟨hids, hrows, _⟩
    · exact hstep.listed_kept hl
    · exact ⟨hids ▸ hl.nodup, fun id => by rw [hids, hrows, hl.mem]⟩

end Muefs
