import Muefs.Deliveries.Tokens
import Muefs.Locking.Deliveries
import Muefs.RowLocks.Waiting

/-!
# Row locks and deadlocks

* `OwnCaseTypes`, `homeOf` : courts list case types of their own, and a case type stays at its court
  (`SignedRun.atHome`);
* `InOrder` : sessions but those of three kinds; `Waits` : a session asks for a row lock that another one has;
* `Early` : what a session holds when it asks for an account or a filing;
* `SignedRun.deadlock_free` : no session waits for itself, every chain of waits ends, and accounts and filings come
  early;
* `benEdits_deadlock` : two edits deadlock where the sign-in has locked the row of its administrator.
-/

namespace Muefs
open RowLocks Txn

variable {cfg : Settings} {w₀ w w' : SignedWorld}

/-! ## Case types -/

def OwnCaseTypes (db : BothStore) : Prop :=
  ∀ courtId, ∀ id ∈ db (.inl (.courtCaseTypes courtId)),
    ∃ caseType, db (.inl (.caseType id)) = some caseType ∧ caseType.courtId = courtId

def homeOf (db : BothStore) (id : CaseTypeId) : CourtId := ((db (.inl (.caseType id))).map CaseType.courtId).getD 0

theorem OwnCaseTypes.atHome {db : BothStore} (h : OwnCaseTypes db) (g : BothRow) : BothAtHome (homeOf db) g (db g) := by
  rcases g with g | g
  · cases g with
    | caseType id =>
      intro caseType hrow
      simp [homeOf, hrow]
    | courtCaseTypes courtId =>
      intro id hid
      obtain ⟨caseType, hrow, hcourt⟩ := h courtId id hid
      simp [homeOf, hrow, hcourt]
    | _ => trivial
  · trivial

/-- A run of requests with their tokens, from a world without sessions. -/
structure SignedRun (cfg : Settings) (w₀ w : SignedWorld) : Prop where
  idle : w₀.Idle
  ownCaseTypes : OwnCaseTypes w₀.db
  steps : Steps (signedPortal cfg) w₀ w

theorem SignedRun.guarded (h : SignedRun cfg w₀ w) : Guarded (signedPortal cfg) w :=
  Steps.guarded h.idle.guarded h.steps

/-- **Case types stay at their courts,** and whatever a session has read of them says so. -/
theorem SignedRun.atHome (h : SignedRun cfg w₀ w) : (∀ g, BothAtHome (homeOf w₀.db) g (w.db g)) ∧
    ∀ sid s, w.sessions sid = some s → ∀ e ∈ s.trace, e.Reads (BothAtHome (homeOf w₀.db)) := by
  refine Steps.known h.idle h.ownCaseTypes.atHome (fun w₁ w₂ hsteps hstep hdb hreads => ?_) h.steps
  rcases signedPortal_step hstep with heq | ⟨sid, s, a, hc, rfl⟩
  · intro g
    by_cases hobject : isObject g = true
    · rcases g with g | g
      · cases g with
        | object => trivial
        | _ => cases hobject
      · trivial
    · rw [heq g (Bool.eq_false_of_not_eq_true hobject)]
      exact hdb g
  · obtain ⟨tr₁, tr₂, htrace, hspares, hends⟩ := signedProgram_ends hc.ends
    have hcurrent := (Steps.guarded h.idle.guarded hsteps).current sid s hc.found hc.running
    rw [htrace] at hcurrent
    have hchanges := serviceProgram_changes cfg w₁.db s.request.request tr₂ a hends (current_append.1 hcurrent).2
    have hread : ∀ e ∈ tr₂, e.Reads (BothAtHome (homeOf w₀.db)) := fun e he =>
      hreads sid s hc.found e (htrace ▸ List.mem_append_right _ he)
    intro g
    show BothAtHome _ g (commit s.trace w₁.db g)
    rw [htrace]
    rcases g with g | g
    · cases g with
      | caseType id =>
        have hunwritten : ∀ f, (⟨.write (.inl (.caseType id)) f, ()⟩ : Entry BothView) ∉ tr₁ := fun f hf => hspares _ hf
        rw [commit_append_of_not_written hunwritten]
        rcases hchanges.left (.caseType id) with heq | ⟨r, tr, _, _, hleft, caseType, active, hrow, hnew⟩
        · rw [heq]
          exact hdb _
        · intro caseType' hrow'
          cases (hrow'.symm.trans ((congrFun hleft (.caseType id)).trans hnew))
          exact hdb (.inl (.caseType id)) caseType hrow
      | courtCaseTypes courtId =>
        have hunwritten : ∀ f, (⟨.write (.inl (.courtCaseTypes courtId)) f, ()⟩ : Entry BothView) ∉ tr₁ :=
          fun f hf => hspares _ hf
        rw [commit_append_of_not_written hunwritten,
          commit_of_not_written fun f => serviceProgram_keepsLists hends hread]
        exact hdb _
      | _ => trivial
    · trivial

/-! ## Waiting -/

/-- The sign-in of the session has not locked its account. -/
def SparesAccount (cfg : Settings) (s : SignedSession) : Prop :=
  ∀ claims user tr₁ tr₂, s.request.token = some claims → s.trace = tr₁ ++ tr₂ →
    (ofPortal (resolveUser cfg claims)).Ends tr₁ user → (.update, .inl (.user user.1)) ∉ (held tr₁).all

/-- All sessions but those that open an account, recover mail, or edit an account after a sign-in that locked the row of
the administrator. -/
structure InOrder (cfg : Settings) (s : SignedSession) : Prop where
  request : BothOrdered s.request.request
  edit : s.request.request.editsAccount = true → SparesAccount cfg s

/-- The rows that requests lock. Entries of unique indexes are apart. -/
def isLocked : BothRow → Bool
  | .inl (.user _) | .inl (.envelope _) | .inl (.court _) | .inl (.caseType _) | .inl (.case _) | .inl (.document _)
  | .inl (.deletion _) | .inr (.contacts _) | .inr (.notice _) => true
  | _ => false

/-- **A session waits for another one:** it asks for a row lock, and the other one has a lock in its way. -/
abbrev Waits (cfg : Settings) (w : SignedWorld) : Nat → Nat → Prop :=
  Awaits (signedPortal cfg) (InOrder cfg) (fun g => isLocked g = true) w

def isDestination : BothRow → Bool
  | .inl (.court _) | .inl (.caseType _) | .inl (.case _) => true
  | _ => false

/-- What a transaction holds when it asks for a lock on an account or a filing that it has not locked. -/
structure Early (locks : Set (Mode × BothRow)) (g : BothRow) : Prop where
  user : ∀ id, g = .inl (.user id) → ∀ x ∈ locks, isDestination x.2 = false ∧ (∀ f, x.2 ≠ .inl (.envelope f)) ∧
    ∀ id', x.2 = .inl (.user id') → id' < id
  envelope : ∀ f, g = .inl (.envelope f) → ∀ x ∈ locks, isDestination x.2 = false ∧
    ∀ f', x.2 = .inl (.envelope f') → f' < f

theorem isLocked_turn {home : CaseTypeId → CourtId} (m : Mode) (g : BothRow) (hg : isLocked g = true) :
    serviceTurn home m g ≠ .apart := by
  rcases g with g | g
  · cases g <;> cases m <;> simp_all [isLocked, serviceTurn, lockTurn, Turn.left]
  · cases g <;> simp_all [isLocked, serviceTurn]

theorem not_destination {home : CaseTypeId → CourtId} {locks : Set (Mode × BothRow)} {b : Rank}
    (hguards : Guards (serviceTurn home) locks) (hbelow : Below (serviceTurn home) locks b) (hb : rank 5 0 ≤ b)
    {x : Mode × BothRow} (hx : x ∈ locks) : isDestination x.2 = false := by
  have hupdate : ∀ m : Mode, ¬ Mode.update.Compatible m := fun m h => h
  have hcourt : ∀ m courtId, (m, Sum.inl (Row.court courtId)) ∉ locks := fun m courtId hcourt =>
    absurd (hbelow _ hcourt .update _ (hupdate m) rfl) (not_lt_of_ge hb)
  obtain ⟨m, g⟩ := x
  rcases g with g | g
  · cases g with
    | court courtId => exact absurd hx (hcourt m courtId)
    | caseType id =>
      obtain ⟨m', hguard⟩ := hguards _ hx .update _ (hupdate m) rfl
      exact absurd hguard (hcourt m' _)
    | case id => exact absurd (hbelow _ hx .update _ (hupdate m) rfl) (not_lt_of_ge hb)
    | _ => rfl
  · rfl

theorem early_of_mayAsk {home : CaseTypeId → CourtId} {locks : Set (Mode × BothRow)} {m : Mode} {g : BothRow}
    (h : MayAsk (serviceTurn home) locks m g) (hnew : ¬ HasLock locks m g) : Early locks g := by
  have hupdate : ∀ m : Mode, ¬ Mode.update.Compatible m := fun m h => h
  constructor
  · rintro id rfl x hx
    obtain ⟨hguards, hbelow⟩ : Guards (serviceTurn home) locks ∧ Below (serviceTurn home) locks (rank 7 (-id)) := by
      cases m <;> exact h.imp_right fun h => h.resolve_left hnew
    refine ⟨not_destination hguards hbelow (by simp) hx, ?_, ?_⟩
    · intro f hf
      have hlt := hbelow x hx .update (rank 6 (-f)) (hupdate _) (by rw [hf]; rfl)
      simp at hlt
    · intro id' hid'
      have hlt := hbelow x hx .update (rank 7 (-id')) (hupdate _) (by rw [hid']; rfl)
      simpa using hlt
  · rintro f rfl x hx
    obtain ⟨hguards, hbelow⟩ : Guards (serviceTurn home) locks ∧ Below (serviceTurn home) locks (rank 6 (-f)) := by
      cases m <;> exact h.imp_right fun h => h.resolve_left hnew
    refine ⟨not_destination hguards hbelow (by simp) hx, ?_⟩
    intro f' hf'
    have hlt := hbelow x hx .update (rank 6 (-f')) (hupdate _) (by rw [hf']; rfl)
    simpa using hlt

theorem InOrder.allowed {home : CaseTypeId → CourtId} {s : SignedSession} (h : InOrder cfg s) {o : Op BothView}
    {n : o.Answer → Service ServiceResponse} (hafter : (signedProgram cfg s.request).After s.trace (.ask o n))
    (hreads : ∀ e ∈ s.trace, e.Reads (BothAtHome home)) :
    (serviceOrder home).rules.monitor.allows (held s.trace) o := by
  have hobeys : Obeys (serviceOrder home).rules.monitor ⟨∅, ∅⟩ (serviceProgram cfg s.request.request) fun _ _ => True :=
    serviceProgram_obeys h.request
  rcases s.request.plain_or_token with hplain | ⟨claims, userId, htoken, hactor⟩
  · rw [signedProgram_plain hplain] at hafter
    exact (hobeys.follow hafter hreads).1
  · rw [signedProgram_token htoken hactor] at hafter
    refine resolveUser_obeys.allowed_bind hafter hreads fun tr₁ tr₂ user htrace hends hsigned => ?_
    obtain ⟨early, hlast, hearly⟩ := hsigned
    simp only [obeys_bind, obeys_require]
    rintro rfl
    refine hobeys.underneath hearly (fun hheld => ?_) ?_ ?_
    · by_cases hedit : s.request.request.editsAccount = true
      · have hall : (held tr₁).all = early := hlast.all
        exact absurd (hall ▸ hheld) (h.edit hedit claims user tr₁ tr₂ htoken htrace hends)
      · have hown := ServiceRequest.mayLock_own h.request (Bool.eq_false_of_not_eq_true hedit) hactor
        exact (serviceProgram_ordinary hown).mono fun _ ho => BothOrdinary.under ho
    · exact hlast.kept.trans (Set.union_empty _).symm
    · refine hlast.all.trans ?_
      simp [Locks.all]

theorem SignedRun.orderly (h : SignedRun cfg w₀ w) :
    Orderly (signedPortal cfg) (serviceTurn (homeOf w₀.db)) (InOrder cfg) (fun g => isLocked g = true) w :=
  Orderly.of_allowed (U := (serviceOrder (homeOf w₀.db)).rules) (fun _ _ _ h => h) isLocked_turn
    fun sid s _ _ hs hr hafter => hr.allowed hafter (h.atHome.2 sid s hs)

/-- **No deadlock over row locks:** no session waits for itself, not even by way of others; every chain of waits ends at
a session that waits for none; and a session that asks for an account or a filing holds no court, case type or case, and
of filings only those with smaller ids. -/
theorem SignedRun.deadlock_free (h : SignedRun cfg w₀ w) :
    (∀ sid, ¬ Relation.TransGen (Waits cfg w) sid sid) ∧
      (∀ sid, ∃ sid', Relation.ReflTransGen (Waits cfg w) sid sid' ∧ ∀ sid'', ¬ Waits cfg w sid' sid'') ∧
      ∀ sid s m g, w.sessions sid = some s → InOrder cfg s → s.Wants (signedPortal cfg) m g →
        ¬ HasLock (held s.trace).all m g → Early (held s.trace).all g := by
  refine ⟨h.guarded.acyclic h.orderly, h.guarded.ends h.orderly (Steps.finite h.idle h.steps), ?_⟩
  exact fun sid s m g hs hr hwants hnew => early_of_mayAsk (h.orderly.mayAsk sid s m g hs hr hwants) hnew

/-! ## Sessions that wait -/

/-- An administrator whose verified e-mail is not on record yet. -/
def administrator (firstName email sub : String) : Account where
  user := { email, firstName, lastName := "Admin", userType := .admin, keycloakId := some sub }

def adminsStore : BothStore
  | .inl (.user id) =>
    if id = 3 then some (administrator "Ada" "ada@example.org" "k3")
    else if id = 4 then some (administrator "Ben" "ben@example.org" "k4") else none
  | .inl .userIds => [3, 4]
  | g => mailedStore g

def adminsWorld : SignedWorld := ⟨adminsStore, 10, fun _ => none⟩

theorem adminsWorld_ownCaseTypes : OwnCaseTypes adminsWorld.db := by
  intro courtId id hid
  have hlist : adminsWorld.db (.inl (.courtCaseTypes courtId)) = if courtId = 1 then [1] else [] := rfl
  rw [hlist] at hid
  split_ifs at hid with hcourt
  · rw [List.mem_singleton.1 hid]
    exact ⟨{ courtId := 1, code := "CIV-GEN", filingFeeCents := 17500 }, rfl, hcourt.symm⟩
  · cases hid

/-- A new first name for an administrator. -/
def renamed (email sub : String) : AccountUpdate where
  firstName := "Cy"
  lastName := "Admin"
  email
  userType := .admin
  keycloakId := some sub
  reason := "Misspelled"
  expectedVersion := 0
  verified := by simp

/-- Ada edits Ben's account, in a demonstration. -/
def adaEdits : SignedRequest := ⟨none, .portal (.updateAccount 3 4 (renamed "ben@example.org" "k4"))⟩

/-- Ben comes with a token whose e-mail has just been verified. -/
def benSigned (r : ServiceRequest) : SignedRequest :=
  ⟨some { sub := "k4", email := some "ben@example.org", emailVerified := true }, r⟩

def benEdits : SignedRequest := benSigned (.portal (.updateAccount 4 3 (renamed "ada@example.org" "k3")))

def benReads : SignedRequest := benSigned (.acknowledgeDelivery 4 20)

/-- Ada has locked her own row, and then Ben has come as far as this. -/
def benArrives (k : Nat) (r : SignedRequest) : SignedWorld :=
  (adminsWorld.pause (signedPortal mailedSettings) 0 1000 2 adaEdits).pause (signedPortal mailedSettings) 1 1000 k r

/-- What is done of a request, and the rest. -/
def signedPart (k : Nat) (r : SignedRequest) : BothTrace × Service ServiceResponse :=
  ((signedPortal mailedSettings).program r).opening (signedPortal mailedSettings).row 1000 adminsWorld.db k

/-- Ben has locked his own row, and not Ada's, when she asks for it. -/
structure Meeting (k : Nat) (r : SignedRequest) : Prop where
  apart : ∀ g ∈ claimed (signedPart k r).1, g ∉ claimed (signedPart 2 adaEdits).1 ++ []
  locked : (.update, .inl (.user 4)) ∈ (signedPart k r).1.filterMap Entry.lasting
  wanted : (signedPart 2 adaEdits).2.wants = some (.update, .inl (.user 4))

theorem benEdits_meeting : Meeting 7 benEdits ∧ (signedPart 7 benEdits).2.wants = some (.update, .inl (.user 3)) ∧
    (.update, .inl (.user 3)) ∈ (signedPart 2 adaEdits).1.filterMap Entry.lasting ∧ Meeting 6 benReads := by
  have hall : ((∀ g ∈ claimed (signedPart 7 benEdits).1, g ∉ claimed (signedPart 2 adaEdits).1 ++ []) ∧
      (.update, .inl (.user 4)) ∈ (signedPart 7 benEdits).1.filterMap Entry.lasting ∧
      (signedPart 2 adaEdits).2.wants = some (.update, .inl (.user 4))) ∧
      (signedPart 7 benEdits).2.wants = some (.update, .inl (.user 3)) ∧
      (.update, .inl (.user 3)) ∈ (signedPart 2 adaEdits).1.filterMap Entry.lasting ∧
      (∀ g ∈ claimed (signedPart 6 benReads).1, g ∉ claimed (signedPart 2 adaEdits).1 ++ []) ∧
      (.update, .inl (.user 4)) ∈ (signedPart 6 benReads).1.filterMap Entry.lasting := by decide +kernel
  obtain ⟨⟨h₁, h₂, h₃⟩, h₄, h₅, h₆, h₇⟩ := hall
  exact ⟨⟨h₁, h₂, h₃⟩, h₄, h₅, ⟨h₆, h₇, h₃⟩⟩

section Meeting

variable {k : Nat} {r : SignedRequest}

theorem adminsWorld_calm : adminsWorld.Calm 0 [] := World.Idle.calm fun _ => rfl

theorem adminsWorld_pause : Steps (signedPortal mailedSettings) adminsWorld
    (adminsWorld.pause (signedPortal mailedSettings) 0 1000 k r) ∧
      ((signedPortal mailedSettings).program r).After (signedPart k r).1 (signedPart k r).2 :=
  World.pause_steps adminsWorld_calm 1000 k r fun _ _ => List.not_mem_nil

theorem Meeting.run (h : Meeting k r) : SignedRun mailedSettings adminsWorld (benArrives k r) where
  idle _ := rfl
  ownCaseTypes := adminsWorld_ownCaseTypes
  steps := by
    have hcalm : (adminsWorld.pause (signedPortal mailedSettings) 0 1000 2 adaEdits).Calm 1
      (claimed (signedPart 2 adaEdits).1 ++ []) := World.pause_calm adminsWorld_calm 1000 2 adaEdits
    exact adminsWorld_pause.1.trans (World.pause_steps hcalm 1000 k r h.apart).1

theorem paused_awaits {among : SignedSession → Prop} {sid sid' k' : Nat} {r' : SignedRequest} {w : SignedWorld}
    {id : UserId} (hne : sid' ≠ sid) (hs : w.sessions sid = some ⟨r, (signedPart k r).1, .running⟩)
    (hs' : w.sessions sid' = some ⟨r', (signedPart k' r').1, .running⟩)
    (hr : among ⟨r, (signedPart k r).1, .running⟩) (hr' : among ⟨r', (signedPart k' r').1, .running⟩)
    (hwanted : (signedPart k r).2.wants = some (.update, .inl (.user id)))
    (hlocked : (.update, .inl (.user id)) ∈ (signedPart k' r').1.filterMap Entry.lasting) :
    Awaits (signedPortal mailedSettings) among (fun g => isLocked g = true) w sid sid' := by
  refine ⟨hne, _, _, .update, .update, .inl (.user id), hs, hs', {
    first := hr
    second := hr'
    wants := ⟨rfl, _, adminsWorld_pause.2, hwanted⟩
    inOrder := rfl
    running := rfl
    holds := held_of_lasting hlocked
    apart := fun h => h }⟩

theorem Meeting.awaits (h : Meeting k r) {among : SignedSession → Prop}
    (hada : among ⟨adaEdits, (signedPart 2 adaEdits).1, .running⟩) (hben : among ⟨r, (signedPart k r).1, .running⟩) :
    Awaits (signedPortal mailedSettings) among (fun g => isLocked g = true) (benArrives k r) 0 1 :=
  paused_awaits Nat.one_ne_zero rfl rfl hada hben h.wanted h.locked

end Meeting

theorem adaEdits_inOrder {tr : BothTrace} : InOrder mailedSettings ⟨adaEdits, tr, .running⟩ where
  request := trivial
  edit _ _ _ _ _ h := by cases h

theorem benReads_inOrder {tr : BothTrace} : InOrder mailedSettings ⟨benReads, tr, .running⟩ where
  request := trivial
  edit h := by cases h

/-- One session waits for the row that the sign-in of another one has locked, and the chain of waits ends. -/
theorem benReads_deadlock_free : Waits mailedSettings (benArrives 6 benReads) 0 1 ∧
    (∀ sid, ¬ Relation.TransGen (Waits mailedSettings (benArrives 6 benReads)) sid sid) ∧
    ∃ sid, Relation.ReflTransGen (Waits mailedSettings (benArrives 6 benReads)) 0 sid ∧
      ∀ sid', ¬ Waits mailedSettings (benArrives 6 benReads) sid sid' := by
  have hmeeting : Meeting 6 benReads := benEdits_meeting.2.2.2
  obtain ⟨hfree, hends, _⟩ := hmeeting.run.deadlock_free
  exact ⟨hmeeting.awaits adaEdits_inOrder benReads_inOrder, hfree, hends 0⟩

/-- **An edit after a sign-in that locked the row of its administrator may deadlock:** both sessions wait for ever. -/
theorem benEdits_deadlock : SignedRun mailedSettings adminsWorld (benArrives 7 benEdits) ∧
    ∀ sid < 2, Relation.TransGen (Awaits (signedPortal mailedSettings) (fun _ => True) (fun g => isLocked g = true)
      (benArrives 7 benEdits)) sid sid := by
  obtain ⟨hmeeting, hwants, hlocked, _⟩ := benEdits_meeting
  have hada : Awaits (signedPortal mailedSettings) (fun _ => True) (fun g => isLocked g = true) (benArrives 7 benEdits)
      0 1 := hmeeting.awaits trivial trivial
  have hben : Awaits (signedPortal mailedSettings) (fun _ => True) (fun g => isLocked g = true) (benArrives 7 benEdits)
      1 0 := paused_awaits Nat.zero_ne_one rfl rfl trivial trivial hwants hlocked
  refine ⟨hmeeting.run, fun sid hsid => ?_⟩
  rcases Nat.le_one_iff_eq_zero_or_eq_one.1 (Nat.le_of_lt_succ hsid) with rfl | rfl
  · exact .tail (.single hada) hben
  · exact .tail (.single hben) hada

end Muefs
