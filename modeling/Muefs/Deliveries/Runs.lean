import Muefs.Deliveries.Acts
import Muefs.Deliveries.Packing
import Muefs.Steps.Runs

/-!
# Runs with deliveries

* `BothChanges`, `serviceProgram_changes` : what any request commits, those of the portal among them;
* `BothInitial`, `BothRun` : worlds without filings and packets, and what any interleaving of requests
  reaches from them;
* `BothRun.step_cases`, `BothRun.changes` : a step changes only a stored object, or is a commit with its changes;
* `BothNamed`, `BothRun.spent` : the numbers that the store names are never drawn again;
* `BothRun.store_since`, `BothRun.row_since` : rules for what commits keep; `BothRun.snapshot` : what a transaction saw.
-/

namespace Muefs
open RowLocks

/-! ## Commits -/

/-- What a request commits: a request of the portal what it commits alone, and nothing of deliveries. -/
def BothChanges (cfg : Settings) (r : ServiceRequest) (db : BothStore) (tr : BothTrace) : Prop :=
  match r with
  | .portal r => ∃ tr₀, Beside tr tr₀ ∧ Changes cfg r (leftDb db) tr₀
  | r => ServiceChanges cfg r db tr

theorem answering_meets {α : Type} {db : BothStore} {p : Service α} {answer : α → ServiceResponse}
    {Q : BothTrace → ServiceResponse → Prop} (h : Meets db p fun tr a => Q tr (answer a)) :
    Meets db (answering p answer) Q := by
  simp only [answering, meets_bind, meets_pure, List.append_nil]
  exact h

/-- **What any request commits.** -/
theorem serviceProgram_changes (cfg : Settings) (db : BothStore) (r : ServiceRequest) :
    Meets db (serviceProgram cfg r) fun tr _ => BothChanges cfg r db tr := by
  cases r with
  | portal r =>
    refine answering_meets ((program_changes cfg (leftDb db) r).left.mono ?_)
    rintro tr a ⟨tr₀, hside, h⟩
    exact ⟨tr₀, hside, h⟩
  | saveServiceInstructions => exact answering_meets (saveServiceInstructions_meets.mono fun _ _ h => h.changes)
  | sendDocuments => exact answering_meets (sendDocuments_changes.mono fun _ _ h => h.1)
  | downloadDeliveryDocument userId id documentId =>
    refine answering_meets (downloadDeliveryDocument_meets.mono fun tr _ h => ?_)
    change ServiceChanges cfg _ db tr
    rw [ServiceChanges, h.2]
    intro g
    by_cases hg : g = .inr (.downloads id)
    · subst hg
      exact .inr ⟨userId, documentId, rfl, by simp⟩
    · exact .inl (by simp [hg])
  | acknowledgeDelivery => exact answering_meets acknowledgeDelivery_changes
  | retryDeliveryAlert => exact answering_meets retryDeliveryAlert_changes
  | recordDeliveryFailure => exact answering_meets recordDeliveryFailure_changes
  | claimNextEmail => exact answering_meets claimNextEmail_changes
  | finishEmail => exact answering_meets finishEmail_changes
  | recoverEmails => exact answering_meets recoverEmails_changes

theorem BothChanges.left {cfg : Settings} {r : ServiceRequest} {db : BothStore} {tr : BothTrace}
    (h : BothChanges cfg r db tr) (g : Row) : commit tr db (.inl g) = db (.inl g) ∨
      ∃ r₀ tr₀, r = .portal r₀ ∧ Beside tr tr₀ ∧ leftDb (commit tr db) = commit tr₀ (leftDb db) ∧
        RowStep cfg r₀ (leftDb db) (commit tr₀ (leftDb db)) tr₀ g (commit tr₀ (leftDb db) g) := by
  cases r with
  | portal r =>
    obtain ⟨tr₀, hside, hc⟩ := h
    rcases hc g with heq | hstep
    · exact .inl ((congrFun hside.commit_left g).trans heq)
    · exact .inr ⟨r, tr₀, rfl, hside, hside.commit_left, hstep⟩
  | _ => exact .inl ((h (.inl g)).resolve_right id)

theorem BothChanges.right {cfg : Settings} {r : ServiceRequest} {db : BothStore} {tr : BothTrace}
    (h : BothChanges cfg r db tr) (g : ServiceRow) : commit tr db (.inr g) = db (.inr g) ∨
      ServiceStep cfg r db (commit tr db) tr g (commit tr db (.inr g)) := by
  cases r with
  | portal r =>
    obtain ⟨tr₀, hside, _⟩ := h
    exact .inl (hside.commit_right g)
  | _ => exact h (.inr g)

/-! ## Worlds -/

/-- The portal in a world without sessions. -/
def portalOf (w : BothWorld) : PortalWorld := ⟨leftDb w.db, w.next, fun _ => none⟩

/-- Neither a filing nor a packet yet, and no request under way. Contacts may be there. -/
structure BothInitial (w : BothWorld) : Prop where
  idle : w.Idle
  portal : Initial (portalOf w)
  packet : ∀ id, w.db (.inr (.packet id)) = none
  packetKey : ∀ userId key, w.db (.inr (.packetKey userId key)) = none
  delivery : ∀ id, w.db (.inr (.delivery id)) = none
  alert : ∀ id, w.db (.inr (.alert id)) = none
  notice : ∀ id, w.db (.inr (.notice id)) = none
  contact : ∀ id, ((w.db (.inr (.contacts id))).map ServiceContact.id).Nodup ∧
    ∀ c ∈ w.db (.inr (.contacts id)), c.id < w.next

/-- A run from an initial world. -/
structure BothRun (cfg : Settings) (w₀ w : BothWorld) : Prop where
  start : BothInitial w₀
  steps : Steps (bothPortal cfg) w₀ w

abbrev BothSession := Session BothView Failure ServiceResponse ServiceRequest

variable {cfg : Settings} {w₀ w w' : BothWorld}

theorem BothRun.guarded (h : BothRun cfg w₀ w) : Guarded (bothPortal cfg) w :=
  Steps.guarded h.start.idle.guarded h.steps

theorem BothRun.tail (h : BothRun cfg w₀ w) (hs : Step (bothPortal cfg) w w') : BothRun cfg w₀ w' :=
  ⟨h.start, h.steps.tail hs⟩

theorem BothRun.trans (h : BothRun cfg w₀ w) (hs : Steps (bothPortal cfg) w w') : BothRun cfg w₀ w' :=
  ⟨h.start, h.steps.trans hs⟩

theorem BothRun.changes (h : BothRun cfg w₀ w) {sid : Nat} {s : BothSession} {a : ServiceResponse}
    (hc : Commits (bothPortal cfg) w sid s a) : BothChanges cfg s.request w.db s.trace :=
  hc.meets h.guarded (serviceProgram_changes cfg w.db s.request)

/-- The name of a stored object. -/
def isObject : BothRow → Bool
  | .inl (.object _) => true
  | _ => false

/-- **What changes at once is stored objects,** where the programs of a system ask nothing else. -/
theorem step_cases_of_ordinary {α ι : Type} {sys : System BothView Failure α ι}
    {w w' : World BothView Failure α ι} (hsys : ∀ i, ∃ own, (sys.program i).Asks (BothOrdinary own))
    (hs : Step sys w w') : (∀ g, isObject g = false → w'.db g = w.db g) ∨
      ∃ sid s a, Commits sys w sid s a ∧ w' = w.committed sid s a := by
  rcases hs.db_cases with heq | ⟨_, s, g, f, _, _, _, ⟨q, hq⟩, heq⟩ | hc
  · exact .inl fun g _ => by rw [heq]
  · obtain ⟨own, hasks⟩ := hsys s.request
    have hordinary : BothOrdinary own (.act g f) := hasks.after hq ⟨.act g f, ()⟩ (by simp)
    refine .inl fun g' hg' => ?_
    rw [heq]
    refine Function.update_of_ne ?_ _ _
    rintro rfl
    rcases g' with g' | g'
    · cases g' with
      | object => cases hg'
      | _ => exact hordinary.elim
    · exact hordinary.elim
  · exact .inr hc

theorem BothRun.step_cases (hs : Step (bothPortal cfg) w w') : (∀ g, isObject g = false → w'.db g = w.db g) ∨
    ∃ sid s a, Commits (bothPortal cfg) w sid s a ∧ w' = w.committed sid s a :=
  step_cases_of_ordinary (fun r => ⟨r.mayLock, serviceProgram_ordinary fun _ h => h⟩) hs

/-! ## Names -/

/-- The numbers that the store names. -/
inductive BothNamed (db : BothStore) (n : Nat) : Prop where
  | portal (h : Named (leftDb db) n)
  | packet (h : (db (.inr (.packet n))).isSome = true)
  | delivery (h : (db (.inr (.delivery n))).isSome = true)
  | alert (h : (db (.inr (.alert n))).isSome = true)
  | notice (h : (db (.inr (.notice n))).isSome = true)
  | contact (id : CaseId) (c : ServiceContact) (hc : c ∈ db (.inr (.contacts id))) (h : c.id = n)

theorem BothChanges.named {r : ServiceRequest} {db : BothStore} {tr : BothTrace} (h : BothChanges cfg r db tr) {n : Nat}
    (hn : BothNamed (commit tr db) n) : BothNamed db n ∨ ⟨.fresh, n⟩ ∈ tr := by
  cases hn with
  | portal hn =>
    cases r with
    | portal r =>
      obtain ⟨tr₀, hside, hc⟩ := h
      rw [hside.commit_left] at hn
      exact (hc.named hn).imp .portal hside.fresh.1
    | _ =>
      have hsame : leftDb (commit tr db) = leftDb db := funext fun g => (h (.inl g)).resolve_right id
      exact .inl (.portal (hsame ▸ hn))
  | packet hn =>
    rcases h.right (.packet n) with heq | ⟨packet, _, _, _, _, _, hid, _, hsent⟩
    · exact .inl (.packet (heq ▸ hn))
    · exact .inr (hid ▸ hsent.fresh)
  | delivery hn =>
    rcases h.right (.delivery n) with heq | ⟨hfresh, _⟩
    · exact .inl (.delivery (heq ▸ hn))
    · exact .inr hfresh
  | alert hn =>
    rcases h.right (.alert n) with heq | ⟨hfresh, _⟩
    · exact .inl (.alert (heq ▸ hn))
    · exact .inr hfresh
  | notice hn =>
    rcases h.right (.notice n) with heq | ⟨notice, _, hstep⟩
    · exact .inl (.notice (heq ▸ hn))
    · have hold : ∀ {notice : Notice}, db (.inr (.notice n)) = some notice → BothNamed db n := fun hdb =>
        .notice (by rw [hdb]; rfl)
      cases hstep with
      | sent _ _ _ _ _ _ _ _ _ _ _ _ hnew => exact .inr hnew
      | alerted _ _ _ _ _ _ _ hnew => exact .inr hnew
      | acknowledged _ _ _ _ _ _ _ _ _ hdb => exact .inl (hold hdb)
      | requeued _ _ _ _ _ _ _ _ _ _ _ _ _ hdb => exact .inl (hold hdb)
      | claimed _ _ _ _ _ hdb => exact .inl (hold hdb)
      | finished _ _ _ _ hdb => exact .inl (hold hdb)
      | recovered _ _ hdb => exact .inl (hold hdb)
      | reported _ _ _ _ _ _ _ _ _ _ _ hdb => exact .inl (hold hdb)
  | contact id c hc hid =>
    rcases h.right (.contacts id) with heq | ⟨event, hstep, _⟩
    · exact .inl (.contact id c (heq ▸ hc) hid)
    · generalize commit tr db (.inr (.contacts id)) = cs at hc hstep
      cases hstep with
      | revised _ _ _ old new _ _ hold hsame =>
        obtain ⟨c₀, hc₀, rfl⟩ := List.mem_map.1 hc
        split at hid
        · exact .inl (.contact id old (List.mem_of_find?_eq_some hold) (hsame.symm.trans hid))
        · exact .inl (.contact id c₀ hc₀ hid)
      | added _ _ _ new _ _ _ hfresh =>
        rcases List.mem_append.1 hc with hc | hc
        · exact .inl (.contact id c hc hid)
        · rw [List.mem_singleton.1 hc] at hid
          exact .inr (hid ▸ hfresh)

/-- **The numbers that the store names are never drawn again.** -/
theorem BothRun.spent (h : BothRun cfg w₀ w) {n : Nat} (hn : BothNamed w.db n) : w.Spent n := by
  refine Steps.named_spent BothNamed h.start.idle ?_ ?_ ?_ h.steps hn
  · intro n hn
    cases hn with
    | portal hn =>
      have hportal : Run cfg (portalOf w₀) (portalOf w₀) := ⟨h.start.portal, .refl⟩
      exact (hportal.spent hn).lt
    | packet hn => simp [h.start.packet n] at hn
    | delivery hn => simp [h.start.delivery n] at hn
    | alert hn => simp [h.start.alert n] at hn
    | notice hn => simp [h.start.notice n] at hn
    | contact id c hc hid => exact hid ▸ (h.start.contact id).2 c hc
  · intro db g v n hg hn
    have hrow : ∀ g', isBothRow g' = true → Function.update db g (v (db g)) g' = db g' := by
      intro g' hg'
      refine Function.update_of_ne ?_ _ _
      rintro rfl
      exact absurd hg' (by simpa [bothPortal] using hg)
    cases hn with
    | portal hn =>
      have hleft : ∀ g', isRow g' = true → leftDb (Function.update db g (v (db g))) g' = leftDb db g' := fun g' hg' =>
        hrow (.inl g') hg'
      refine .portal ?_
      cases hn with
      | case hn => exact .case (hleft (.case n) rfl ▸ hn)
      | filing hn => exact .filing (hleft (.envelope n) rfl ▸ hn)
      | part f file hfile hn => exact .part f file (hleft (.envelope f) rfl ▸ hfile) hn
      | document hn => exact .document (hleft (.document n) rfl ▸ hn)
      | job id job hjob hn => exact .job id job (hleft (.deletion id) rfl ▸ hjob) hn
    | packet hn => exact .packet (hrow (.inr (.packet n)) rfl ▸ hn)
    | delivery hn => exact .delivery (hrow (.inr (.delivery n)) rfl ▸ hn)
    | alert hn => exact .alert (hrow (.inr (.alert n)) rfl ▸ hn)
    | notice hn => exact .notice (hrow (.inr (.notice n)) rfl ▸ hn)
    | contact id c hc hid => exact .contact id c (hrow (.inr (.contacts id)) rfl ▸ hc) hid
  · intro w sid s a n hsteps hc hn
    exact (BothRun.changes ⟨h.start, hsteps⟩ hc).named hn

/-! ## Rules -/

theorem BothRun.store_since {I : BothStore → Prop} (h : BothRun cfg w₀ w) (h₀ : I w.db)
    (hrows : ∀ db db' : BothStore, (∀ g, isObject g = false → db' g = db g) → I db → I db')
    (hstep : ∀ w₁ sid s a, BothRun cfg w₀ w₁ → Steps (bothPortal cfg) w w₁ → Commits (bothPortal cfg) w₁ sid s a →
      I w₁.db → BothChanges cfg s.request w₁.db s.trace → I (commit s.trace w₁.db))
    (hs : Steps (bothPortal cfg) w w') : I w'.db := by
  induction hs with
  | refl => exact h₀
  | @tail w₁ w₂ hs h₁ ih =>
    have hrun := h.trans hs
    rcases BothRun.step_cases h₁ with heq | ⟨sid, s, a, hc, rfl⟩
    · exact hrows _ _ heq ih
    · exact hstep _ _ _ _ hrun hs hc ih (hrun.changes hc)

theorem BothRun.row_since {g : ServiceRow} {I : ServiceView g → Prop}
    (h : BothRun cfg w₀ w) (h₀ : I (w.db (.inr g)))
    (hstep : ∀ w₁ sid s a, BothRun cfg w₀ w₁ → Steps (bothPortal cfg) w w₁ → Commits (bothPortal cfg) w₁ sid s a →
      I (w₁.db (.inr g)) →
      ServiceStep cfg s.request w₁.db (commit s.trace w₁.db) s.trace g (commit s.trace w₁.db (.inr g)) →
      I (commit s.trace w₁.db (.inr g))) (hs : Steps (bothPortal cfg) w w') : I (w'.db (.inr g)) := by
  refine h.store_since (I := fun db => I (db (.inr g))) h₀ (fun db db' heq hI => ?_) ?_ hs
  · rw [heq (.inr g) rfl]
    exact hI
  · intro w₁ sid s a hrun hs₁ hc hI hchanges
    rcases hchanges.right g with heq | hrow
    · rw [heq]
      exact hI
    · exact hstep _ _ _ _ hrun hs₁ hc hI hrow

theorem BothRun.snapshot (h : BothRun cfg w₀ w) {sid : Nat} {s : BothSession} (hs : w.sessions sid = some s)
    {seen : BothStore} (hseen : ⟨.snapshot, seen⟩ ∈ s.trace) :
    ∃ w₁, BothRun cfg w₀ w₁ ∧ Steps (bothPortal cfg) w₁ w ∧ w₁.db = seen := by
  obtain ⟨w₁, hans⟩ := h.steps.answered_at h.start.idle hs hseen
  exact ⟨w₁, ⟨h.start, hans.reached⟩, hans.later, hans.snapshot⟩

theorem BothRun.looked (h : BothRun cfg w₀ w) {sid : Nat} {s : BothSession} (hs : w.sessions sid = some s)
    {g : BothRow} {v : BothView g} (hv : ⟨.look g, v⟩ ∈ s.trace) :
    ∃ w₁, BothRun cfg w₀ w₁ ∧ Steps (bothPortal cfg) w₁ w ∧ w₁.db g = v := by
  obtain ⟨w₁, h₁, h₂, hval⟩ := Steps.looked_at h.start.idle h.steps hs hv
  exact ⟨w₁, ⟨h.start, h₁⟩, h₂, hval.symm⟩

/-! ## Requests one after the other -/

theorem BothRun.serveAll {requests : List (Instant × ServiceRequest)} (h : BothInitial w₀)
    (hok : w₀.servable (bothPortal cfg) 0 requests = true) : BothRun cfg w₀ (w₀.serveAll (bothPortal cfg) 0 requests) :=
  ⟨h, World.serveAll_steps h.idle.calm hok⟩

def mailedSettings : Settings := { Settings.demo with emailDeliveryEnabled := true, serviceDeliveryEnabled := true }

/-- The defendant of the small case, with an account. -/
def defendant : CaseParticipant where
  id := 2
  userId := some 4
  role := .defendant
  partyName := "B"
  accessEnabled := true
  reviewedAt := some 0

def defendantContact : ServiceContact where
  id := 3
  caseId := 1
  participantId := 2
  participantSnapshot := some (participantSnapshot defendant)
  userId := some 4
  name := "B"
  method := .electronic
  email := some "b@example.org"
  address := none
  isActive := true
  authority := some "Court order"
  version := 1

/-- The small portal with a defendant who can be served electronically. -/
def mailedStore : BothStore
  | .inl (.user id) =>
    if id = 4 then some { user := {
      email := "b@example.org", verifiedEmail := some "b@example.org", firstName := "Bo", lastName := "B"
      userType := .selfRepresented } }
    else (smallAccount id).map fun account =>
      { account with user := { account.user with verifiedEmail := some account.user.email } }
  | .inl (.courtCaseTypes id) => if id = 1 then [1] else []
  | .inl (.case id) => if id = 1 then some { smallCase with participants := smallCase.participants ++
      [defendant] } else none
  | .inl g => smallStore g
  | .inr (.contacts id) => if id = 1 then [defendantContact] else []
  | .inr (.contactEvents _) | .inr (.downloads _) => []
  | .inr (.packet _) | .inr (.packetKey _ _) | .inr (.delivery _) | .inr (.alert _) | .inr (.notice _) => none

def mailedWorld : BothWorld := ⟨mailedStore, 10, fun _ => none⟩

theorem mailedWorld_initial : BothInitial mailedWorld where
  idle _ := rfl
  portal := {
    idle := fun _ => rfl
    envelope := fun _ => rfl
    document := fun _ => rfl
    creationKey := fun _ _ => rfl
    externalRequest := fun _ => rfl
    externalReceipt := fun _ => rfl
    deletion := fun _ => rfl
    case := fun id h => by
      by_cases hid : id = 1
      · rw [hid]
        decide
      · simp [portalOf, leftDb, mailedWorld, mailedStore, hid] at h }
  packet _ := rfl
  packetKey _ _ := rfl
  delivery _ := rfl
  alert _ := rfl
  notice _ := rfl
  contact id := by
    by_cases hid : id = 1
    · rw [hid]
      decide
    · simp [mailedWorld, mailedStore, hid]

/-- A record of service on the case, with one document. -/
def draftRequests : List (Instant × ServiceRequest) := serviceRequests.map fun r => (r.1, .portal r.2)

def draftWorld : BothWorld := mailedWorld.serveAll (bothPortal mailedSettings) 0 draftRequests

/-- The document and the defendant's contact are selected. -/
def smallSelection : ServicePacketCreate where
  sourceTransactionId := 13
  documentIds := [12]
  recipients := [(3, 1)]
  documents := by decide
  contacts := by decide
  versions := by decide

/-- The record is submitted, and sent to the defendant. -/
def sentWorld : BothWorld :=
  draftWorld.serveAll (bothPortal mailedSettings) 2 [
    (3000, .portal (.submitFiling 1 10 (some 9) (tokenOf (portalOf draftWorld) 10))),
    (4000, .sendDocuments 1 10 5 smallSelection)]

theorem draftWorld_calm : draftWorld.Calm 2 [] := World.serveAll_calm mailedWorld_initial.idle.calm

theorem sentWorld_calm : sentWorld.Calm 4 [] := World.serveAll_calm draftWorld_calm

theorem draftWorld_run : BothRun mailedSettings mailedWorld draftWorld :=
  .serveAll mailedWorld_initial (by decide +kernel)

theorem sentWorld_run : BothRun mailedSettings mailedWorld sentWorld :=
  draftWorld_run.trans (World.serveAll_steps draftWorld_calm (by decide +kernel))

theorem sentWorld_serve {requests : List (Instant × ServiceRequest)}
    (hok : sentWorld.servable (bothPortal mailedSettings) 4 requests = true) :
    BothRun mailedSettings mailedWorld (sentWorld.serveAll (bothPortal mailedSettings) 4 requests) :=
  sentWorld_run.trans (World.serveAll_steps sentWorld_calm hok)

end Muefs
