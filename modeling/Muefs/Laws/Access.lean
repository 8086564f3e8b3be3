import Muefs.Laws.Accounts

/-!
# The access to a case

* `CaseEvent.replay` : what an event makes of the participants and the seal that it tells of;
* `CaseAccessStep.replay` : a change of the access is its event, one version up;
* `Run.access_advances` : a version of the access is never come back to;
* `AccessLaw` : how requests change the access to cases, and what the events add up to;
* `Run.access_kept` : the law, in runs whose own-case checks read the version that was reviewed, or a later one.
-/

namespace Muefs
open RowLocks

variable {cfg : Settings} {w₀ w w' : PortalWorld}

/-! ## Events -/

/-- The participants of a case and whether it is sealed, as the events tell them. -/
structure AccessRecord where
  participants : List ParticipantSnapshot
  isSealed : Bool
  deriving DecidableEq, Repr

def CaseFile.accessRecord (c : CaseFile) : AccessRecord where
  participants := c.participants.map participantSnapshot
  isSealed := c.row.isSealed

/-- The record after an event, if the record is what the event says was there before. -/
def CaseEvent.replay (record : AccessRecord) : CaseEvent → Option AccessRecord
  | .participant _ _ _ none after => some { record with participants := record.participants ++ [after] }
  | .participant _ _ _ (some before) after =>
    if record.participants.find? (fun p => p.id == before.id) = some before ∧ after.id = before.id then
      some { record with participants := record.participants.map fun p => if p.id = before.id then after else p }
    else none
  | .publicAccess _ _ _ _ _ _ before after =>
    if before.isSealed = record.isSealed then some { record with isSealed := after.isSealed } else none

theorem CaseEvent.replay_participant {record record' : AccessRecord} {actorId : UserId} {name reason : String}
    {before : Option ParticipantSnapshot} {after : ParticipantSnapshot}
    (h : CaseEvent.replay record (.participant actorId name reason before after) = some record') :
    record'.isSealed = record.isSealed := by
  cases before with
  | none =>
    cases h
    rfl
  | some before =>
    rw [CaseEvent.replay] at h
    split_ifs at h
    cases h
    rfl

/-- The events of this actor are about other people's records, and about the seal of cases in which he takes no part. -/
def CaseEvent.OthersOnly (actorId : UserId) (c : CaseFile) : CaseEvent → Prop
  | .participant id _ _ before after =>
    id = actorId ∧ before.bind ParticipantSnapshot.userId ≠ some actorId ∧ after.userId ≠ some actorId
  | .publicAccess id _ _ _ _ _ _ _ =>
    id = actorId ∧ ∀ p ∈ c.participants, p.userId = some actorId → p.isActive = false

/-! ## One change -/

theorem find_snapshot {participants : List CaseParticipant} {id : ParticipantId} {p : CaseParticipant}
    (h : participants.find? (fun p => p.id == id) = some p) :
    (participants.map participantSnapshot).find? (fun q => q.id == id) = some (participantSnapshot p) := by
  rw [List.find?_map]
  exact congrArg (Option.map participantSnapshot) h

theorem map_snapshot (participants : List CaseParticipant) (id : ParticipantId) (changed : CaseParticipant) :
    (participants.map fun q => if q.id = id then changed else q).map participantSnapshot =
      (participants.map participantSnapshot).map fun q => if q.id = id then participantSnapshot changed else q := by
  simp only [List.map_map]
  refine List.map_congr_left fun q _ => ?_
  simp only [Function.comp]
  rw [apply_ite participantSnapshot]
  rfl

theorem CaseAccessStep.version {r : Request} {db : Store} {tr : Trace} {id : CaseId} {c c' : CaseFile}
    (h : CaseAccessStep r db tr id c c') : c'.row.participantVersion = c.row.participantVersion + 1 := by
  cases h <;> rfl

/-- **A change of the access writes one event, whose replay is the change.** -/
theorem CaseAccessStep.replay {r : Request} {db : Store} {tr : Trace} {id : CaseId} {c c' : CaseFile}
    (h : CaseAccessStep r db tr id c c') :
    ∃ event, c'.events = c.events ++ [event] ∧ event.replay c.accessRecord = some c'.accessRecord := by
  cases h with
  | participantChanged actorId participantId data actor p account time hr h hfound =>
    refine ⟨_, rfl, ?_⟩
    have hid : p.id = participantId := by simpa using List.find?_some hfound
    subst hid
    rw [CaseEvent.replay, if_pos ⟨find_snapshot hfound, rfl⟩]
    exact congrArg some (congrArg₂ AccessRecord.mk (map_snapshot _ _ _).symm rfl)
  | participantAdded actorId data actor added time =>
    refine ⟨_, rfl, ?_⟩
    simp only [CaseEvent.replay, CaseFile.accessRecord, List.map_append]
    rfl
  | publicAccess actorId data actor seen =>
    refine ⟨_, rfl, ?_⟩
    rw [CaseEvent.replay, if_pos (by rfl)]
    rfl

theorem CaseFile.SameAccess.record {c c' : CaseFile} (h : c.SameAccess c') : c'.accessRecord = c.accessRecord := by
  rw [CaseFile.accessRecord, h.participants, h.isSealed, CaseFile.accessRecord]

theorem CaseFile.SameAccess.trans {c c' c'' : CaseFile} (h : c.SameAccess c') (h' : c'.SameAccess c'') :
    c.SameAccess c'' where
  participants := h'.participants.trans h.participants
  isSealed := h'.isSealed.trans h.isSealed
  version := h'.version.trans h.version
  events := h'.events.trans h.events

/-! ## Runs -/

/-- **A property that a case has in one world and every change keeps, it has in every later world.** -/
theorem Run.case_since {I : CaseFile → Prop} (h : Run cfg w₀ w) {id : CaseId} {c : CaseFile}
    (hc : w.db (.case id) = some c) (h₀ : I c)
    (hsame : ∀ c₁ c₂, I c₁ → c₁.SameAccess c₂ → I c₂)
    (hstep : ∀ r db tr c₁ c₂, I c₁ → CaseAccessStep r db tr id c₁ c₂ → I c₂) (hs : Steps (portal cfg) w w') :
    ∃ c', w'.db (.case id) = some c' ∧ I c' := by
  refine h.row_since (g := .case id) rfl (I := fun v => ∃ c', v = some c' ∧ I c') ⟨c, hc, h₀⟩ ?_ hs
  rintro w₁ sid s a hrun hs₁ hcommit ⟨c₁, hc₁, hI⟩ ⟨c₂, hc₂, ⟨c₁', hc₁', _, _, _, hchange⟩ | ⟨_, _, _, hnew, _⟩⟩
  · cases hc₁.symm.trans hc₁'
    exact ⟨c₂, hc₂, hchange.elim (hsame _ _ hI) (hstep _ _ _ _ _ hI)⟩
  · exact absurd hnew ((hrun.spent (.case (by rw [hc₁]; rfl))).not_drawn hcommit)

/-- **A version of the access is never come back to.** -/
theorem Run.access_advances (h : Run cfg w₀ w) {id : CaseId} {c : CaseFile} (hc : w.db (.case id) = some c)
    (hs : Steps (portal cfg) w w') : ∃ c', w'.db (.case id) = some c' ∧
      (c.SameAccess c' ∨ c.row.participantVersion < c'.row.participantVersion) := by
  refine h.case_since (I := fun c' => c.SameAccess c' ∨ c.row.participantVersion < c'.row.participantVersion) hc
    (.inl ⟨rfl, rfl, rfl, rfl⟩) (fun c₁ c₂ hI hsame => ?_) (fun r db tr c₁ c₂ hI hstep => ?_) hs
  · rw [hsame.version]
    exact hI.imp_left fun h => h.trans hsame
  · rw [hstep.version]
    refine .inr ?_
    rcases hI with hI | hI
    · rw [hI.version]
      exact Nat.lt_succ_self _
    · exact Nat.lt_succ_of_lt hI

/-- The record and the events that a case starts from: its own at first, or none if it was opened since. -/
def startRecord (start : Option CaseFile) : AccessRecord := start.elim ⟨[], false⟩ CaseFile.accessRecord

def startEvents (start : Option CaseFile) : List CaseEvent := start.elim [] CaseFile.events

/-- The events since the start, replayed, come to the record of the case. -/
structure Replayed (start : Option CaseFile) (c : CaseFile) : Prop where
  replay : ∃ events, c.events = startEvents start ++ events ∧
    events.foldlM CaseEvent.replay (startRecord start) = some c.accessRecord

theorem Replayed.step {start : Option CaseFile} {r : Request} {db : Store} {tr : Trace} {id : CaseId} {c c' : CaseFile}
    (h : Replayed start c) (hstep : CaseAccessStep r db tr id c c') : Replayed start c' := by
  obtain ⟨events, hevents, hreplay⟩ := h.replay
  obtain ⟨event, hevent, hlast⟩ := hstep.replay
  refine ⟨events ++ [event], by rw [hevent, hevents, List.append_assoc], ?_⟩
  rw [List.foldlM_append, hreplay]
  simpa using hlast

theorem Replayed.same {start : Option CaseFile} {c c' : CaseFile} (h : Replayed start c) (hsame : c.SameAccess c') :
    Replayed start c' := by
  obtain ⟨events, hevents, hreplay⟩ := h.replay
  exact ⟨events, hsame.events.trans hevents, hsame.record ▸ hreplay⟩

theorem Run.access_replayed (h : Run cfg w₀ w) {id : CaseId} {c : CaseFile} (hc : w.db (.case id) = some c) :
    Replayed (w₀.db (.case id)) c := by
  have hall : ∀ c, w.db (.case id) = some c → Replayed (w₀.db (.case id)) c := by
    refine Run.row_since (g := .case id) rfl (I := fun v => ∀ c, v = some c → Replayed (w₀.db (.case id)) c)
      ⟨h.start, .refl⟩ (fun c hc => ⟨[], ?_⟩) ?_ h.steps
    · rw [hc]
      exact ⟨(List.append_nil _).symm, rfl⟩
    · intro w₁ sid s a hrun _ hcommit hI ⟨c₂, hc₂, hstep⟩ c hc
      cases hc₂.symm.trans hc
      rcases hstep with ⟨c₁, hc₁, _, _, _, hchange⟩ | ⟨_, _, _, hnew, _, _, _, _, _, _, _, hbare⟩
      · exact hchange.elim (hI c₁ hc₁).same (hI c₁ hc₁).step
      · have hnone : w₁.db (.case id) = none := by
          by_contra hsome
          exact (hrun.spent (.case (Option.isSome_iff_ne_none.2 hsome))).not_drawn hcommit hnew
        rw [hrun.case_absent hnone]
        refine ⟨c₂.events, rfl, ?_⟩
        rw [hbare.events, CaseFile.accessRecord, hbare.participants, hbare.isSealed]
        rfl
  exact hall c hc

/-! ## The law -/

/-- A request on the access to a case, with its actor and the version that he reviewed. -/
inductive AccessRequest (id : CaseId) (actorId : UserId) (expected : Nat) : Request → Prop where
  | participant (participantId : Option ParticipantId) (data : ParticipantChange)
      (h : data.expectedVersion = expected) :
      AccessRequest id actorId expected (.changeParticipant actorId id participantId data)
  | publicAccess (data : PublicCaseAccessChange) (h : data.expectedVersion = expected) :
      AccessRequest id actorId expected (.changePublicAccess actorId id data)

theorem AccessRequest.still {id : CaseId} {actorId : UserId} {expected : Nat} {r : Request}
    (h : AccessRequest id actorId expected r) : ((portal cfg).program r).Asks Op.Still := by
  cases h with
  | participant participantId data => exact (changeParticipant_still _ _ _ _).bind fun _ => by simp
  | publicAccess data => exact (changePublicAccess_still _ _ _).bind fun _ => by simp

/-- What a request changes: the access to this case, from the version reviewed to the next, with an
event about others. -/
structure CaseAccessChange (w w' : PortalWorld) (id : CaseId) (actorId : UserId) (expected : Nat) (c c' : CaseFile)
    (event : CaseEvent) : Prop where
  before : w.db (.case id) = some c
  after : w'.db = Function.update w.db (.case id) (some c')
  reviewed : c.row.participantVersion = expected
  raised : c'.row.participantVersion = expected + 1
  events : c'.events = c.events ++ [event]
  replay : event.replay c.accessRecord = some c'.accessRecord
  others : event.OthersOnly actorId c

/-- Each request on the access to a case makes one such change or none; the events add up to what the case is. -/
structure AccessLaw (cfg : Settings) (w₀ w : PortalWorld) : Prop where
  requests : ∀ w₁ w₂, Steps (portal cfg) w₀ w₁ → Step (portal cfg) w₁ w₂ → Steps (portal cfg) w₂ w →
    ∀ sid s id actorId expected, w₂.sessions sid = some s → w₂.sessions sid ≠ w₁.sessions sid →
      AccessRequest id actorId expected s.request →
      w₂.db = w₁.db ∨ ∃ c c' event, CaseAccessChange w₁ w₂ id actorId expected c c' event
  replayed : ∀ id c, w.db (.case id) = some c → Replayed (w₀.db (.case id)) c

/-- If the request changes the public access to a case, its own-case check read a version as far as the one expected. -/
def ownCheckReached (r : Request) (tr : Trace) : Bool :=
  match r with
  | .changePublicAccess _ id data => (reads (.case id) tr).getLast?.all fun seen =>
    seen.any fun c => decide (data.expectedVersion ≤ c.row.participantVersion)
  | _ => true

theorem Run.access_changes (h : Run cfg w₀ w) {sid : Nat} {s : Session View Failure Response Request} {a : Response}
    (hc : Commits (portal cfg) w sid s a) {id : CaseId} {actorId : UserId} {expected : Nat}
    (hr : AccessRequest id actorId expected s.request) : AccessChanges s.request w.db s.trace id := by
  have hends := hc.ends
  have hcurrent := h.guarded.current _ _ hc.found hc.running
  generalize s.request = r at hends hr ⊢
  have hsaved : ∀ {α : Type} {p : Portal α}, Meets w.db p (fun tr _ => AccessChanges r w.db tr id) →
      Meets w.db (thenSaved p) fun tr _ => AccessChanges r w.db tr id := by
    intro α p hp
    simp only [thenSaved, meets_bind, meets_pure, List.append_nil]
    exact hp
  cases hr with
  | participant participantId data => exact hsaved changeParticipant_access _ _ hends hcurrent
  | publicAccess data => exact hsaved changePublicAccess_access _ _ hends hcurrent

theorem Run.own_check (h : Run cfg w₀ w) {sid : Nat} {s : Session View Failure Response Request}
    (hs : w.sessions sid = some s) {id : CaseId} {seen : Option CaseFile}
    (hseen : (reads (.case id) s.trace).getLast? = some seen) :
    ∃ w₁, Run cfg w₀ w₁ ∧ Steps (portal cfg) w₁ w ∧ seen = w₁.db (.case id) := by
  obtain ⟨w₁, _, hs₁, hs₂, _, _, _, hval⟩ := h.steps.last_read (h.start.idle sid) hs hseen
  exact ⟨w₁, ⟨h.start, hs₁⟩, hs₂, hval.symm⟩

/-- **The participants that the own-case check read are those at the commit,** if it read the version reviewed. -/
theorem Run.own_case (h : Run cfg w₀ w) {sid : Nat} {s : Session View Failure Response Request}
    (hs : w.sessions sid = some s) (hcheck : ownCheckReached s.request s.trace = true) {id : CaseId} {actorId : UserId}
    {data : PublicCaseAccessChange} (hreq : s.request = .changePublicAccess actorId id data) {seen : Option CaseFile}
    (hseen : (reads (.case id) s.trace).getLast? = some seen) {c : CaseFile} (hc : w.db (.case id) = some c)
    (hversion : c.row.participantVersion = data.expectedVersion) :
    ∃ c₀, seen = some c₀ ∧ c.participants = c₀.participants := by
  simp only [hreq, ownCheckReached, hseen, Option.all_some, Option.any_eq_true, decide_eq_true_eq] at hcheck
  obtain ⟨c₀, rfl, hle⟩ := hcheck
  obtain ⟨w₁, h₁, hs₁, hc₀⟩ := h.own_check hs hseen
  obtain ⟨c₁, hc₁, hadvance⟩ := h₁.access_advances hc₀.symm hs₁
  cases hc.symm.trans hc₁
  rcases hadvance with hsame | hlt
  · exact ⟨c₀, rfl, hsame.participants⟩
  · exact absurd hlt (by omega)

/-- **A commit of a request on the access changes nothing, or the access to its case by one version.** -/
theorem Run.access_change (h : Run cfg w₀ w) {sid : Nat} {s : Session View Failure Response Request} {a : Response}
    (hc : Commits (portal cfg) w sid s a) (hcheck : ownCheckReached s.request s.trace = true) {id : CaseId}
    {actorId : UserId} {expected : Nat}
    (hr : AccessRequest id actorId expected s.request) :
    (w.committed sid s a).db = w.db ∨
      ∃ c c' event, CaseAccessChange w (w.committed sid s a) id actorId expected c c' event := by
  rcases h.access_changes hc hr with hsame | ⟨c, c', hdb, hstep, hcommit⟩
  · exact .inl hsame
  · obtain ⟨event, hevent, hreplay⟩ := hstep.replay
    have hraised := hstep.version
    refine .inr ⟨c, c', event, ?_⟩
    cases hstep with
    | participantChanged actorId' participantId data actor p account time hreq hreview hfound hown hother =>
      cases List.append_cancel_left hevent
      rw [hreq] at hr
      cases hr with
      | participant _ _ hexpected =>
        cases hexpected
        exact ⟨hdb, hcommit, hreview.version, hreview.version ▸ hraised, hevent, hreplay, rfl, hown, hother⟩
    | participantAdded actorId' data actor added time hreq hreview hid hother =>
      cases List.append_cancel_left hevent
      rw [hreq] at hr
      cases hr with
      | participant _ _ hexpected =>
        cases hexpected
        exact ⟨hdb, hcommit, hreview.version, hreview.version ▸ hraised, hevent, hreplay, rfl, by simp, hother⟩
    | publicAccess actorId' data actor seen hreq hreview hseen hother hchanged =>
      cases List.append_cancel_left hevent
      obtain ⟨c₀, rfl, hsame⟩ := h.own_case hc.found hcheck hreq hseen hdb hreview.version
      rw [hreq] at hr
      cases hr with
      | publicAccess _ hexpected =>
        cases hexpected
        refine ⟨hdb, hcommit, hreview.version, hreview.version ▸ hraised, hevent, hreplay, rfl, ?_⟩
        rw [hsame]
        exact hother c₀ rfl

/-- **Every request on the access changes nothing, or raises the version of its case by one from the one reviewed, about
others than its actor; and the events of a case, replayed, come to its participants and its seal.** -/
theorem Run.access_kept (h : Run cfg w₀ w)
    (hcheck : ∀ sid s a, w.sessions sid = some s → s.status = .committed a → ownCheckReached s.request s.trace = true) :
    AccessLaw cfg w₀ w where
  requests w₁ w₂ hs₁ hstep hs₂ sid s id actorId expected hs hmoved hr := by
    rcases hstep.still hs hmoved hr.still with hsame | ⟨s₁, a, hc, rfl, hreq⟩
    · exact .inl hsame
    · have h₁ : Run cfg w₀ w₁ := ⟨h.start, hs₁⟩
      have hended : (w₁.committed sid s₁ a).sessions sid = some { s₁ with status := .committed a } := by
        simp [World.committed, World.put]
      have hreached := hcheck sid _ a (hs₂.ended hended (by simp)) rfl
      exact h₁.access_change hc hreached (hreq ▸ hr)
  replayed id c hc := h.access_replayed hc

/-! ## Sealing a case -/

/-- The clerk seals a case, and then ends the part of the filer in it. -/
def sealingRequests : List (Instant × Request) := [
  (1000, .changePublicAccess 2 1 ⟨0, true, false, "Motion to seal", "Order of the court"⟩),
  (2000, .changeParticipant 2 1 (some 1) {
    partyName := "A", role := .plaintiff, accountEmail := some "filer@example.org", attorneyBarNumber := none
    representedPartyName := none, isActive := false, accessEnabled := false, expectedVersion := 1
    reason := "Dismissed", access := by simp })]

def sealedWorld : PortalWorld := smallWorld.serveAll (portal .demo) 0 sealingRequests

theorem sealedWorld_sessions {sid : Nat} {s : Session View Failure Response Request}
    (hs : sealedWorld.sessions sid = some s) : ownCheckReached s.request s.trace = true := by
  have hall : ∀ sid < 2, (sealedWorld.sessions sid).all (fun s => ownCheckReached s.request s.trace) = true := by
    decide +kernel
  by_cases hsid : sid < 2
  · have hreached := hall sid hsid
    rw [hs] at hreached
    exact hreached
  · have hcalm : sealedWorld.Calm (0 + 2) [] := World.serveAll_calm smallWorld_initial.idle.calm
    rw [hcalm.unused sid (by omega)] at hs
    cases hs

/-- Both requests change the case. -/
theorem sealedWorld_kept : AccessLaw .demo smallWorld sealedWorld ∧
    (sealedWorld.db (.case 1)).any (fun c => c.row.participantVersion == 2) = true :=
  ⟨Run.access_kept (Run.serveAll smallWorld_initial (by decide +kernel)) fun _ _ _ hs _ => sealedWorld_sessions hs,
    by decide +kernel⟩

/-- The clerk asks to seal the case, expecting the version after the present one. -/
def earlySeal : Request := .changePublicAccess 2 1 ⟨1, true, false, "Motion to seal", "Order of the court"⟩

def clerkAdded : Request := .changeParticipant 10 1 none {
  partyName := "Clerk", role := .defendant, accountEmail := some "clerk@example.org", attorneyBarNumber := none
  representedPartyName := none, isActive := true, accessEnabled := false, expectedVersion := 0
  reason := "Joined", access := by simp }

def earlyPart : Trace × Portal Response :=
  ((portal .demo).program earlySeal).opening (portal .demo).row 3000 deputyWorld.db 3

def pausedSeal : PortalWorld := deputyWorld.pause (portal .demo) 2 3000 3 earlySeal

def clerkJoined : PortalWorld := pausedSeal.serve (portal .demo) 3 4000 clerkAdded

theorem pausedSeal_steps : Steps (portal .demo) deputyWorld pausedSeal ∧
    ((portal .demo).program earlySeal).After earlyPart.1 earlyPart.2 :=
  World.pause_steps deputyWorld_calm 3000 3 earlySeal fun _ _ => List.not_mem_nil

theorem clerkJoined_steps : Steps (portal .demo) pausedSeal clerkJoined :=
  World.serve_steps (World.pause_calm deputyWorld_calm 3000 3 earlySeal) (by decide +kernel) (by decide +kernel)

theorem earlySeal_commits : ∃ w s a, Run .demo smallWorld w ∧ Commits (portal .demo) w 2 s a ∧ s.request = earlySeal ∧
    (w.db (.case 1)).any
      (fun c => !c.row.isSealed && c.participants.any fun p => p.userId == some 2 && p.isActive) = true ∧
    ((w.committed 2 s a).db (.case 1)).any (fun c => c.row.isSealed) = true := by
  have hok : (earlyPart.2.alone (portal .demo).row 5000 clerkJoined.db clerkJoined.next).sound = true :=
    by decide +kernel
  have hanswer : (earlyPart.2.alone (portal .demo).row 5000 clerkJoined.db clerkJoined.next).result.isOk = true := by
    decide +kernel
  have hcalm : clerkJoined.CalmBut 2 [] := (deputyWorld_calm.but 2).put (s := ⟨earlySeal, earlyPart.1, .running⟩) rfl
    |>.serve 4000 clerkAdded
  have hfound : clerkJoined.sessions 2 = some ⟨earlySeal, earlyPart.1, .running⟩ := rfl
  cases hr : (earlyPart.2.alone (portal .demo).row 5000 clerkJoined.db clerkJoined.next).result with
  | error x =>
    rw [hr] at hanswer
    cases hanswer
  | ok a =>
    obtain ⟨w, s, hsteps, hc, hresume, hreq, _, hdb⟩ := World.resume_commits hcalm hfound pausedSeal_steps.2 hok hr
    refine ⟨w, s, a, ((deputyWorld_run.trans pausedSeal_steps.1).trans clerkJoined_steps).trans hsteps,
      hc, hreq, ?_, ?_⟩
    · rw [hdb, Txn.alone_row hok (g := .case 1) rfl]
      decide +kernel
    · rw [← hresume]
      decide +kernel

/-- **A clerk who expects the next version seals a case in which he is a defendant by then.** -/
theorem ownCase_sealed : ∃ w, Run .demo smallWorld w ∧ ¬ AccessLaw .demo smallWorld w := by
  obtain ⟨w, s, a, hrun, hc, hreq, hpart, hsealed⟩ := earlySeal_commits
  have hstep : Step (portal .demo) w (w.committed 2 s a) := .commit 2 s a hc
  refine ⟨w.committed 2 s a, hrun.tail hstep, fun hlaw => ?_⟩
  have hfound : (w.committed 2 s a).sessions 2 = some { s with status := .committed a } := by
    simp [World.committed, World.put]
  have hmoved : (w.committed 2 s a).sessions 2 ≠ w.sessions 2 := by
    rw [hfound, hc.found]
    intro heq
    have hstatus := congrArg Session.status (Option.some.inj heq)
    rw [hc.running] at hstatus
    cases hstatus
  have hrequest : AccessRequest 1 2 1 s.request := hreq ▸ .publicAccess _ rfl
  obtain ⟨c, hcase, hpart⟩ := (Option.any_eq_true _ _).1 hpart
  obtain ⟨c', hcase', hsealed⟩ := (Option.any_eq_true _ _).1 hsealed
  simp only [Bool.and_eq_true, Bool.not_eq_true', List.any_eq_true, beq_iff_eq] at hpart
  obtain ⟨hopen, p, hp, hown, hactive⟩ := hpart
  have hunlike : c'.accessRecord.isSealed ≠ c.accessRecord.isSealed := by
    simp only [CaseFile.accessRecord, hopen, hsealed]
    decide
  rcases hlaw.requests w _ hrun.steps hstep .refl 2 _ 1 2 1 hfound hmoved hrequest with
    hsame | ⟨c₁, c₁', event, hchange⟩
  · rw [hsame, hcase] at hcase'
    cases hcase'
    exact hunlike rfl
  · cases hcase.symm.trans hchange.before
    rw [hchange.after, Function.update_self] at hcase'
    cases hcase'
    have hothers := hchange.others
    cases event with
    | participant actorId name reason before after => exact hunlike (CaseEvent.replay_participant hchange.replay)
    | publicAccess =>
      rw [hothers.2 p hp hown] at hactive
      cases hactive

end Muefs
