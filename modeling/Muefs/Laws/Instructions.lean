import Muefs.Deliveries.Packets
import Muefs.Laws.Alerts

/-!
# Service instructions and their record

* `ContactEvent.replay`, `replayContacts` : the snapshots that the events of a case lead to;
* `ReviewedBy` : the save of a contact, by the court's staff, and what it read;
* `Recounted`, `BothRun.contacts` : the law: the events replay to the contacts, version after version.
-/

namespace Muefs
open RowLocks

variable {cfg : Settings} {w₀ w w' : BothWorld}

/-! ## Replay -/

/-- The snapshots of the contacts after an event. -/
def ContactEvent.replay (contacts : List ContactSnapshot) (event : ContactEvent) : List ContactSnapshot :=
  match event.before with
  | some before => contacts.map fun c => if c.id = before.id then event.after else c
  | none => contacts ++ [event.after]

/-- The snapshots after events one after the other. -/
def replayContacts (contacts : List ContactSnapshot) (events : List ContactEvent) : List ContactSnapshot :=
  events.foldl ContactEvent.replay contacts

theorem ContactStep.replay {r : ServiceRequest} {db : BothStore} {tr : BothTrace} {id : CaseId}
    {cs cs' : List ServiceContact} {event : ContactEvent} (h : ContactStep cfg r db tr id cs cs' event) :
    event.replay (cs.map contactSnapshot) = cs'.map contactSnapshot := by
  cases h with
  | revised _ _ _ old new event _ _ _ _ hbefore hafter =>
    unfold ContactEvent.replay
    simp only [hbefore, hafter, List.map_map]
    refine List.map_congr_left fun c _ => ?_
    simp only [Function.comp_apply, apply_ite contactSnapshot]
    rfl
  | added _ _ _ new event _ _ _ _ hbefore hafter =>
    unfold ContactEvent.replay
    rw [hbefore, hafter, List.map_append]
    rfl

theorem ContactStep.version {r : ServiceRequest} {db : BothStore} {tr : BothTrace} {id : CaseId}
    {cs cs' : List ServiceContact} {event : ContactEvent} (h : ContactStep cfg r db tr id cs cs' event) :
    event.after.version = (event.before.map ContactSnapshot.version).getD 0 + 1 := by
  cases h with
  | revised _ _ data old new event _ _ _ hreview hbefore hafter =>
    have hnext : new.version = old.version + 1 := by
      rw [hreview.version, ← hreview.expected]
      rfl
    rw [hbefore, hafter]
    exact hnext
  | added _ _ data new event _ _ _ hreview hbefore hafter =>
    have hfirst : new.version = 0 + 1 := by
      rw [hreview.version, ← hreview.expected]
      rfl
    rw [hbefore, hafter]
    exact hfirst

/-! ## Reviews -/

/-- The account of a participant as a session read it before it committed in `made`, if he has one. -/
def AccountSeen (cfg : Settings) (w₀ made : BothWorld) (sid : Nat) (s : BothSession) (p : CaseParticipant)
    (account : Option (UserId × User)) : Prop :=
  match p.userId with
  | none => account = none
  | some user => ∃ row read, AnsweredIn (bothPortal cfg) w₀ made sid s ⟨.look (.inl (.user user)), row⟩ read ∧
    account = row.map fun a => (user, a.user)

/-- **The save of a contact,** by its commit in `made`: of active staff of the case's court, another account than the
participant's; an active contact could be served. -/
structure ReviewedBy (cfg : Settings) (w₀ w : BothWorld) (id : CaseId) (c : ServiceContact) (userId : UserId)
    (data : ContactChange) (made : BothWorld) (sid : Nat) (s : BothSession) (a : ServiceResponse) : Prop where
  run : BothRun cfg w₀ made
  request : s.request = .saveServiceInstructions userId id c.participantId data
  commits : Commits (bothPortal cfg) made sid s a
  later : Steps (bothPortal cfg) (made.committed sid s a) w
  unsaved : c ∉ made.db (.inr (.contacts id))
  saved : c ∈ (made.committed sid s a).db (.inr (.contacts id))
  reviewer : c.reviewerId = some userId
  apart : c.userId ≠ some userId
  review : ∃ (actor : Account) (case : CaseFile) (p : CaseParticipant), made.db (.inl (.user userId)) = some actor ∧
    made.db (.inl (.case id)) = some case ∧ actor.user.isActive = true ∧ actor.isCourtStaff case.row.courtId = true ∧
    case.participants.find? (fun p => p.id == c.participantId) = some p ∧
    c.participantSnapshot = some (participantSnapshot p) ∧ c.userId = p.userId ∧
    (c.isActive = true → ∃ account, AccountSeen cfg w₀ made sid s p account ∧
    routingIssues cfg case.row p account c = [])

section Reviews
variable {id : CaseId} {c : ServiceContact} {userId : UserId} {data : ContactChange} {made : BothWorld} {sid : Nat}
  {s : BothSession} {a : ServiceResponse}

theorem ReviewedBy.since (h : ReviewedBy cfg w₀ w id c userId data made sid s a) (hs : Steps (bothPortal cfg) w w') :
    ReviewedBy cfg w₀ w' id c userId data made sid s a :=
  { h with later := h.later.trans hs }

theorem AccountRead.seen {p : CaseParticipant} {account : Option (UserId × User)} (h : BothRun cfg w₀ made)
    (hs : made.sessions sid = some s) (hread : AccountRead s.trace p account) :
    AccountSeen cfg w₀ made sid s p account := by
  unfold AccountSeen
  rcases hread with ⟨hnone, haccount⟩ | ⟨user, row, huser, hlook, haccount⟩
  · rw [hnone]
    exact haccount
  · rw [huser]
    obtain ⟨read, hread⟩ := h.steps.answered_at h.start.idle hs hlook
    exact ⟨row, read, hread, haccount⟩

theorem ContactReview.reviewedBy {before : Option ServiceContact} (h : BothRun cfg w₀ made)
    (hc : Commits (bothPortal cfg) made sid s a)
    (hreview : ContactReview cfg made.db s.trace userId id c.participantId data before c)
    (hr : s.request = .saveServiceInstructions userId id c.participantId data)
    (hunsaved : c ∉ made.db (.inr (.contacts id))) (hsaved : c ∈ (made.committed sid s a).db (.inr (.contacts id))) :
    ReviewedBy cfg w₀ (made.committed sid s a) id c userId data made sid s a := by
  obtain ⟨actor, case, hactor, hcase, hactive, hstaff, _, p, hp, hown, hsnapshot, huser⟩ := hreview.staff
  refine {
    run := h
    request := hr
    commits := hc
    later := .refl
    unsaved := hunsaved
    saved := hsaved
    reviewer := hreview.reviewer
    apart := huser ▸ hown
    review := ⟨actor, case, p, hactor, hcase, hactive, hstaff, hp, hsnapshot, huser, fun hafter => ?_⟩ }
  obtain ⟨case', p', account, hcase', hp', hread, hissues⟩ := hreview.routable hafter
  cases hcase.symm.trans hcase'
  cases hp.symm.trans hp'
  exact ⟨account, hread.seen h hc.found, hissues⟩

end Reviews

/-- A contact that a step saves is a new one, or has the next version of one that was there. -/
def Renewed (db : BothStore) (tr : BothTrace) (id : CaseId) (c : ServiceContact) : Prop :=
  ⟨.fresh, c.id⟩ ∈ tr ∨ ∃ old ∈ db (.inr (.contacts id)), old.id = c.id ∧ old.version < c.version

theorem ContactStep.mem {r : ServiceRequest} {db : BothStore} {tr : BothTrace} {id : CaseId} {cs : List ServiceContact}
    {event : ContactEvent} (h : ContactStep cfg r db tr id (db (.inr (.contacts id))) cs event) {c : ServiceContact}
    (hc : c ∈ cs) : c ∈ db (.inr (.contacts id)) ∨ ∃ userId data before,
      r = .saveServiceInstructions userId id c.participantId data ∧ Renewed db tr id c ∧
        ContactReview cfg db tr userId id c.participantId data before c := by
  cases h with
  | revised userId participantId data old new event hr hold hid hreview =>
    obtain ⟨c₁, hc₁, rfl⟩ := List.mem_map.1 hc
    by_cases hsame : c₁.id = old.id
    · rw [if_pos hsame]
      obtain rfl := hreview.participantId
      have hnext : new.version = old.version + 1 := by
        rw [hreview.version, ← hreview.expected]
        rfl
      exact .inr ⟨userId, data, some old, hr, .inr ⟨old, List.mem_of_find?_eq_some hold, hid.symm, by omega⟩, hreview⟩
    · rw [if_neg hsame]
      exact .inl hc₁
  | added userId participantId data new event hr hnone hid hreview =>
    rcases List.mem_append.1 hc with hc | hc
    · exact .inl hc
    · cases List.mem_singleton.1 hc
      obtain rfl := hreview.participantId
      exact .inr ⟨userId, data, none, hr, .inl hid, hreview⟩

theorem Renewed.unsaved (h : BothRun cfg w₀ w) {sid : Nat} {s : BothSession} {a : ServiceResponse}
    (hc : Commits (bothPortal cfg) w sid s a) {id : CaseId} {c : ServiceContact} (hnew : Renewed w.db s.trace id c) :
    c ∉ w.db (.inr (.contacts id)) := by
  intro hmem
  rcases hnew with hfresh | ⟨old, hold, hid, hversion⟩
  · exact (h.spent (.contact id c hmem rfl)).not_drawn hc hfresh
  · have hsame : old = c := List.inj_on_of_nodup_map (h.contacts_distinct id) hold hmem hid
    rw [hsame] at hversion
    omega

/-! ## The law -/

/-- The contacts of a case and their record, since the start of the run. -/
structure Recounted (cfg : Settings) (w₀ w : BothWorld) (id : CaseId) (events : List ContactEvent) : Prop where
  record : w.db (.inr (.contactEvents id)) = w₀.db (.inr (.contactEvents id)) ++ events
  replay : replayContacts ((w₀.db (.inr (.contacts id))).map contactSnapshot) events =
    (w.db (.inr (.contacts id))).map contactSnapshot
  versions : ∀ e ∈ events, e.after.version = (e.before.map ContactSnapshot.version).getD 0 + 1
  reviewed : ∀ c ∈ w.db (.inr (.contacts id)), c ∈ w₀.db (.inr (.contacts id)) ∨
    ∃ userId data made sid s a, ReviewedBy cfg w₀ w id c userId data made sid s a

theorem BothRun.contacts_step (h : BothRun cfg w₀ w) {sid : Nat} {s : BothSession} {a : ServiceResponse}
    (hc : Commits (bothPortal cfg) w sid s a) (id : CaseId) :
    (commit s.trace w.db (.inr (.contacts id)) = w.db (.inr (.contacts id)) ∧
      commit s.trace w.db (.inr (.contactEvents id)) = w.db (.inr (.contactEvents id))) ∨
    ∃ event, commit s.trace w.db (.inr (.contactEvents id)) = w.db (.inr (.contactEvents id)) ++ [event] ∧
      ContactStep cfg s.request w.db s.trace id (w.db (.inr (.contacts id)))
        (commit s.trace w.db (.inr (.contacts id))) event := by
  rcases (h.changes hc).right (.contactEvents id) with hsame | ⟨event, hevents, hstep⟩
  · rcases (h.changes hc).right (.contacts id) with heq | ⟨event, _, hevents⟩
    · exact .inl ⟨heq, hsame⟩
    · exact absurd (hsame.symm.trans hevents) (by simp)
  · exact .inr ⟨event, hevents, hstep⟩

/-- **The record of a case's service instructions replays to them,** one version after the other. Each contact is from
the start of the run or was saved by active staff of the court, never the participant himself. -/
theorem BothRun.contacts (h : BothRun cfg w₀ w) (id : CaseId) : ∃ events, Recounted cfg w₀ w id events := by
  obtain ⟨hstart, hsteps⟩ := h
  induction hsteps with
  | refl => exact ⟨[], by simp, rfl, by simp, fun c hc => .inl hc⟩
  | @tail w₁ w₂ hsteps hs ih =>
    have hrun : BothRun cfg w₀ w₁ := ⟨hstart, hsteps⟩
    obtain ⟨events, hrecord, hreplay, hversions, hreviewed⟩ := ih
    have hlater : ∀ c ∈ w₁.db (.inr (.contacts id)), c ∈ w₀.db (.inr (.contacts id)) ∨
        ∃ userId data made sid s a, ReviewedBy cfg w₀ w₂ id c userId data made sid s a := by
      intro c hc
      refine (hreviewed c hc).imp_right ?_
      rintro ⟨userId, data, made, sid, s, a, hby⟩
      exact ⟨userId, data, made, sid, s, a, hby.since (.single hs)⟩
    rcases BothRun.step_cases hs with heq | ⟨sid, s, a, hc, rfl⟩
    · have hcontacts := heq (.inr (.contacts id)) rfl
      refine ⟨events, (heq (.inr (.contactEvents id)) rfl).trans hrecord, by rw [hcontacts]; exact hreplay,
        hversions, ?_⟩
      rw [hcontacts]
      exact hlater
    · rcases hrun.contacts_step hc id with ⟨hcontacts, hevents⟩ | ⟨event, hevents, hstep⟩
      · refine ⟨events, hevents.trans hrecord, hreplay.trans (congrArg _ hcontacts.symm), hversions, ?_⟩
        intro c hmem
        exact hlater c (hcontacts ▸ hmem)
      · refine ⟨events ++ [event], ?_, ?_, ?_, ?_⟩
        · exact hevents.trans (by rw [hrecord, List.append_assoc])
        · rw [replayContacts, List.foldl_append]
          change event.replay (replayContacts _ events) = _
          rw [hreplay]
          exact hstep.replay
        · intro e he
          rcases List.mem_append.1 he with he | he
          · exact hversions e he
          · rw [List.mem_singleton.1 he]
            exact hstep.version
        · intro c hmem
          change c ∈ commit s.trace w₁.db (.inr (.contacts id)) at hmem
          rcases hstep.mem hmem with hold | ⟨userId, data, before, hr, hnew, hreview⟩
          · exact hlater c hold
          · have hunsaved := hnew.unsaved hrun hc
            exact .inr ⟨userId, data, w₁, sid, s, a, hreview.reviewedBy hrun hc hr hunsaved hmem⟩

/-- The clerk withdraws the defendant's service instructions. -/
def withdrawal : ContactChange where
  method := .electronic
  email := some "b@example.org"
  address := none
  isActive := false
  authority := "Court order"
  reason := "Withdrawn"
  expectedVersion := 1
  expectedParticipantVersion := 0
  destination := by decide

def withdrawnWorld : BothWorld :=
  sentWorld.serveAll (bothPortal mailedSettings) 4 [(5000, .saveServiceInstructions 2 1 2 withdrawal),
    (6000, .claimNextEmail 17)]

/-- One version more is on record, and nothing was sent. -/
theorem BothRun.contacts_withdrawn : ∃ events, events.length = 1 ∧
    Recounted mailedSettings mailedWorld withdrawnWorld 1 events ∧
    (withdrawnWorld.db (.inr (.notice 17))).any (fun notice => notice.attempts.isEmpty) = true := by
  have hrun : BothRun mailedSettings mailedWorld withdrawnWorld := sentWorld_serve (by decide +kernel)
  obtain ⟨events, hcontacts⟩ := hrun.contacts 1
  have hlength : (withdrawnWorld.db (.inr (.contactEvents 1))).length = 1 := by decide +kernel
  rw [hcontacts.record] at hlength
  exact ⟨events, hlength, hcontacts, by decide +kernel⟩

end Muefs
