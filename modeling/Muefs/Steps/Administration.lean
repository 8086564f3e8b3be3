import Muefs.Steps.Opening

/-!
# What the administrative requests change

Intake, calendars, participants and sealing: none of them touches a filing, opens a case or changes a fee.
-/

namespace Muefs
open RowLocks

variable {cfg : Settings} {db : Store} {userId : UserId}

/-! ## Intake and calendars -/

theorem lockCaseTypes_meets {ids : List CaseTypeId} :
    Meets db (lockCaseTypes ids) fun tr types => Quiet tr ∧ ∀ t ∈ types, db (.caseType t.1) = some t.2 := by
  induction ids with
  | nil => simp [lockCaseTypes, Writes]
  | cons id ids ih =>
    simp only [lockCaseTypes, meets_bind, meets_lock, meets_pure]
    refine ih.mono ?_
    rintro tr rest ⟨hq, hrest⟩
    refine ⟨by simp [hq, Writes], ?_⟩
    cases hrow : db (.caseType id) with
    | none => exact hrest
    | some caseType =>
      intro t ht
      rcases List.mem_cons.1 ht with rfl | ht
      · exact hrow
      · exact hrest t ht

theorem setActive_meets {r : Request} {db' : Store} {tr' : Trace} {desired : List (CaseTypeId × Bool)}
    {types : List (CaseTypeId × CaseType)} (h : ∀ t ∈ types, db (.caseType t.1) = some t.2) :
    Meets db (setActive desired types) fun tr _ => Writes (RowStep cfg r db db' tr') tr := by
  induction types with
  | nil => simp [setActive, Writes]
  | cons t types ih =>
    obtain ⟨id, caseType⟩ := t
    simp only [setActive, meets_bind, meets_write]
    refine (ih fun t ht => h t (List.mem_cons_of_mem _ ht)).mono fun tr _ htr => ?_
    simp only [writes_append, Writes, htr, and_true]
    exact fun _ => ⟨caseType, _, h _ List.mem_cons_self, rfl⟩

theorem publishIntake_changes {courtId : CourtId} {data : CourtIntakeChange} :
    Meets db (publishIntake userId courtId data) fun tr _ =>
      Changes cfg (.publishIntake userId courtId data) db tr := by
  simp only [publishIntake, meets_bind, meets_lock, meets_expect, meets_require, meets_look, meets_ite, meets_write,
    meets_pure]
  refine lockCurrentUser_meets.mono ?_
  rintro tr₁ account ⟨h₁, _⟩
  refine requireCourtAdministrator_meets.mono ?_
  rintro tr₂ _ ⟨h₂, _⟩ court hcourt _ ids
  refine lockCaseTypes_meets.mono ?_
  rintro tr₃ types ⟨h₃, htypes⟩ _
  refine ⟨fun _ => ?_, fun _ _ => ?_⟩
  · exact .of_quiet (by simp [h₁, h₂, h₃, Writes])
  · intro tr₄ out hends hcur
    refine .of_writes ?_
    simp only [writes_append, h₁.writes, h₂.writes, h₃.writes, Writes, true_and, and_true]
    exact ⟨fun _ => trivial, setActive_meets htypes tr₄ out hends hcur⟩

theorem publishCalendar_changes {courtId : CourtId} {data : CourtCalendar} :
    Meets db (publishCalendar userId courtId data) fun tr _ =>
      Changes cfg (.publishCalendar userId courtId data) db tr := by
  simp only [publishCalendar, meets_bind, meets_require, meets_newId, meets_write]
  refine lockCurrentUser_meets.mono ?_
  rintro tr₁ account ⟨h₁, _⟩ _ id
  refine .of_writes ?_
  simp only [writes_append, h₁.writes, Writes, true_and, and_true]
  exact fun _ => trivial

/-! ## Cases -/

theorem requireCaseStaff_meets {account : Account} {caseId : CaseId} :
    Meets db (requireCaseStaff account caseId) fun tr _ => Quiet tr ∧ account.user.isActive = true := by
  simp only [requireCaseStaff, meets_bind, meets_look, meets_expect, meets_require]
  rintro _ _ _ ⟨hactive, _⟩
  exact ⟨by simp [Writes], hactive⟩

theorem changedParticipant_meets {case : CaseFile} {id : Option ParticipantId} :
    Meets db (changedParticipant case id) fun tr p => tr = [] ∧
      ((id = none ∧ p = none) ∨ ∃ i q, id = some i ∧ p = some q ∧
        case.participants.find? (fun p => p.id == i) = some q) := by
  cases id with
  | none => simp [changedParticipant]
  | some id =>
    simp only [changedParticipant, meets_bind, meets_expect, meets_pure]
    exact fun p hp => ⟨rfl, .inr ⟨id, p, rfl, rfl, hp⟩⟩

theorem participantAccount_meets {data : ParticipantChange} :
    Meets db (participantAccount cfg data) fun tr _ => Quiet tr := by
  unfold participantAccount
  split
  · simp [Writes]
  · rw [meets_bind]
    refine selectUsers_meets.mono ?_
    rintro tr₁ matching ⟨h₁, _⟩
    split
    · exact meets_raise
    · simp only [meets_bind, meets_require, meets_pure]
      exact fun _ => by simp [h₁]
    · exact meets_raise

/-- The commit leaves the store as it is, or changes the access to this case and nothing else. -/
inductive AccessChanges (r : Request) (db : Store) (tr : Trace) (id : CaseId) : Prop where
  | none (h : commit tr db = db)
  | case (c c' : CaseFile) (hc : db (.case id) = some c) (h : CaseAccessStep r db tr id c c')
      (hdb : commit tr db = Function.update db (.case id) (some c'))

theorem AccessChanges.of_quiet {r : Request} {tr : Trace} {id : CaseId} (h : Quiet tr) : AccessChanges r db tr id :=
  .none (h.commit db)

theorem CaseAccessStep.saved {r : Request} {id : CaseId} {c c' : CaseFile} {pre : Trace} (hc : db (.case id) = some c)
    (hpre : Quiet pre) (h : CaseAccessStep r db (pre ++ [⟨.write (.case id) fun _ => some c', ()⟩]) id c c') :
    AccessChanges r db (pre ++ [⟨.write (.case id) fun _ => some c', ()⟩]) id :=
  .case c c' hc h (by rw [commit_quiet hpre]; rfl)

theorem AccessChanges.changes {r : Request} {id : CaseId} {tr : Trace} (h : AccessChanges r db tr id) :
    Changes cfg r db tr := by
  cases h with
  | none h => exact .of_same h
  | case c c' hc h hdb =>
    intro g
    rw [hdb]
    by_cases hg : g = .case id
    · subst hg
      rw [Function.update_self]
      refine .inr ⟨c', rfl, .inl ⟨c, hc, ?_, ?_, ?_, .inr h⟩⟩ <;> cases h <;> rfl
    · exact .inl (Function.update_of_ne hg _ _)

theorem changeParticipant_access {caseId : CaseId} {participantId : Option ParticipantId} {data : ParticipantChange} :
    Meets db (changeParticipant cfg userId caseId participantId data) fun tr _ =>
      AccessChanges (.changeParticipant userId caseId participantId data) db tr caseId := by
  simp only [changeParticipant, meets_bind, meets_lock, meets_expect, meets_require]
  intro actor hactor
  refine requireCaseStaff_meets.mono ?_
  rintro tr₁ _ ⟨h₁, hactive⟩ case hcase hversion
  refine changedParticipant_meets.mono ?_
  rintro _ p ⟨rfl, hp⟩
  refine participantAccount_meets.mono fun tr₂ other h₂ hown _ => ?_
  have hpre : Quiet ([⟨.lock .update (.user userId), db (.user userId)⟩] ++ (tr₁ ++
      ([⟨.lock .update (.case caseId), db (.case caseId)⟩] ++ tr₂))) := by simp [h₁, h₂, Writes]
  have hreviewed : ReviewedAccess db userId actor case data.expectedVersion := ⟨⟨hactor, hactive⟩, hversion⟩
  have hother : other.map Prod.fst ≠ some userId := by
    have hnot := hown.1
    cases other <;> simp_all
  rcases hp with ⟨rfl, rfl⟩ | ⟨i, q, rfl, rfl, hfound⟩
  · simp only [saveParticipants, meets_bind, meets_newId, meets_now, meets_write]
    intro id time
    have hquiet := writes_append.2 ⟨hpre, (by simp [Writes] : Quiet [⟨.fresh, id⟩, ⟨.clock, time⟩])⟩
    have h := CaseAccessStep.saved hcase hquiet
      (.participantAdded userId data actor (data.applied (other.map Prod.fst)
        { id, userId := none, role := data.role, partyName := data.partyName }) time rfl hreviewed
        (by simp [ParticipantChange.applied]) hother)
    simpa using h
  · simp only [saveParticipants, meets_bind, meets_now, meets_ite, meets_pure, meets_write]
    refine ⟨fun _ => .of_quiet (by simpa using hpre), fun _ time => ?_⟩
    have hquiet := writes_append.2 ⟨hpre, (by simp [Writes] : Quiet [⟨.clock, time⟩])⟩
    have h := CaseAccessStep.saved hcase hquiet
      (.participantChanged userId i data actor q (other.map Prod.fst) time rfl hreviewed hfound
        (by simpa using hown.2) hother)
    simpa using h

theorem changePublicAccess_access {caseId : CaseId} {data : PublicCaseAccessChange} :
    Meets db (changePublicAccess userId caseId data) fun tr _ =>
      AccessChanges (.changePublicAccess userId caseId data) db tr caseId := by
  simp only [changePublicAccess, meets_bind, meets_look, meets_require, meets_lock, meets_expect,
    meets_ite, meets_write, meets_pure]
  refine lockCurrentUser_meets.mono ?_
  rintro tr₁ account ⟨h₁, hactive⟩
  refine requireCaseStaff_meets.mono ?_
  rintro tr₂ _ ⟨h₂, _⟩ seen hown case hcase hversion
  refine ⟨fun _ => .of_quiet (by simp [h₁, h₂, Writes]), fun hchanged _ => ?_⟩
  have hquiet : Quiet (tr₁ ++ (tr₂ ++ ([⟨.look (.case caseId), seen⟩] ++
      [⟨.lock .update (.case caseId), db (.case caseId)⟩]))) := by simp [h₁, h₂, Writes]
  have hother : ∀ c₀, seen = some c₀ → ∀ p ∈ c₀.participants, p.userId = some userId → p.isActive = false := by
    rintro c₀ rfl p hp hid
    simp only [Option.any_some, List.any_eq_false, Bool.and_eq_true, beq_iff_eq, not_and, Bool.not_eq_true] at hown
    exact hown p hp hid
  have hlast : ∀ f, (reads (.case caseId) (tr₁ ++ tr₂ ++ ⟨.look (.case caseId), seen⟩ ::
      [⟨.lock .update (.case caseId), db (.case caseId)⟩, ⟨.write (.case caseId) f, ()⟩])).getLast? = some seen :=
    fun f => reads_last rfl
  have h := CaseAccessStep.saved hcase hquiet
    (.publicAccess userId data account seen rfl ⟨hactive, hversion⟩ (by simpa using hlast _) hother hchanged)
  simpa using h

/-! ## Accounts -/

theorem AccountChanges.changes {r : Request} {tr : Trace} (h : AccountChanges cfg r db tr) : Changes cfg r db tr := by
  rcases h with h | h
  · exact .of_quiet h
  · intro g
    have hframe : (∀ id, g ≠ .user id) → (∀ key, g ≠ .accountKey key) → g ≠ .userIds → commit tr db g = db g := by
      intro huser hkey hids
      cases h with
      | created _ _ _ _ _ _ _ _ _ h | bootstrapped _ _ _ _ _ _ h | registered _ _ _ _ _ _ h
      | provisioned _ _ _ _ _ _ _ _ _ _ _ h => exact h.frame g huser hkey hids
      | edited _ _ _ _ _ _ _ _ _ h | roleChanged _ _ _ _ _ _ _ _ _ h | linked _ _ _ _ _ _ _ _ _ _ _ h =>
        exact h.frame g huser hkey
      | synced claims id verified hr hrow hframe => exact hframe g (huser id)
    cases g with
    | user id => exact .inr h
    | accountKey key => exact .inr h
    | userIds => exact .inr h
    | _ => exact .inl (hframe (by simp) (by simp) (by simp))

end Muefs
