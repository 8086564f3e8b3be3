import Muefs.Laws.Creation
import Muefs.Laws.Integrity

/-!
# Filings are created and submitted where the court accepts them

* `Participates`, `Admitted` : what the store has to say of a filing's court, case type, case and filer;
* `FileStep.admitted`, `Run.created_admitted`, `Run.recorded_admitted` : it says so when a filing is created and when a
  receipt is recorded;
* `Run.creation_admitted`, `Run.submission_admitted` : a request for which it does not, changes nothing;
* `Run.submission_replayed` : a submission that is recorded is answered again;
* `Run.admission` : the law.
-/

namespace Muefs
open RowLocks

variable {cfg : Settings} {w₀ w w' : PortalWorld} {userId : UserId} {f : FilingId}

/-! ## Admission -/

/-- The filer takes part in the case: active, with access, reviewed by the court, as counsel with the bar number that
was verified. -/
structure Participates (filerId : UserId) (user : User) (p : CaseParticipant) : Prop where
  user_eq : p.userId = some filerId
  active : p.isActive = true
  access : p.accessEnabled = true
  reviewed : p.reviewedAt.isSome = true
  counsel : p.role.isCounsel = true → user.userType = .attorney ∧ user.barNumberVerified = true ∧
    ∃ number ≠ "", user.barNumber = some number ∧ p.attorneyBarNumber = some number

/-- The court and the case type accept electronic filings, and on an existing case the filer may file. -/
structure Admitted (db : Store) (filing : FilingEnvelope) : Prop where
  court : ∃ court, db (.court filing.courtId) = some court ∧ court.isEfilingEnabled = true
  caseType : ∃ caseType, db (.caseType filing.caseTypeId) = some caseType ∧ caseType.courtId = filing.courtId ∧
    caseType.isActive = true
  case : ∀ id, filing.caseId = some id → ∃ case account, db (.case id) = some case ∧
    ActiveFiler db filing.filerId account ∧ (∃ p ∈ case.participants, Participates filing.filerId account.user p) ∧
    userMayReadCase filing.filerId account case = true ∧ case.row.courtId = filing.courtId ∧
    case.row.caseTypeId = filing.caseTypeId

theorem participates_of_grantsFiling {filerId : UserId} {user : User} {p : CaseParticipant}
    (h : grantsFiling filerId user p = true) : Participates filerId user p := by
  simp only [grantsFiling, Bool.and_eq_true, beq_iff_eq, Bool.or_eq_true, Bool.not_eq_true'] at h
  obtain ⟨⟨⟨⟨huser, hactive⟩, haccess⟩, hreviewed⟩, hcounsel⟩ := h
  refine ⟨huser, hactive, haccess, hreviewed, fun hrole => ?_⟩
  have hmatch := hcounsel.resolve_left (by simp [hrole])
  simp only [counselMatches, Bool.and_eq_true, beq_iff_eq] at hmatch
  obtain ⟨⟨⟨htype, hnumber⟩, hverified⟩, hsame⟩ := hmatch
  obtain ⟨number, heq, hne⟩ := (Option.any_eq_true _ _).1 hnumber
  exact ⟨htype, hverified, number, by simpa using hne, heq, hsame.trans heq⟩

theorem Accepts.admitted {db : Store} {filing : FilingEnvelope} {account : Account}
    (h : Accepts db filing.destination ⟨filing.filerId, account⟩) (hactive : ActiveFiler db filing.filerId account) :
    Admitted db filing where
  court := h.court
  caseType := h.caseType
  case id hid := by
    obtain ⟨case, hcase, hmay, hcourt, htype⟩ := h.case id hid
    simp only [userMayFileOnCase, userHasFilingGrant, Bool.and_eq_true] at hmay
    obtain ⟨⟨_, hgrant⟩, hread⟩ := hmay
    obtain ⟨p, hp, hgrants⟩ := List.any_eq_true.1 hgrant
    exact ⟨case, account, hcase, hactive, ⟨p, hp, participates_of_grantsFiling hgrants⟩, hread, hcourt, htype⟩

theorem Created.admitted {r : Request} {db : Store} {tr : Trace} {data : FilingEnvelopeCreate} {key : Uuid}
    {file' : FilingFile} (h : Created r db tr f userId data key file') : Admitted db file'.filing := by
  obtain ⟨account, hactive, haccepts⟩ := h.filer
  rw [h.file_eq]
  exact Accepts.admitted haccepts hactive

/-! ## Commits -/

theorem Run.submittable_admitted (h : Run cfg w₀ w) {sid : Nat} {s : Session View Failure Response Request}
    {a : Response}
    (hc : Commits (portal cfg) w sid s a) {file seen : FilingFile} {key : Option Uuid} {token : SubmissionToken}
    {caseType : Option CaseType} (hfile : w.db (.envelope f) = some file)
    (hsub : Submittable cfg w.db s.trace f file seen userId key token caseType) : Admitted w.db file.filing := by
  obtain ⟨owned, hseen, howner⟩ := hsub.owner
  obtain ⟨account, hactive, haccepts⟩ := hsub.filer
  have hfiler : file.filing.filerId = userId := (h.seen_grew hc.found hseen hfile).fixed.filerId.trans howner
  exact haccepts.admitted (hfiler ▸ hactive)

theorem Admitted.congr {db : Store} {filing filing' : FilingEnvelope} (h : Admitted db filing)
    (hfixed : filing.Fixed filing') (hcase : filing'.caseId = filing.caseId) : Admitted db filing' where
  court := hfixed.courtId ▸ h.court
  caseType := by
    rw [hfixed.caseTypeId, hfixed.courtId]
    exact h.caseType
  case id hid := by
    rw [hfixed.filerId, hfixed.courtId, hfixed.caseTypeId]
    exact h.case id (hcase ▸ hid)

/-- **A filing that is created is admitted.** -/
theorem Run.created_admitted (h : Run cfg w₀ w) (hs : Step (portal cfg) w w') {file' : FilingFile}
    (hnone : w.db (.envelope f) = none) (hfile' : w'.db (.envelope f) = some file') : Admitted w.db file'.filing := by
  cases h.envelope_change hs f with
  | same heq => exact absurd (hfile'.symm.trans (heq.trans hnone)) (by simp)
  | created sid s a userId data key file₂ hc hw' hfile₂ hnew =>
    cases hfile'.symm.trans hfile₂
    exact hnew.admitted
  | step sid s a file file₂ hc hw' hfile hfile₂ hstep => exact absurd (hnone.symm.trans hfile) (by simp)

/-- **A filing whose receipt is recorded is admitted.** -/
theorem Run.recorded_admitted (h : Run cfg w₀ w) (hs : Step (portal cfg) w w') {file file' : FilingFile}
    {t : FilingTransaction} (hfile : w.db (.envelope f) = some file) (hfile' : w'.db (.envelope f) = some file')
    (ht : t ∈ file'.transactions) (hnew : t ∉ file.transactions) (hevent : t.eventType.isReceipt = true) :
    Admitted w.db file'.filing := by
  cases h.envelope_change hs f with
  | same heq =>
    cases hfile.symm.trans (heq.symm.trans hfile')
    exact absurd ht hnew
  | created sid s a userId data key file₂ hc hw' hfile₂ hcreated =>
    exact absurd (hfile.symm.trans (h.created_none hc hcreated)) (by simp)
  | step sid s a file₁ file₂ hc hw' hfile₁ hfile₂ hstep =>
    cases hfile.symm.trans hfile₁
    cases hfile'.symm.trans hfile₂
    obtain ⟨seen, userId, key, caseType, hreceives⟩ := (hstep.receipt t ht).resolve_left hnew hevent
    refine (h.submittable_admitted hc hfile hreceives.submittable).congr hstep.grows.fixed ?_
    obtain ⟨time, date, basis, hfiling⟩ := hreceives.filing
    rw [hfiling]
    rfl

theorem Run.appended_new (h : Run cfg w₀ w) {sid : Nat} {s : Session View Failure Response Request} {a : Response}
    (hc : Commits (portal cfg) w sid s a) {file file' : FilingFile} {t : FilingTransaction}
    (hfile : w.db (.envelope f) = some file) (hfile' : commit s.trace w.db (.envelope f) = some file')
    (htransactions : file'.transactions = file.transactions ++ [t]) : t ∉ file.transactions := by
  rcases h.changes hc (.envelope f) with heq | ⟨file₂, hfile₂, ⟨userId, data, key, hnew⟩ | ⟨file₁, hfile₁, hstep⟩⟩
  · rw [hfile, hfile'] at heq
    cases heq
    have hlength := congrArg List.length htransactions
    simp at hlength
  · exact absurd (hfile.symm.trans (h.created_none hc hnew)) (by simp)
  · cases hfile.symm.trans hfile₁
    cases hfile'.symm.trans hfile₂
    obtain ⟨ts, hts, hdrew⟩ := hstep.grows.transactions
    rw [htransactions, List.append_cancel_left_eq] at hts
    intro ht
    exact h.not_drawn hc hfile (.transaction t ht rfl) (hdrew t (by simp [← hts]))

/-- **A step of a creation leaves everything as it is, or creates a filing that is admitted.** -/
theorem Run.creation_admitted (h : Run cfg w₀ w) (hs : Step (portal cfg) w w') {sid : Nat}
    {s : Session View Failure Response Request} {data : FilingEnvelopeCreate} {key : Uuid}
    (hs' : w'.sessions sid = some s) (hmoved : w'.sessions sid ≠ w.sessions sid)
    (hr : s.request = .createFiling userId data key) : w'.db = w.db ∨ ∃ f file', w.db (.envelope f) = none ∧
      w'.db (.envelope f) = some file' ∧ file'.filing.filerId = userId ∧
      file'.filing.destination = data.destination ∧ Admitted w.db file'.filing := by
  have hstill : ((portal cfg).program s.request).Asks Op.Still := hr ▸ createFiling_still userId data key
  rcases hs.still hs' hmoved hstill with hdb | ⟨s₀, a, hc, rfl, hreq⟩
  · exact .inl hdb
  · cases h.commit_creation hc (hreq.trans hr) with
    | replayed g file hkey hread hsame => exact .inl hsame
    | inserted f file hcreated hdb =>
      refine .inr ⟨f, file, h.created_none hc (hreq.trans hr ▸ hcreated), ?_, ?_, ?_, hcreated.admitted⟩
      · change commit s₀.trace w.db _ = _
        rw [hdb, Function.update_of_ne (by simp), Function.update_self]
      · rw [hcreated.file_eq]
        rfl
      · rw [hcreated.file_eq]
        rfl

/-- **A step of a submission leaves everything as it is, or records the receipt of a filing that is admitted.** -/
theorem Run.submission_admitted (h : Run cfg w₀ w) (hs : Step (portal cfg) w w') {sid : Nat}
    {s : Session View Failure Response Request} {key : Option Uuid} {token : SubmissionToken}
    (hs' : w'.sessions sid = some s) (hmoved : w'.sessions sid ≠ w.sessions sid)
    (hr : s.request = .submitFiling userId f key token) : w'.db = w.db ∨ ∃ file file' t,
      w.db (.envelope f) = some file ∧ w'.db (.envelope f) = some file' ∧
      file'.transactions = file.transactions ++ [t] ∧ t.eventType.isReceipt = true ∧ Admitted w.db file'.filing := by
  have hstill : ((portal cfg).program s.request).Asks Op.Still := hr ▸ submitFiling_still userId f key token
  rcases hs.still hs' hmoved hstill with hdb | ⟨s₀, a, hc, rfl, hreq⟩
  · exact .inl hdb
  · have hmeets : Meets w.db ((portal cfg).program s₀.request) fun tr _ => SubmissionEnd w.db f key tr :=
      hreq ▸ hr ▸ submitFiling_meets
    cases hc.meets h.guarded hmeets with
    | still hquiet => exact .inl (hquiet.commit w.db)
    | recorded file file' t hfile hkey hcommit htransactions hevent =>
      have hnew := h.appended_new hc hfile hcommit htransactions
      have ht : t ∈ file'.transactions := by simp [htransactions]
      exact .inr ⟨file, file', t, hfile, hcommit, htransactions, hevent,
        h.recorded_admitted hs hfile hcommit ht hnew hevent⟩

/-! ## Replays -/

/-- **A creation that is recorded is answered with its filing,** as long as the account may file. -/
theorem Run.creation_replayed (h : Run cfg w₀ w) (hs : Steps (portal cfg) w w') {sid : Nat}
    {s : Session View Failure Response Request} {data : FilingEnvelopeCreate} {key : Uuid} {stored : FilingFile}
    (hstored : CreatedAs w.db userId key f stored)
    (hsha : stored.filing.creationSha256 = some (creationFingerprint data)) (hnew : w.sessions sid = none)
    (hs' : w'.sessions sid = some s) (hr : s.request = .createFiling userId data key)
    (haccount : ∀ w₁, Steps (portal cfg) w w₁ → Steps (portal cfg) w₁ w' → ∃ account,
      ActiveFiler w₁.db userId account) :
    (∀ x, s.status ≠ .failed x) ∧ ∀ a, s.status = .committed a → ∃ file, a = .filing file ∧ file.filing.id = f := by
  refine ⟨fun x hx => ?_, fun a ha => ?_⟩
  · obtain ⟨hnone, _⟩ := h.creation_failed hs hnew hs' hr haccount hx
    exact absurd (hnone.symm.trans hstored.entry) (by simp)
  · obtain ⟨g, later, hlater, hreplays⟩ := (h.trans hs).creation_committed hs' hr ha
    obtain ⟨stored', hstored', hsha'⟩ := h.created_as_kept hs hstored
    cases hlater.entry.symm.trans hstored'.entry
    cases hlater.filing.symm.trans hstored'.filing
    rw [hsha', hsha] at hreplays
    obtain ⟨_, hfile⟩ | ⟨hne, _⟩ := hreplays
    · exact hfile
    · exact absurd rfl hne

theorem FilingFile.Grew.hasKey {file file' : FilingFile} (h : file.Grew file') {key : Option Uuid}
    (hkey : file.hasKey key = true) : file'.hasKey key = true := by
  simp only [FilingFile.hasKey, Bool.and_eq_true, List.any_eq_true] at hkey ⊢
  obtain ⟨hsome, t, ht, heq⟩ := hkey
  exact ⟨hsome, t, h.transactions.subset ht, heq⟩

/-- **A submission that is recorded is answered with its filing,** as long as the account may file. -/
theorem Run.submission_replayed (h : Run cfg w₀ w) (hs : Steps (portal cfg) w w') {sid : Nat}
    {s : Session View Failure Response Request} {key : Uuid} {token : SubmissionToken} {file : FilingFile}
    (hfile : w.db (.envelope f) = some file) (hfiler : file.filing.filerId = userId)
    (hkey : file.hasKey (some key) = true) (hnew : w.sessions sid = none) (hs' : w'.sessions sid = some s)
    (hr : s.request = .submitFiling userId f (some key) token)
    (haccount : ∀ w₁, Steps (portal cfg) w w₁ → Steps (portal cfg) w₁ w' → ∃ account,
      ActiveFiler w₁.db userId account) :
    (∀ x, s.status ≠ .failed x) ∧ ∀ a, s.status = .committed a → ∃ file, a = .filing file ∧ file.filing.id = f := by
  refine hs.yielded (h.trans hs).guarded hnew hs' ?_ (by rw [hr]; exact submitFilingRequest_yields)
  refine fun w₁ tr e hs₁ hs₁' _ ha => ⟨ha.reads ?_, ha.reads ?_⟩
  · intro g
    cases g with
    | user id =>
      rintro rfl
      obtain ⟨account, hactive⟩ := haccount w₁ hs₁ hs₁'
      exact ⟨account, hactive.stored, hactive.active, hactive.notPublic⟩
    | _ => trivial
  · intro g
    cases g with
    | envelope g =>
      rintro rfl
      obtain ⟨file₁, hfile₁, hgrew⟩ := h.grew hs₁ hfile
      exact ⟨file₁, hfile₁, ((h.trans hs₁).wellFormed g file₁ hfile₁).id_eq, hgrew.fixed.filerId.trans hfiler,
        hgrew.hasKey hkey⟩
    | _ => trivial

/-! ## The law -/

/-- What the portal keeps of every creation and submission, whatever courts, participants, cases and accounts become. -/
structure Admission (cfg : Settings) (w : PortalWorld) : Prop where
  created : ∀ w' f file', Step (portal cfg) w w' → w.db (.envelope f) = none → w'.db (.envelope f) = some file' →
    Admitted w.db file'.filing
  recorded : ∀ w' f file file' t, Step (portal cfg) w w' → w.db (.envelope f) = some file →
    w'.db (.envelope f) = some file' → t ∈ file'.transactions → t ∉ file.transactions →
    t.eventType.isReceipt = true → Admitted w.db file'.filing
  creation : ∀ w' sid s userId data key, Step (portal cfg) w w' → w'.sessions sid = some s →
    w'.sessions sid ≠ w.sessions sid → s.request = .createFiling userId data key →
    w'.db = w.db ∨ ∃ f file', w.db (.envelope f) = none ∧ w'.db (.envelope f) = some file' ∧
      file'.filing.filerId = userId ∧ file'.filing.destination = data.destination ∧ Admitted w.db file'.filing
  submission : ∀ w' sid s userId f key token, Step (portal cfg) w w' → w'.sessions sid = some s →
    w'.sessions sid ≠ w.sessions sid → s.request = .submitFiling userId f key token →
    w'.db = w.db ∨ ∃ file file' t, w.db (.envelope f) = some file ∧ w'.db (.envelope f) = some file' ∧
      file'.transactions = file.transactions ++ [t] ∧ t.eventType.isReceipt = true ∧ Admitted w.db file'.filing
  creationReplayed : ∀ w' sid s userId data key f stored, Steps (portal cfg) w w' →
    CreatedAs w.db userId key f stored → stored.filing.creationSha256 = some (creationFingerprint data) →
    w.sessions sid = none → w'.sessions sid = some s → s.request = .createFiling userId data key →
    (∀ w₁, Steps (portal cfg) w w₁ → Steps (portal cfg) w₁ w' → ∃ account, ActiveFiler w₁.db userId account) →
    (∀ x, s.status ≠ .failed x) ∧ ∀ a, s.status = .committed a → ∃ file, a = .filing file ∧ file.filing.id = f
  submissionReplayed : ∀ w' sid s userId f key token file, Steps (portal cfg) w w' → w.db (.envelope f) = some file →
    file.filing.filerId = userId → file.hasKey (some key) = true → w.sessions sid = none →
    w'.sessions sid = some s → s.request = .submitFiling userId f (some key) token →
    (∀ w₁, Steps (portal cfg) w w₁ → Steps (portal cfg) w₁ w' → ∃ account, ActiveFiler w₁.db userId account) →
    (∀ x, s.status ≠ .failed x) ∧ ∀ a, s.status = .committed a → ∃ file, a = .filing file ∧ file.filing.id = f

/-- **A filing is created and submitted only where it is admitted when that is committed;** a request that is not
admitted changes nothing, and one that was recorded before is answered again, as long as its account may file. -/
theorem Run.admission (h : Run cfg w₀ w) : Admission cfg w where
  created _ _ _ hs hnone hfile' := h.created_admitted hs hnone hfile'
  recorded _ _ _ _ _ hs hfile hfile' ht hnew hevent := h.recorded_admitted hs hfile hfile' ht hnew hevent
  creation _ _ _ _ _ _ hs hs' hmoved hr := h.creation_admitted hs hs' hmoved hr
  submission _ _ _ _ _ _ _ hs hs' hmoved hr := h.submission_admitted hs hs' hmoved hr
  creationReplayed _ _ _ _ _ _ _ _ hs hstored hsha hnew hs' hr haccount :=
    h.creation_replayed hs hstored hsha hnew hs' hr haccount
  submissionReplayed _ _ _ _ _ _ _ _ hs hfile hfiler hkey hnew hs' hr haccount :=
    h.submission_replayed hs hfile hfiler hkey hnew hs' hr haccount

/-- The submission of the small portal is admitted when it is recorded. -/
theorem Run.admission_submitted : Admission .demo submittedWorld ∧ ∃ (w : PortalWorld) (file file' : FilingFile)
    (t : FilingTransaction), Step (portal .demo) w submittedWorld ∧ w.db (.envelope 10) = some file ∧
      submittedWorld.db (.envelope 10) = some file' ∧ t ∈ file'.transactions ∧ t ∉ file.transactions ∧
      t.eventType.isReceipt = true ∧ Admitted w.db file'.filing := by
  obtain ⟨w, s, a, file, file', t, hrun, hc, heq, hfile, hfile', ht, hnew, hevent⟩ := submittedWorld_recorded
  have hstep : Step (portal .demo) w submittedWorld := heq ▸ .commit 3 s a hc
  refine ⟨Run.admission submittedWorld_run, w, file, file', t, hstep, hfile, hfile', ht, hnew, hevent, ?_⟩
  exact (Run.admission hrun).recorded _ 10 file file' t hstep hfile hfile' ht hnew hevent

theorem closedAccount_unverified : false = true → (none : Option String).isSome = true ∧
    UserType.selfRepresented = .attorney :=
  fun h => absurd h Bool.false_ne_true

/-- What a system administrator enters to close the filer's account. -/
def closedAccount : AccountUpdate where
  firstName := "Fay"
  lastName := "Filer"
  email := "filer@example.org"
  userType := .selfRepresented
  keycloakId := none
  isActive := false
  barNumber := none
  barNumberVerified := false
  reason := "Closed"
  expectedVersion := 0
  verified := closedAccount_unverified

/-- The portal after the account of a filer was closed, and the submission sent again. -/
def resubmittedWorld : PortalWorld :=
  submittedWorld.serveAll (portal .demo) 4
    [(5000, .updateAccount 3 1 closedAccount), (6000, .submitFiling 1 10 (some 9) (tokenOf paidWorld 10))]

theorem resubmittedWorld_steps : Steps (portal .demo) submittedWorld resubmittedWorld :=
  World.serveAll_steps submittedWorld_calm (by decide +kernel)

/-- A submission that is sent again is not always answered: the account may have been closed since. -/
theorem submission_refused : ¬ ∀ (w₀ w w' : PortalWorld) (userId : UserId) (f : FilingId)
    (file : FilingFile) (key : Uuid)
    (token : SubmissionToken) (sid : Nat) (s : Session View Failure Response Request), Run .demo w₀ w →
    Steps (portal .demo) w w' → w.db (.envelope f) = some file → file.filing.filerId = userId →
    file.hasKey (some key) = true → w.sessions sid = none → w'.sessions sid = some s →
    s.request = .submitFiling userId f (some key) token → ∀ x, s.status ≠ .failed x := by
  intro hall
  have hrecorded : (submittedWorld.db (.envelope 10)).any (fun file => file.filing.filerId == 1 &&
    file.hasKey (some 9)) =
      true := by decide +kernel
  obtain ⟨file, hfile, hfields⟩ := (Option.any_eq_true _ _).1 hrecorded
  simp only [Bool.and_eq_true, beq_iff_eq] at hfields
  have hfailed : (resubmittedWorld.sessions 5).any (fun s => match s.status with
      | .failed (.http 403 _) => true
      | _ => false) = true := by decide +kernel
  obtain ⟨s, hs, hstatus⟩ := (Option.any_eq_true _ _).1 hfailed
  have hreq : s.request = .submitFiling 1 10 (some 9) (tokenOf paidWorld 10) := by
    have hsession : (resubmittedWorld.sessions 5).map Session.request =
        some (.submitFiling 1 10 (some 9) (tokenOf paidWorld 10)) := rfl
    rw [hs] at hsession
    exact Option.some.inj hsession
  have hnever := hall smallWorld submittedWorld resubmittedWorld 1 10 file 9 (tokenOf paidWorld 10) 5 s
    submittedWorld_run
    resubmittedWorld_steps hfile hfields.1 hfields.2 rfl hs hreq
  cases hx : s.status with
  | failed x => exact hnever x hx
  | _ => simp [hx] at hstatus

end Muefs
