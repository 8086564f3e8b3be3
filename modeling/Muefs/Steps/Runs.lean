import Muefs.RowLocks.History
import Muefs.RowLocks.Playback
import Muefs.Steps.Commits
import Muefs.Steps.Growth

/-!
# Runs of the portal

* `Initial`, `Run` : worlds without filings, and the worlds that any interleaving of requests reaches from them;
* `Run.step_cases` : a step of a run leaves every row alone or is a commit, which makes `Changes`;
* `Run.file_invariant` : a property of filings that new filings have and every `FileStep` keeps;
* `Run.spent` : the numbers that the store names are never drawn again;
* `Run.serveAll` : requests served one after the other make a run; `smallWorld` : a portal with one court to serve them.
-/

namespace Muefs
open RowLocks

/-! ## Worlds -/

/-- No filing yet, and no request under way. Accounts, courts, cases and stored objects may be there. -/
structure Initial (w : PortalWorld) : Prop where
  idle : w.Idle
  envelope : ∀ f, w.db (.envelope f) = none
  document : ∀ id, w.db (.document id) = none
  creationKey : ∀ userId key, w.db (.creationKey userId key) = none
  externalRequest : ∀ key, w.db (.externalRequest key) = none
  externalReceipt : ∀ key, w.db (.externalReceipt key) = none
  deletion : ∀ id, w.db (.deletion id) = none
  case : ∀ id, (w.db (.case id)).isSome = true → id < w.next

/-- A run of the portal from an initial world. -/
structure Run (cfg : Settings) (w₀ w : PortalWorld) : Prop where
  start : Initial w₀
  steps : Steps (portal cfg) w₀ w

variable {cfg : Settings} {w₀ w w' : PortalWorld}

theorem Run.guarded (h : Run cfg w₀ w) : Guarded (portal cfg) w := Steps.guarded h.start.idle.guarded h.steps

theorem Run.tail (h : Run cfg w₀ w) (hs : Step (portal cfg) w w') : Run cfg w₀ w' := ⟨h.start, h.steps.tail hs⟩

theorem Run.trans (h : Run cfg w₀ w) (hs : Steps (portal cfg) w w') : Run cfg w₀ w' := ⟨h.start, h.steps.trans hs⟩

theorem Run.changes (h : Run cfg w₀ w) {sid : Nat} {s : Session View Failure Response Request} {a : Response}
    (hc : Commits (portal cfg) w sid s a) : Changes cfg s.request w.db s.trace :=
  hc.meets h.guarded (program_changes cfg w.db s.request)

theorem Run.step_cases (hs : Step (portal cfg) w w') : (∀ g, isRow g = true → w'.db g = w.db g) ∨
    ∃ sid s a, Commits (portal cfg) w sid s a ∧ w' = w.committed sid s a := by
  rcases hs.db_cases with heq | ⟨_, _, g, f, _, _, hg, _, heq⟩ | hc
  · exact .inl fun g _ => by rw [heq]
  · refine .inl fun g' hg' => ?_
    rw [heq]
    refine Function.update_of_ne ?_ _ _
    rintro rfl
    exact absurd hg' (by simpa [portal] using hg)
  · exact .inr hc

/-- A filing after a step: as before, new, or after a `FileStep`. -/
inductive EnvelopeChange (cfg : Settings) (w w' : PortalWorld) (f : FilingId) : Prop where
  | same (h : w'.db (.envelope f) = w.db (.envelope f))
  | created (sid : Nat) (s : Session View Failure Response Request) (a : Response) (userId : UserId)
      (data : FilingEnvelopeCreate) (key : Uuid) (file' : FilingFile) (hc : Commits (portal cfg) w sid s a)
      (hw' : w' = w.committed sid s a) (hfile' : w'.db (.envelope f) = some file')
      (h : Created s.request w.db s.trace f userId data key file')
  | step (sid : Nat) (s : Session View Failure Response Request) (a : Response) (file file' : FilingFile)
      (hc : Commits (portal cfg) w sid s a) (hw' : w' = w.committed sid s a)
      (hfile : w.db (.envelope f) = some file) (hfile' : w'.db (.envelope f) = some file')
      (h : FileStep cfg s.request w.db w'.db s.trace f file file')

theorem Run.envelope_change (h : Run cfg w₀ w) (hs : Step (portal cfg) w w') (f : FilingId) :
    EnvelopeChange cfg w w' f := by
  rcases step_cases hs with heq | ⟨sid, s, a, hc, rfl⟩
  · exact .same (heq _ rfl)
  · rcases h.changes hc (.envelope f) with heq | ⟨file', hfile', ⟨userId, data, key, hnew⟩ | ⟨file, hfile, hstep⟩⟩
    · exact .same heq
    · exact .created sid s a userId data key file' hc rfl hfile' hnew
    · exact .step sid s a file file' hc rfl hfile hfile' hstep

/-- **A property of filings that new filings have and every step keeps.** -/
theorem Run.file_invariant {I : FilingId → FilingFile → Prop}
    (hnew : ∀ w sid s a f userId data key file', Run cfg w₀ w → Commits (portal cfg) w sid s a →
      Created s.request w.db s.trace f userId data key file' → I f file')
    (hstep : ∀ w sid s a f file file', Run cfg w₀ w → Commits (portal cfg) w sid s a → w.db (.envelope f) = some file →
      I f file → FileStep cfg s.request w.db (commit s.trace w.db) s.trace f file file' → I f file')
    (h : Run cfg w₀ w) : ∀ f file, w.db (.envelope f) = some file → I f file := by
  obtain ⟨hstart, hsteps⟩ := h
  induction hsteps with
  | refl =>
    intro f file hfile
    rw [hstart.envelope f] at hfile
    cases hfile
  | @tail w₁ w₂ hsteps hs ih =>
    have hrun : Run cfg w₀ w₁ := ⟨hstart, hsteps⟩
    intro f file hfile
    cases hrun.envelope_change hs f with
    | same heq => exact ih f file (heq ▸ hfile)
    | created sid s a userId data key file' hc hw' hfile' hcreated =>
      cases hfile.symm.trans hfile'
      exact hnew _ _ _ _ _ _ _ _ _ hrun hc hcreated
    | step sid s a file₁ file' hc hw' hfile₁ hfile' hfs =>
      cases hfile.symm.trans hfile'
      subst hw'
      exact hstep _ _ _ _ _ _ _ hrun hc hfile₁ (ih f file₁ hfile₁) hfs

/-! ## Names -/

/-- The numbers of a filing's rows and stored objects. -/
inductive FilingFile.Names (file : FilingFile) (n : Nat) : Prop where
  | document (d : FilingDocument) (hd : d ∈ file.documents) (h : d.id = n ∨ d.fileKey.uuid = n)
  | copy (c : DocumentPublicCopy) (hc : c ∈ file.copies) (h : c.id = n ∨ c.fileKey.uuid = n)
  | transaction (t : FilingTransaction) (ht : t ∈ file.transactions) (h : t.id = n)
  | payment (p : Payment) (hp : p ∈ file.payments) (h : p.id = n)

theorem FileGrows.names {tr : Trace} {file file' : FilingFile} (h : FileGrows tr file file') {n : Nat}
    (hn : file'.Names n) : file.Names n ∨ ⟨.fresh, n⟩ ∈ tr := by
  cases hn with
  | document d hd hid =>
    rcases h.documents d hd with ⟨d₀, hd₀, hg⟩ | hnew
    · rw [hg.id, hg.fileKey] at hid
      exact .inl (.document d₀ hd₀ hid)
    · rcases hid with rfl | rfl
      · exact .inr hnew.id
      · exact .inr hnew.key
  | copy c hc hid =>
    obtain ⟨cs, hcs, hnew⟩ := h.copies
    rw [hcs] at hc
    rcases List.mem_append.1 hc with hc | hc
    · exact .inl (.copy c hc hid)
    · rcases hid with rfl | rfl
      · exact .inr (hnew c hc).id
      · exact .inr (hnew c hc).key
  | transaction t ht hid =>
    obtain ⟨ts, hts, hnew⟩ := h.transactions
    rw [hts] at ht
    subst hid
    rcases List.mem_append.1 ht with ht | ht
    · exact .inl (.transaction t ht rfl)
    · exact .inr (hnew t ht)
  | payment p hp hid =>
    subst hid
    rcases h.payments p hp with ⟨p₀, hp₀, hid⟩ | hnew
    · exact .inl (.payment p₀ hp₀ hid.symm)
    · exact .inr hnew

/-- The numbers that the store names. -/
inductive Named (db : Store) (n : Nat) : Prop where
  | case (h : (db (.case n)).isSome = true)
  | filing (h : (db (.envelope n)).isSome = true)
  | part (f : FilingId) (file : FilingFile) (h : db (.envelope f) = some file) (hn : file.Names n)
  | document (h : (db (.document n)).isSome = true)
  | job (id : Nat) (job : StorageDeletion) (h : db (.deletion id) = some job) (hn : job.fileKey.uuid = n)

theorem Changes.named {r : Request} {db : Store} {tr : Trace} (h : Changes cfg r db tr) {n : Nat}
    (hn : Named (commit tr db) n) : Named db n ∨ ⟨.fresh, n⟩ ∈ tr := by
  cases hn with
  | case hn =>
    rcases h (.case n) with heq | ⟨c', _, ⟨c, hc, _⟩ | ⟨_, _, _, hfresh, _⟩⟩
    · exact .inl (.case (heq ▸ hn))
    · exact .inl (.case (by simp [hc]))
    · exact .inr hfresh
  | filing hn =>
    rcases h (.envelope n) with heq | ⟨file', _, ⟨_, _, _, hcreated⟩ | ⟨file, hfile, _⟩⟩
    · exact .inl (.filing (heq ▸ hn))
    · exact .inr hcreated.drew
    · exact .inl (.filing (by simp [hfile]))
  | part f file hfile hn =>
    rcases h (.envelope f) with heq | ⟨file', hfile', ⟨_, _, _, hcreated⟩ | ⟨file₀, hfile₀, hstep⟩⟩
    · exact .inl (.part f file (heq ▸ hfile) hn)
    · cases hfile.symm.trans hfile'
      rw [hcreated.file_eq] at hn
      rcases hn with ⟨_, hd, _⟩ | ⟨_, hc, _⟩ | ⟨_, ht, _⟩ | ⟨_, hp, _⟩
      all_goals simp at *
    · cases hfile.symm.trans hfile'
      exact (hstep.grows.names hn).imp_left fun hn => .part f file₀ hfile₀ hn
  | document hn =>
    rcases h (.document n) with heq | hnone | hfresh
    · exact .inl (.document (heq ▸ hn))
    · simp [hnone] at hn
    · exact .inr hfresh
  | job id job hjob hn =>
    rcases h (.deletion id) with heq | hnone | ⟨job', hjob', ⟨job₀, hjob₀, hkey⟩ | ⟨file, doc, hfile, hdoc, hkey, _⟩⟩
    · exact .inl (.job id job (heq ▸ hjob) hn)
    · rw [hnone] at hjob
      cases hjob
    · cases hjob.symm.trans hjob'
      exact .inl (.job id job₀ hjob₀ (hkey ▸ hn))
    · cases hjob.symm.trans hjob'
      exact .inl (.part _ file hfile (.document doc hdoc (.inr (hkey ▸ hn))))

/-- **The numbers that the store names are never drawn again.** -/
theorem Run.spent (h : Run cfg w₀ w) {n : Nat} (hn : Named w.db n) : w.Spent n := by
  refine Steps.named_spent Named h.start.idle ?_ ?_ ?_ h.steps hn
  · intro n hn
    rcases hn with hn | hn | ⟨f, file, hfile, _⟩ | hn | ⟨id, job, hjob, _⟩
    · exact h.start.case n hn
    · simp [h.start.envelope n] at hn
    · simp [h.start.envelope f] at hfile
    · simp [h.start.document n] at hn
    · simp [h.start.deletion id] at hjob
  · intro db g v n hg hn
    have hrow : ∀ g', isRow g' = true → Function.update db g (v (db g)) g' = db g' := by
      intro g' hg'
      refine Function.update_of_ne ?_ _ _
      rintro rfl
      exact absurd hg' (by simpa [portal] using hg)
    rcases hn with hn | hn | ⟨f, file, hfile, hn⟩ | hn | ⟨id, job, hjob, hn⟩
    · exact .case (hrow (.case n) rfl ▸ hn)
    · exact .filing (hrow (.envelope n) rfl ▸ hn)
    · exact .part f file (hrow (.envelope f) rfl ▸ hfile) hn
    · exact .document (hrow (.document n) rfl ▸ hn)
    · exact .job id job (hrow (.deletion id) rfl ▸ hjob) hn
  · intro w sid s a n hsteps hc hn
    exact (Run.changes ⟨h.start, hsteps⟩ hc).named hn

/-! ## A small portal -/

/-- **Requests served one after the other make a run.** -/
theorem Run.serveAll {requests : List (Instant × Request)} (h : Initial w₀)
    (hok : w₀.servable (portal cfg) 0 requests = true) : Run cfg w₀ (w₀.serveAll (portal cfg) 0 requests) :=
  ⟨h, World.serveAll_steps h.idle.calm hok⟩

theorem Run.serveMore {first requests : List (Instant × Request)} (h : Initial w₀)
    (hok : (w₀.serveAll (portal cfg) 0 first).servable (portal cfg) first.length requests = true) :
    Steps (portal cfg) (w₀.serveAll (portal cfg) 0 first)
      ((w₀.serveAll (portal cfg) 0 first).serveAll (portal cfg) first.length requests) := by
  have hcalm : (w₀.serveAll (portal cfg) 0 first).Calm (0 + first.length) [] := World.serveAll_calm h.idle.calm
  rw [Nat.zero_add] at hcalm
  exact World.serveAll_steps hcalm hok

/-- **A request that is answered is served by a commit,** over the rows as they were. -/
theorem Run.served (h : Run cfg w₀ w) {n : Nat} (hcalm : w.Calm n []) {t : Instant} {r : Request}
    (hok : (((portal cfg).program r).alone (portal cfg).row t w.db w.next).sound = true)
    (hanswer : (((portal cfg).program r).alone (portal cfg).row t w.db w.next).result.isOk = true) :
    ∃ w₁ s a, Run cfg w₀ w₁ ∧ Commits (portal cfg) w₁ n s a ∧ w.serve (portal cfg) n t r = w₁.committed n s a ∧
      s.request = r ∧ ∀ g, isRow g = true → w₁.db g = w.db g := by
  cases hr : (((portal cfg).program r).alone (portal cfg).row t w.db w.next).result with
  | error e => simp [hr, Except.isOk, Except.toBool] at hanswer
  | ok a =>
    obtain ⟨w₁, s, hsteps, hc, hserve, hreq, hdb⟩ := World.serve_commits hcalm hok (fun _ _ => List.not_mem_nil) hr
    refine ⟨w₁, s, a, h.trans hsteps, hc, hserve, hreq, fun g hg => ?_⟩
    rw [hdb]
    exact Txn.alone_row hok hg

/-- A filer, a member of the court's staff with every role, and an administrator of the system. -/
def smallAccount (id : UserId) : Option Account :=
  if id = 1 then some { user := {
    email := "filer@example.org", firstName := "Fay", lastName := "Filer", userType := .selfRepresented } }
  else if id = 2 then some {
    user := { email := "clerk@example.org", firstName := "Cal", lastName := "Clerk", userType := .clerk }
    roles := [(1, .clerk), (1, .judge), (1, .admin)] }
  else if id = 3 then some { user := {
    email := "admin@example.org", firstName := "Ada", lastName := "Admin", userType := .admin } }
  else none

def smallCase : CaseFile where
  row := {
    courtId := 1, caseNumber := "2025-000001-CZ", caseTypeId := 1, title := "A v B", filedDate := 0,
    filingDate := none }
  participants := [{
    id := 1, userId := some 1, role := .plaintiff, partyName := "A", accessEnabled := true, reviewedAt := some 0 }]

def smallStore : Store
  | .user id => smallAccount id
  | .userIds => [1, 2, 3]
  | .usersTable => ()
  | .accountKey (.email text) => [1, 2, 3].find? fun id => (smallAccount id).any (·.user.email == text)
  | .accountKey (.subject _) => none
  | .court id => if id = 1 then some { name := "Circuit Court", courtType := .circuit } else none
  | .caseType id => if id = 1 then some { courtId := 1, code := "CIV-GEN", filingFeeCents := 17500 } else none
  | .case id => if id = 1 then some smallCase else none
  | .calendars _ => [{
      id := 1, timezone := "UTC", validFrom := 0, validThrough := 20000, closedDates := [], authorityReference := "" }]
  | .courtCaseTypes _ => [1]
  | .envelope _ | .document _ | .creationKey _ _ | .caseNumber _ _ | .externalRequest _ | .externalReceipt _ => none
  | .deletion _ | .notice _ | .object _ => none
  | .requirements _ => []

def smallWorld : PortalWorld := ⟨smallStore, 10, fun _ => none⟩

theorem smallWorld_initial : Initial smallWorld where
  idle _ := rfl
  envelope _ := rfl
  document _ := rfl
  creationKey _ _ := rfl
  externalRequest _ := rfl
  externalReceipt _ := rfl
  deletion _ := rfl
  case id h := by
    by_cases hid : id = 1
    · rw [hid]
      decide
    · simp [smallWorld, smallStore, hid] at h

def smallDraft : FilingEnvelopeCreate where
  courtId := 1
  caseId := none
  caseTypeId := 1
  filingType := .initial
  caseTitle := some "C v D"
  filingDescription := none
  feeWaiverRequested := false
  feeWaiverReason := none
  known := .inl rfl
  matching := by simp

def smallUpload : Upload where
  content := [37, 80, 68, 70]
  filename := some "complaint.pdf"
  screening := .ok {
    mimeType := "application/pdf", extension := "pdf", pageCount := some 1, isTextSearchable := true
    piiWarnings := none }

/-- A filing with one document whose fee review was requested. -/
def feeReviewRequests : List (Instant × Request) := [
  (1000, .createFiling 1 smallDraft 7),
  (2000, .uploadDocument 1 10 8 ⟨"COMPLAINT", "Complaint", false⟩ smallUpload),
  (3000, .requestFeeReview 1 10 ⟨1, "Please review"⟩)]

/-- A record of service in the case, with one document. -/
def serviceRequests : List (Instant × Request) := [
  (1000, .createFiling 1 { smallDraft with
    caseId := some 1, filingType := .serviceOnly, known := .inr (.inr rfl), matching := by simp } 7),
  (2000, .uploadDocument 1 10 8 ⟨"PROOF_SERVICE", "Proof of service", false⟩ smallUpload)]

/-- The submission token of a filing as it is now. -/
def tokenOf (w : PortalWorld) (f : FilingId) : SubmissionToken :=
  ((w.db (.envelope f)).map FilingFile.submissionToken).getD (.other "")

def paidRequests : List (Instant × Request) := [
  (1000, .createFiling 1 smallDraft 7),
  (2000, .uploadDocument 1 10 8 ⟨"COMPLAINT", "Complaint", false⟩ smallUpload),
  (3000, .processPayment 1 ⟨10, 1, .creditCard, 17500, by decide⟩)]

/-- The small portal in a demonstration: the fee paid, the filing submitted, the filing accepted. -/
def paidWorld : PortalWorld := smallWorld.serveAll (portal .demo) 0 paidRequests

/-- The submission of the filing whose fee was paid. -/
def submission : Request := .submitFiling 1 10 (some 9) (tokenOf paidWorld 10)

def submittedWorld : PortalWorld := paidWorld.serveAll (portal .demo) 3 [(4000, submission)]

def acceptedWorld : PortalWorld :=
  submittedWorld.serveAll (portal .demo) 4 [(5000, .reviewFiling 2 10 ⟨.accept, 1, none⟩ (submitFilingToCms .demo))]

theorem paidWorld_calm : paidWorld.Calm 3 [] := World.serveAll_calm smallWorld_initial.idle.calm

theorem submittedWorld_calm : submittedWorld.Calm 4 [] := World.serveAll_calm paidWorld_calm

theorem demonstration_served :
    smallWorld.servable (portal .demo) 0 paidRequests = true ∧
    (((portal .demo).program submission).alone (portal .demo).row 4000 paidWorld.db paidWorld.next).sound = true ∧
    (((portal .demo).program submission).alone (portal .demo).row 4000 paidWorld.db paidWorld.next).result.isOk = true ∧
    paidWorld.servable (portal .demo) 3 [(4000, submission)] = true ∧
    submittedWorld.servable (portal .demo) 4
      [(5000, .reviewFiling 2 10 ⟨.accept, 1, none⟩ (submitFilingToCms .demo))] = true ∧
    (paidWorld.db (.envelope 10)).any (fun file => file.transactions.all fun t => !t.eventType.isReceipt) = true ∧
    (submittedWorld.db (.envelope 10)).any (fun file => file.transactions.any fun t =>
      t.eventType.isReceipt) = true := by
  decide +kernel

theorem paidWorld_run : Run .demo smallWorld paidWorld := Run.serveAll smallWorld_initial demonstration_served.1

theorem submittedWorld_served : ∃ w s a, Run .demo smallWorld w ∧ Commits (portal .demo) w 3 s a ∧
    submittedWorld = w.committed 3 s a ∧ s.request = submission ∧ ∀ g, isRow g = true → w.db g = paidWorld.db g := by
  obtain ⟨-, hsound, hanswered, -⟩ := demonstration_served
  obtain ⟨w, s, a, hrun, hc, hserve, hreq, hrows⟩ := paidWorld_run.served paidWorld_calm hsound hanswered
  refine ⟨w, s, a, hrun, hc, ?_, hreq, hrows⟩
  rw [submittedWorld, World.serveAll, World.serveAll]
  exact hserve

theorem submittedWorld_recorded : ∃ w s a file file' t, Run .demo smallWorld w ∧ Commits (portal .demo) w 3 s a ∧
    submittedWorld = w.committed 3 s a ∧ w.db (.envelope 10) = some file ∧
    submittedWorld.db (.envelope 10) = some file' ∧ t ∈ file'.transactions ∧ t ∉ file.transactions ∧
    t.eventType.isReceipt = true := by
  obtain ⟨w, s, a, hrun, hc, heq, _, hrows⟩ := submittedWorld_served
  obtain ⟨-, -, -, -, -, hbefore, hafter⟩ := demonstration_served
  obtain ⟨file, hfile, hnone⟩ := (Option.any_eq_true _ _).1 hbefore
  obtain ⟨file', hfile', hsome⟩ := (Option.any_eq_true _ _).1 hafter
  obtain ⟨t, ht, hevent⟩ := List.any_eq_true.1 hsome
  refine ⟨w, s, a, file, file', t, hrun, hc, heq, (hrows _ rfl).trans hfile, hfile', ht, fun hmem => ?_, hevent⟩
  have hno := List.all_eq_true.1 hnone t hmem
  simp [hevent] at hno

theorem submittedWorld_run : Run .demo smallWorld submittedWorld :=
  paidWorld_run.trans (World.serveAll_steps paidWorld_calm demonstration_served.2.2.2.1)

theorem acceptedWorld_steps : Steps (portal .demo) submittedWorld acceptedWorld :=
  World.serveAll_steps submittedWorld_calm demonstration_served.2.2.2.2.1

theorem acceptedWorld_run : Run .demo smallWorld acceptedWorld := submittedWorld_run.trans acceptedWorld_steps

end Muefs
