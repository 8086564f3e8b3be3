import Muefs.Steps.Asks
import Muefs.Steps.Opening

/-!
# What the filer's requests change

* `createFiling_changes`, `updateFiling_changes`, `submitFiling_changes`, `uploadDocument_changes` and
  `removeDocument_changes` : each endpoint makes its own changes and no others;
* `createFiling_meets`, `submitFiling_meets` : what comes of a creation and of a submission.
-/

namespace Muefs
open RowLocks

variable {cfg : Settings} {db : Store} {userId : UserId} {f : FilingId}

/-! ## Creation -/

theorem insertFiling_meets {account : Account} (data : FilingEnvelopeCreate) (key : Uuid)
    (hactive : ActiveFiler db userId account) :
    Meets db (insertFiling ⟨userId, account⟩ data key) fun tr file => ∃ f,
      Created (.createFiling userId data key) db tr f userId data key file ∧ commit tr db =
        Function.update (Function.update db (.envelope f) (some file)) (.creationKey userId key) (some f) := by
  simp only [insertFiling, meets_bind, meets_newId, meets_lock, meets_require, meets_saveFiling,
    meets_write, meets_pure]
  refine (validateFilingDestination_meets db data.destination (some ⟨userId, account⟩) true).mono ?_
  rintro tr case ⟨hq, hacc⟩ f htaken
  obtain ⟨rfl, _, _, haccepts⟩ := hacc rfl
  refine ⟨f, ?_, by simp [commit_append, hq.commit, commit, Op.applied]⟩
  exact {
    request := rfl
    filer := ⟨account, hactive, haccepts _ rfl⟩
    drew := by simp
    unrecorded := htaken
    file_eq := rfl }

/-- What comes of a creation that is answered: nothing, with the filing under its key, or the filing. -/
inductive CreationEnd (db : Store) (tr : Trace) (userId : UserId) (data : FilingEnvelopeCreate) (key : Uuid) :
    Response → Prop where
  | replayed (f : FilingId) (file : FilingFile) (hkey : ⟨.look (.creationKey userId key), some f⟩ ∈ tr)
      (hread : Read tr f file) (hsame : commit tr db = db) :
        CreationEnd db tr userId data key (replayCreation file data)
  | inserted (f : FilingId) (file : FilingFile) (h : Created (.createFiling userId data key) db tr f userId
      data key file)
      (hdb : commit tr db = Function.update (Function.update db (.envelope f) (some file))
        (.creationKey userId key) (some f)) :
      CreationEnd db tr userId data key (.filing file)

theorem findCreated_meets {key : Uuid} :
    Meets db (findCreated userId key) fun tr existing => Quiet tr ∧
      ∀ file, existing = some file → ∃ f, ⟨.look (.creationKey userId key), some f⟩ ∈ tr ∧ Read tr f file := by
  simp only [findCreated, meets_bind, meets_look]
  intro entry
  cases entry with
  | none => simp [Writes]
  | some f =>
    refine getFiling_meets.mono ?_
    rintro tr existing ⟨hq, hread⟩
    refine ⟨by simp [Writes, hq], fun file hfile => ⟨f, by simp, ?_⟩⟩
    exact (hread file hfile).mono fun e he _ => List.mem_append_right _ he

/-- **A creation that is answered changes nothing, or inserts its filing and the entry of its key.** -/
theorem createFiling_meets {data : FilingEnvelopeCreate} {key : Uuid} :
    Meets db (createFiling userId data key) fun tr a => CreationEnd db tr userId data key a := by
  simp only [createFiling, meets_bind]
  refine signedInFiler_meets.mono fun tr₁ _ h₁ => lockFiler_meets.mono ?_
  rintro tr₂ account ⟨h₂, hactive⟩
  refine findCreated_meets.mono ?_
  rintro tr₃ existing ⟨h₃, hread₃⟩
  cases existing with
  | some file =>
    obtain ⟨f, hkey, hread⟩ := hread₃ file rfl
    simp only [meets_pure]
    refine .replayed f file (by simp [hkey]) (hread.mono fun e he _ => by simp [he]) ?_
    simp [commit_append, h₁.commit, h₂.commit, h₃.commit]
  | none =>
    simp only [meets_bind]
    refine (insertFiling_meets data key hactive).savepoint.mono ?_
    rintro tr₄ made ⟨hok, herror⟩
    have hbefore : ∀ tr, commit (tr₁ ++ (tr₂ ++ (tr₃ ++ tr))) db = commit tr db := by
      intro tr
      simp [commit_append, h₁.commit, h₂.commit, h₃.commit]
    cases made with
    | ok file =>
      obtain ⟨tr₀, ⟨f, hcreated, hinserts⟩, hcommit, hheard⟩ := hok file rfl
      simp only [meets_pure]
      refine .inserted f file { hcreated with drew := ?_ } ?_
      · simp [hheard _ hcreated.drew trivial]
      · rw [hbefore, List.append_nil, hcommit, hinserts]
    | error e =>
      simp only [meets_ite, meets_bind, meets_expect, meets_pure, meets_raise, implies_true, and_true]
      refine fun _ => findCreated_meets.mono ?_
      rintro tr₅ existing ⟨h₅, hread₅⟩ file hfile
      obtain ⟨f, hkey, hread⟩ := hread₅ file hfile
      refine .replayed f file (by simp [hkey]) (hread.mono fun e he _ => by simp [he]) ?_
      simp [hbefore, commit_append, herror e rfl, h₅.commit]

theorem createFiling_changes {data : FilingEnvelopeCreate} {key : Uuid} :
    Meets db (createFiling userId data key) fun tr _ => Changes cfg (.createFiling userId data key) db tr := by
  refine createFiling_meets.mono fun tr a hend => ?_
  cases hend with
  | replayed f file hkey hread hsame => exact .of_same hsame
  | inserted f file h hdb =>
    have henvelope : commit tr db (.envelope f) = some file := by
      rw [hdb, Function.update_of_ne (by simp), Function.update_self]
    intro g
    by_cases hkey : g = .creationKey userId key
    · subst hkey
      exact .inr ⟨f, data, file, by rw [hdb, Function.update_self], h, henvelope⟩
    · by_cases hfile : g = .envelope f
      · subst hfile
        exact .inr ⟨file, henvelope, .inl ⟨userId, data, key, h⟩⟩
      · rw [hdb, Function.update_of_ne hkey, Function.update_of_ne hfile]
        exact .inl rfl

/-! ## Details -/

theorem updateFiling_changes {data : FilingEnvelopeUpdate} :
    Meets db (updateFiling userId f data) fun tr _ => Changes cfg (.updateFiling userId f data) db tr := by
  simp only [updateFiling, updateDetails, meets_bind, meets_lockFiling, meets_ownedFiling, meets_require, meets_pure,
    meets_saveFiling]
  refine signedInFiler_meets.mono fun tr _ hq file hdb _ htoken hopen hwaiver _ => .of_writes ?_
  simp only [writes_append, hq.writes, Writes, true_and, and_true]
  exact fun _ => ⟨_, rfl, .inr ⟨file, hdb, .edited userId data rfl ⟨htoken, hopen, hwaiver⟩⟩⟩

/-! ## Submission -/

theorem relatedRows_meets {locked : Bool} {file : FilingFile} :
    Meets db (relatedRows locked file) fun tr rows => Quiet tr ∧ (locked = true → rows = file) := by
  simp only [relatedRows, meets_ite, meets_bind, meets_look, meets_pure]
  exact ⟨fun _ => ⟨trivial, fun _ => trivial⟩, fun h later => ⟨by simp [Writes], fun hl => absurd hl h⟩⟩

theorem checkSubmission_meets {locked : Bool} {file : FilingFile} {token : SubmissionToken} {key : Option Uuid} :
    Meets db (checkSubmission cfg locked file token key) fun tr recorded => Quiet tr ∧ (locked = true →
      recorded = file.hasKey key ∧ (recorded = false → token = file.submissionToken ∧
        ∃ caseType, Priced tr file.filing caseType ∧ (feeState cfg file caseType none).obligationMet = true)) := by
  simp only [checkSubmission, meets_bind, meets_ite, meets_require, meets_look, meets_pure]
  refine relatedRows_meets.mono ?_
  rintro tr recorded ⟨hq, hrec⟩
  refine ⟨fun hkey => ⟨by simpa using hq, fun hl => ?_⟩, fun hkey htoken _ => relatedRows_meets.mono ?_⟩
  · rw [hrec hl] at hkey
    simp [hkey]
  · rintro tr' charged ⟨hq', hch⟩ caseType hfees requirements _
    refine ⟨by simp [hq, hq', Writes], fun hl => ?_⟩
    rw [hrec hl] at hkey
    rw [hch hl] at hfees
    exact ⟨by simpa using hkey, fun _ => ⟨htoken, caseType, by simp [Priced], hfees⟩⟩

theorem submittedDate_meets {filing : FilingEnvelope} {filedAt : Instant} :
    Meets db (submittedDate cfg filing filedAt) fun tr r =>
      Quiet tr ∧ SubmittedDate cfg tr filing filedAt r.1 r.2 := by
  simp only [submittedDate, meets_ite, meets_bind, meets_look, meets_ofExcept, meets_pure]
  refine ⟨?_, fun h => ⟨trivial, .kept ?_⟩⟩
  · rintro ⟨hcourt, hnone⟩ calendars assessment hassess
    refine ⟨by simp [Writes], ?_⟩
    exact .assessed calendars assessment (by simp [Scheduled]) hassess hnone hcourt
  · by_contra hc
    simp only [not_or, not_not] at hc
    exact h hc

theorem recordSubmission_meets {file : FilingFile} {key : Option Uuid} :
    Meets db (recordSubmission cfg f file key) fun tr saved => ∃ time date basis t,
      SubmittedDate cfg tr file.filing ((file.filing.filedAt.or file.filing.submittedAt).getD time) date basis ∧
      Recorded cfg tr { file with filing := file.filing.submittedNow time date basis }
        file.filing.receiptEvent file.filing.filerId key {} saved t ∧
      (∀ tr', Writes (Saves tr' f saved) tr) ∧ ⟨.write (.envelope f) fun _ => some saved, ()⟩ ∈ tr := by
  simp only [recordSubmission, meets_bind, meets_now, meets_saveFiling, meets_pure]
  refine fun time => submittedDate_meets.mono ?_
  rintro tr₁ r ⟨hq, hdate⟩
  refine (recordTransaction_meets cfg db _ _ _ _ _ _).mono ?_
  rintro tr₂ out ⟨hn, hrec⟩
  refine ⟨time, r.1, r.2, out.2, hdate.mono ?_, hrec.mono ?_, fun tr' => ?_, by simp⟩
  · intro e he _
    simp [he]
  · intro e he _
    simp [he]
  · have hsaves : Writes (Saves tr' f out.1) tr₂ := hrec.saves hn
    simp only [writes_append, hq.writes, hsaves, Writes, true_and, and_true]
    exact fun _ => ⟨rfl, rfl⟩

theorem submitLocked_changes (cfg : Settings) {account : Account} (key : Option Uuid) (token : SubmissionToken)
    (pre : Trace) {seen : FilingFile} (hpre : Quiet pre) (hactive : ActiveFiler db userId account)
    (howner : ∃ seen, Seen pre f seen ∧ seen.filing.filerId = userId) (hseen : Seen pre f seen)
    (hne : seen.currentDocuments ≠ []) (hverified : ∀ doc ∈ seen.currentDocuments, Verified pre doc)
    (hreads : ReadsOnly pre seen.currentDocuments) :
    Meets db (submitLocked cfg account f key token (seen.currentDocuments.map FilingDocument.fingerprint))
      fun tr _ => Changes cfg (.submitFiling userId f key token) db (pre ++ tr) := by
  have hlocks : SubmitLocks Blind userId f :=
    ⟨fun _ h => h.blind, trivial, trivial, fun _ => trivial, fun _ => trivial, fun _ => trivial⟩
  suffices hmain : Meets db (submitLocked cfg account f key token
      (seen.currentDocuments.map FilingDocument.fingerprint)) fun tr _ =>
      ReadsOnly (pre ++ tr) seen.currentDocuments → Changes cfg (.submitFiling userId f key token) db (pre ++ tr) from
    (meets_blind hmain (submitLocked_asks hlocks _ _ _ _)).mono fun tr _ h => h.1 (hreads.append (h.2.mono (by simp)))
  simp only [submitLocked, meets_bind, meets_lockFiling]
  cases hdb : db (.envelope f) with
  | none =>
    simp only [meets_pure]
    exact fun _ => .of_quiet (by simp [hpre, Writes])
  | some file =>
    simp only [meets_bind, meets_ite, meets_require, meets_pure]
    refine checkSubmission_meets.mono ?_
    rintro tr₁ recorded ⟨h₁, hcheck⟩
    refine ⟨fun _ _ => ?_, fun hnot => ⟨fun hopen => ?_, ?_⟩⟩
    · exact .of_quiet (by simp [hpre, h₁, Writes])
    · obtain ⟨hrecorded, hrest⟩ := hcheck rfl
      obtain ⟨htoken, caseType, hpriced, hfees⟩ := hrest (by simpa using hnot)
      refine (validateFilingDestination_meets db _ _ true).mono ?_
      rintro tr₂ _ ⟨h₂, hacc⟩ hsame
      refine recordSubmission_meets.mono ?_
      rintro tr₃ saved ⟨time, date, basis, t, hdate, hrec, hw, hsaved⟩ honly
      obtain ⟨_, _, _, haccepts⟩ := hacc rfl
      refine Changes.of_saves hdb (.submitted userId key token seen caseType time date basis t saved rfl ?_
        (hdate.mono ?_) (hrec.mono ?_)) ?_ ?_
      · exact {
          owner := howner.imp fun seen h => ⟨List.mem_append_left _ h.1, h.2⟩
          filer := ⟨account, hactive, haccepts _ rfl⟩
          isOpen := hopen
          unrecorded := hrecorded ▸ by simpa using hnot
          token_eq := htoken
          priced := by
            have : ⟨.look (.caseType file.filing.caseTypeId), caseType⟩ ∈ tr₁ := hpriced
            simp [Priced, this]
          obligation := hfees
          matched := ⟨List.mem_append_left _ hseen, hne, fun doc hd => (hverified doc hd).mono fun e he _ =>
            List.mem_append_left _ he, honly, hsame⟩ }
      · intro e he _
        simp [he]
      · intro e he _
        simp [he]
      · simp [hpre.writes, h₁.writes, h₂.writes, hw _, Writes]
      · simp [hsaved]
    · exact fun _ _ => .of_quiet (by simp [hpre, h₁, Writes])

theorem submitFiling_changes {key : Option Uuid} {token : SubmissionToken} :
    Meets db (submitFilingRequest cfg userId f key token) fun tr _ =>
      Changes cfg (.submitFiling userId f key token) db tr := by
  simp only [submitFilingRequest, meets_bind, meets_ownedFiling]
  refine (meets_blind signedInFiler_meets (mild_blind (signedInFiler_mild _))).mono ?_
  rintro tr₁ _ ⟨h₁, b₁⟩
  refine (meets_blind lockFiler_meets (lockFiler_asks trivial)).mono ?_
  rintro tr₂ account ⟨⟨h₂, hactive⟩, b₂⟩
  refine (meets_blind getFiling_meets (mild_blind (getFiling_mild _))).mono ?_
  rintro tr₃ row ⟨⟨h₃, hread⟩, b₃⟩
  intro file hrow howner
  obtain ⟨rows, hseen, hrows⟩ := (hread file hrow).envelope
  suffices hmain : Meets db (submitFiling cfg account f key token) fun tr _ =>
      Changes cfg (.submitFiling userId f key token) db (tr₁ ++ (tr₂ ++ (tr₃ ++ tr))) by
    refine hmain.mono fun tr outcome h => ?_
    cases outcome <;> simp only [meets_pure, meets_raise, List.append_nil, List.nil_append] <;> exact h
  simp only [submitFiling, meets_bind]
  refine (meets_blind getFiling_meets (mild_blind (getFiling_mild _))).mono ?_
  rintro tr₄ probe ⟨⟨h₄, hprobe⟩, b₄⟩
  cases probe with
  | none =>
    simp only [meets_pure]
    exact .of_quiet (by simp [h₁, h₂, h₃, h₄])
  | some probe =>
    simp only [meets_bind, meets_ite, meets_pure]
    refine (meets_blind checkSubmission_meets (mild_blind (checkSubmission_mild _ _ _ _))).mono ?_
    rintro tr₅ recorded ⟨⟨h₅, _⟩, b₅⟩
    refine ⟨fun _ => ?_, fun _ => ⟨fun hopen => ?_, fun _ => ?_⟩⟩
    · exact .of_quiet (by simp [h₁, h₂, h₃, h₄, h₅])
    · refine (meets_blind (validateFilingDestination_meets db _ _ false) (validateFilingDestination_asks
        (fun _ h => h.blind) _ _ trivial trivial (fun _ _ => trivial) _)).mono ?_
      rintro tr₆ _ ⟨⟨h₆, _⟩, b₆⟩
      refine ((verifyFilingDocuments_meets db probe none).both (verifyFilingDocuments_reads db probe none)).mono ?_
      rintro tr₇ _ ⟨⟨h₇, hne, hverified⟩, b₇⟩
      obtain ⟨later, hlater, hdocs⟩ := (hprobe probe rfl).documents (FilingFile.documents_ne hne)
      have hcur : probe.currentDocuments = later.currentDocuments := by
        simp only [FilingFile.currentDocuments, hdocs]
      have hseen' : ⟨.look (.envelope f), some rows⟩ ∈ tr₃ := hseen
      have hlater' : ⟨.look (.envelope f), some later⟩ ∈ tr₄ := hlater
      rw [hcur] at hne hverified b₇ ⊢
      refine (submitLocked_changes cfg key token (tr₁ ++ (tr₂ ++ (tr₃ ++ (tr₄ ++ (tr₅ ++ (tr₆ ++ tr₇)))))) ?_
        hactive ⟨rows, ?_, hrows ▸ howner⟩ ?_ hne ?_ ?_).mono fun tr _ h => ?_
      · simp [h₁, h₂, h₃, h₄, h₅, h₆, h₇]
      · simp [Seen, hseen']
      · simp [Seen, hlater']
      · refine fun doc hd => (hverified doc (by simpa using hd)).mono fun e he _ => ?_
        simp [he]
      · have hnone : ∀ {tr : Trace}, ReadsOnly tr [] → ReadsOnly tr later.currentDocuments := fun b => b.mono (by simp)
        exact (hnone b₁).append ((hnone b₂).append ((hnone b₃).append ((hnone b₄).append ((hnone b₅).append
          ((hnone b₆).append (by simpa using b₇))))))
      · simpa only [List.append_assoc] using h
    · exact .of_quiet (by simp [h₁, h₂, h₃, h₄, h₅])

/-- What comes of a submission that is answered: nothing, or a receipt under a key that was not recorded. -/
inductive SubmissionEnd (db : Store) (f : FilingId) (key : Option Uuid) (tr : Trace) : Prop where
  | still (h : Quiet tr)
  | recorded (file file' : FilingFile) (t : FilingTransaction) (hdb : db (.envelope f) = some file)
      (hkey : file.hasKey key = false) (hcommit : commit tr db (.envelope f) = some file')
      (htransactions : file'.transactions = file.transactions ++ [t]) (hevent : t.eventType.isReceipt = true)

theorem SubmissionEnd.after {key : Option Uuid} {tr₁ tr₂ : Trace} (h₁ : Quiet tr₁) (h : SubmissionEnd db f key tr₂) :
    SubmissionEnd db f key (tr₁ ++ tr₂) := by
  cases h with
  | still h₂ => exact .still (by simp [h₁, h₂])
  | recorded file file' t hdb hkey hcommit htransactions hevent =>
    exact .recorded file file' t hdb hkey (by rw [commit_append, h₁.commit, hcommit]) htransactions hevent

theorem submitLocked_meets {account : Account} {key : Option Uuid} {token : SubmissionToken}
    {fingerprints : List Fingerprint} :
    Meets db (submitLocked cfg account f key token fingerprints) fun tr _ => SubmissionEnd db f key tr := by
  simp only [submitLocked, meets_bind, meets_lockFiling]
  have hlock : ∀ {tr : Trace}, SubmissionEnd db f key tr →
      SubmissionEnd db f key ([⟨.lock .update (.envelope f), db (.envelope f)⟩] ++ tr) := .after (by simp [Writes])
  cases hdb : db (.envelope f) with
  | none =>
    simp only [meets_pure]
    exact .still (by simp [Writes])
  | some file =>
    rw [hdb] at hlock
    simp only [meets_bind, meets_ite, meets_require, meets_pure]
    refine checkSubmission_meets.mono ?_
    rintro tr₁ recorded ⟨h₁, hcheck⟩
    refine ⟨fun _ => ?_, fun hnot => ⟨fun hopen => ?_, ?_⟩⟩
    · exact hlock (.after h₁ (.still trivial))
    · obtain ⟨hrecorded, _⟩ := hcheck rfl
      refine (validateFilingDestination_meets db _ _ true).mono ?_
      rintro tr₂ _ ⟨h₂, _⟩ _
      refine recordSubmission_meets.mono ?_
      rintro tr₃ saved ⟨time, date, basis, t, _, hrec, hw, hsaved⟩
      refine hlock (.after h₁ (.after h₂ (.recorded file saved t hdb ?_ ?_ ?_ ?_)))
      · simpa [hrecorded] using hnot
      · rw [List.append_nil]
        exact ((hw []).wrote hsaved db).2
      · exact hrec.transactions_eq
      · rw [hrec.event_eq]
        exact file.filing.receiptEvent_isReceipt
    · exact fun _ => hlock (.after h₁ (.still trivial))

/-- **A submission that is answered changes nothing, or records a receipt.** -/
theorem submitFiling_meets {key : Option Uuid} {token : SubmissionToken} :
    Meets db (submitFilingRequest cfg userId f key token) fun tr _ => SubmissionEnd db f key tr := by
  simp only [submitFilingRequest, meets_bind, meets_ownedFiling]
  refine signedInFiler_meets.mono fun tr₁ _ h₁ => lockFiler_meets.mono ?_
  rintro tr₂ account ⟨h₂, _⟩
  refine getFiling_meets.mono ?_
  rintro tr₃ row ⟨h₃, _⟩ file _ _
  suffices hmain : Meets db (submitFiling cfg account f key token) fun tr _ => SubmissionEnd db f key tr by
    refine hmain.mono fun tr outcome h => ?_
    cases outcome <;> simp only [meets_pure, meets_raise, List.append_nil, List.nil_append] <;>
      exact .after h₁ (.after h₂ (.after h₃ h))
  simp only [submitFiling, meets_bind]
  refine getFiling_meets.mono ?_
  rintro tr₄ probe ⟨h₄, _⟩
  cases probe with
  | none =>
    simp only [meets_pure]
    exact .still (by simp [h₄])
  | some probe =>
    simp only [meets_bind, meets_ite, meets_pure]
    refine checkSubmission_meets.mono ?_
    rintro tr₅ recorded ⟨h₅, _⟩
    refine ⟨fun _ => ?_, fun _ => ⟨fun _ => ?_, fun _ => ?_⟩⟩
    · exact .still (by simp [h₄, h₅])
    · refine (validateFilingDestination_meets db _ _ false).mono ?_
      rintro tr₆ _ ⟨h₆, _⟩
      refine (verifyFilingDocuments_meets db probe none).mono ?_
      rintro tr₇ _ ⟨h₇, _⟩
      refine submitLocked_meets.mono fun tr _ h => ?_
      exact .after h₄ (.after h₅ (.after h₆ (.after h₇ h)))
    · exact .still (by simp [h₄, h₅])

/-! ## Uploads -/

theorem replayUpload_meets {recorded : UploadRequest} {documents : List FilingDocument}
    {fingerprint : Digest UploadFields} :
    Meets db (replayUpload recorded documents fingerprint) fun tr doc => Quiet tr ∧
      recorded.fingerprint = fingerprint ∧ recorded.documentId = some doc.id ∧ doc ∈ documents ∧
      doc.removedAt = none := by
  simp only [replayUpload, meets_bind, meets_require, meets_expect, Option.bind_eq_some_iff]
  rintro hfp doc ⟨id, hid, hfound⟩
  have hdoc := List.find?_some hfound
  simp only [Bool.and_eq_true, beq_iff_eq, Option.isNone_iff_eq_none] at hdoc
  exact ⟨by simp [Writes], hfp, hdoc.1 ▸ hid, List.mem_of_find?_eq_some hfound, hdoc.2⟩

/-- The filing was read, with its lock or without. -/
def ReadRows (tr : Trace) (f : FilingId) (rows : FilingFile) : Prop :=
  ⟨.look (.envelope f), some rows⟩ ∈ tr ∨ ⟨.lock .update (.envelope f), some rows⟩ ∈ tr

theorem ReadRows.mono {tr tr' : Trace} {rows : FilingFile} (h : ReadRows tr f rows) (htr : ∀ e ∈ tr, e ∈ tr') :
    ReadRows tr' f rows :=
  h.imp (htr _) (htr _)

/-- What comes of an upload that is answered: nothing, with the document of its key as it was read, or its document. -/
inductive UploadEnd (db : Store) (tr : Trace) (userId : UserId) (f : FilingId) (key : Uuid) (form : UploadForm)
    (upload : Upload) : Response → Prop where
  | replayed (rows later : FilingFile) (recorded : UploadRequest) (doc : FilingDocument) (hrows : ReadRows tr f rows)
      (hrecorded : rows.uploadRequest key = some recorded)
      (hfingerprint : recorded.fingerprint = form.fingerprint upload (.of upload.content) upload.content.length)
      (hid : recorded.documentId = some doc.id) (hlater : ReadRows tr f later) (hdoc : doc ∈ later.documents)
      (hcurrent : doc.removedAt = none) (hquiet : Quiet tr) :
      UploadEnd db tr userId f key form upload (.document doc.response)
  | recorded (file file' : FilingFile) (doc : FilingDocument) (request : UploadRequest)
      (hlock : ⟨.lock .update (.envelope f), some file⟩ ∈ tr) (hdb : db (.envelope f) = some file)
      (h : Uploadable tr file userId key form upload doc request)
      (hfile' : file' = { file with
        filing := { file.filing with feeVersion := file.filing.feeVersion + 1 }
        documents := file.documents ++ [doc]
        uploads := file.uploads ++ [request] })
      (hwrites : Writes (Saves tr f file') tr) (hsaved : ⟨.write (.envelope f) fun _ => some file', ()⟩ ∈ tr) :
      UploadEnd db tr userId f key form upload (.document doc.response)

theorem recordUpload_meets {key : Uuid} {form : UploadForm} {upload : Upload} {doc : FilingDocument}
    (pre : Trace) (hpre : Quiet pre) (hstored : Stored pre form.documentTypeCode upload doc)
    (hcourt : courtDocumentTypes.contains form.documentTypeCode = false) :
    Meets db (recordUpload userId f key form upload doc) fun tr a =>
      UploadEnd db (pre ++ tr) userId f key form upload a := by
  simp only [recordUpload, meets_bind, meets_lockFiling, meets_expect, meets_require]
  refine lockFiler_meets.mono ?_
  rintro tr₁ account ⟨h₁, _⟩ locked hdb hfiler
  cases hkey : locked.uploadRequest key with
  | some recorded =>
    simp only [meets_bind, meets_act, meets_pure]
    refine replayUpload_meets.mono ?_
    rintro tr₂ earlier ⟨h₂, hfp, hid, hdoc, hcurrent⟩
    rw [hstored.matched.1, hstored.matched.2] at hfp
    have hrows : ∀ tr₃, ReadRows (pre ++ (tr₁ ++ ([⟨.lock .update (.envelope f), db (.envelope f)⟩] ++ tr₃))) f
      locked :=
      fun tr₃ => .inr (by simp [hdb])
    exact .replayed locked locked recorded earlier (hrows _) hkey hfp hid (hrows _) hdoc hcurrent
      (by simp [hpre, h₁, h₂, Writes])
  | none =>
    simp only [meets_bind, meets_require, meets_saveFiling, meets_pure]
    refine fun hopen => insertDocument_meets.mono ?_
    rintro tr₂ inserted ⟨hw, hid, time, heq⟩
    have huuid : ⟨.fresh, doc.fileKey.uuid⟩ ∈ pre := hstored.key_new
    have hretained : doc.retainedAt = none := by
      rw [← Option.not_isSome_iff_eq_none, hstored.retained]
      rintro hcode
      simp [hcode, courtDocumentTypes] at hcourt
    refine .recorded locked _ inserted _ (by simp [hdb]) hdb {
      isOpen := hopen
      filer := hfiler
      unrecorded := hkey
      recorded := rfl
      stored := ?_
      new := ⟨by simp [hid], ?_, ?_, ?_⟩
      unretained := ?_
      notCourt := ?_ } rfl ?_ ?_
    · rw [heq]
      exact hstored.matched
    · rw [heq]
      simp [huuid]
    · rw [heq]
      exact hstored.current
    · rw [heq]
      exact hstored.unpublished
    · rw [heq]
      exact hretained
    · rw [heq]
      exact hstored.type_eq ▸ hcourt
    · simp only [writes_append, hpre.writes, h₁.writes, Writes, true_and, and_true]
      refine ⟨hw.mono fun g v hg => ?_, fun _ => ⟨rfl, ?_⟩⟩
      · subst hg
        simp [Saves, hid]
      · rw [heq]
    · rw [heq]
      simp

/-- **An upload that is answered changes nothing, or records its document under a key that was not recorded.** -/
theorem uploadDocument_meets {key : Uuid} {form : UploadForm} {upload : Upload} :
    Meets db (uploadDocument cfg userId f key form upload) fun tr a =>
      upload.Fits cfg ∧ UploadEnd db tr userId f key form upload a := by
  simp only [uploadDocument, meets_bind, meets_ownedFiling, meets_look]
  refine signedInFiler_meets.mono fun tr₁ _ h₁ => getFiling_meets.mono ?_
  rintro tr₂ row ⟨h₂, hread⟩ probe hprobe _ rows
  cases hrecorded : rows.bind fun rows => rows.uploadRequest key with
  | some recorded =>
    obtain ⟨seen, rfl, hkey⟩ := Option.bind_eq_some_iff.1 hrecorded
    simp only [readUpload, meets_bind, meets_require, meets_look, meets_pure]
    refine fun hsmall hnonempty later => replayUpload_meets.mono ?_
    rintro tr₃ doc ⟨h₃, hfp, hid, hdoc, hcurrent⟩
    refine ⟨⟨hsmall, hnonempty⟩, ?_⟩
    have hloaded : ∃ loaded, doc ∈ loaded.documents ∧ (Seen tr₂ f loaded ∨ later = some loaded) := by
      rcases List.mem_append.1 hdoc with hmem | hmem
      · have hmem := List.mem_of_mem_filter hmem
        obtain ⟨loaded, hseen, hdocs⟩ := (hread probe hprobe).documents (List.ne_nil_of_mem hmem)
        exact ⟨loaded, hdocs ▸ hmem, .inl hseen⟩
      · cases later with
        | none => simp at hmem
        | some later => exact ⟨later, hmem, .inr rfl⟩
    obtain ⟨loaded, hmem, hwhere⟩ := hloaded
    refine .replayed seen loaded recorded doc (.inl (by simp)) hkey hfp hid (.inl ?_) hmem hcurrent ?_
    · rcases hwhere with hseen | rfl
      · exact List.mem_append_right _ (List.mem_append_left _ hseen)
      · simp
    · simp [h₁, h₂, h₃, Writes]
  | none =>
    simp only [meets_bind, meets_require, meets_onRaise]
    refine fun _ hcourt => (storeDocumentUpload_meets.both storeDocumentUpload_fits).mono ?_
    rintro tr₃ doc ⟨⟨h₃, hstored⟩, hfits⟩
    refine (recordUpload_meets (tr₁ ++ (tr₂ ++ (⟨.look (.envelope f), rows⟩ :: tr₃))) ?_ ?_ hcourt).mono
      fun tr a hend => ⟨hfits, ?_⟩
    · simp [h₁, h₂, h₃, Writes]
    · exact { hstored with key_new := by simp [hstored.key_new] }
    · simpa [List.append_assoc] using hend

theorem uploadDocument_changes {key : Uuid} {form : UploadForm} {file : Upload} :
    Meets db (uploadDocument cfg userId f key form file) fun tr _ =>
      Changes cfg (.uploadDocument userId f key form file) db tr := by
  refine uploadDocument_meets.mono ?_
  rintro tr a ⟨_, hend⟩
  cases hend with
  | replayed rows later recorded doc hrows hrecorded hfp hid hlater hdoc hcurrent hquiet => exact .of_quiet hquiet
  | recorded file₁ file' doc request hlock hdb h hfile' hwrites hsaved =>
    subst hfile'
    exact .of_saves hdb (.uploaded userId key form file doc request rfl h) hwrites hsaved

/-! ## Removal -/

theorem removeDocument_changes {documentId : DocumentId} :
    Meets db (removeDocument userId f documentId) fun tr _ =>
      Changes cfg (.removeDocument userId f documentId) db tr := by
  simp only [removeDocument, meets_bind, meets_lockFiling, meets_ownedFiling, meets_require, meets_expect, meets_ite,
    meets_now, meets_newId, meets_saveFiling, meets_write, meets_pure]
  refine signedInFiler_meets.mono fun tr₁ _ h₁ file hdb _ hopen doc hfound => ?_
  have hdoc : Removable file documentId doc :=
    ⟨hopen, List.mem_of_find?_eq_some hfound, by simpa using List.find?_some hfound⟩
  refine ⟨fun hkeep time => .of_writes ?_, fun hkeep deletionId time => .of_writes ?_⟩
  · simp only [writes_append, h₁.writes, Writes, true_and, and_true]
    exact fun _ => ⟨_, rfl, .inr ⟨file, hdb, .retired userId documentId doc time rfl hdoc hkeep⟩⟩
  · simp only [not_or, Bool.not_eq_true, Option.isSome_eq_false_iff, Option.isNone_iff_eq_none] at hkeep
    simp only [writes_append, h₁.writes, Writes, true_and, and_true]
    refine ⟨fun _ => .inr ⟨_, rfl, .inr ⟨file, doc, hdb, ?_, rfl, hkeep.1, ?_⟩⟩, fun _ => .inl rfl,
      fun _ => ⟨_, rfl, .inr ⟨file, hdb, .erased userId documentId doc rfl hdoc hkeep.1⟩⟩⟩
    · exact List.mem_of_mem_filter hdoc.mem
    · simp [commit_append, h₁.commit, commit, Op.applied, hdoc.id_eq]

end Muefs
