import Muefs.RowLocks.Outcomes
import Muefs.Steps.Asks
import Muefs.Steps.Runs

/-!
# Requests that were answered before

* `MayFile`, `Holding`, `CreationRead` : the stores that a request reads, as far as its answer depends on them;
* `createFiling_yields`, `submitFilingRequest_yields` : what a creation and a repeated submission come to there;
* `uploadDocument_refused`, `uploadDocument_late`, `uploadDocument_cleans` : what an upload comes to.
-/

namespace Muefs
open RowLocks

variable {cfg : Settings} {userId : UserId} {f : FilingId} {tr : Trace}
  {A : Trace → Entry View → Prop} {E : Trace → Failure → Prop}

/-! ## Accounts and filings -/

def MayFile (userId : UserId) : (g : Row) → View g → Prop
  | .user id, v => id = userId → ∃ account, v = some account ∧ account.user.isActive = true ∧
    account.user.userType ≠ .publicUser
  | _, _ => True

/-- The filing, where it is read, is in the store as `I` says. -/
def Holding (f : FilingId) (I : FilingFile → Prop) : (g : Row) → View g → Prop
  | .envelope g, v => g = f → ∃ file, v = some file ∧ I file
  | _, _ => True

/-- Nothing in the trace takes effect at once. -/
def Passive (tr : Trace) : Prop := ∀ e ∈ tr, e.op.Still

theorem passive_append {tr₁ tr₂ : Trace} : Passive (tr₁ ++ tr₂) ↔ Passive tr₁ ∧ Passive tr₂ := by
  simp only [Passive, List.forall_mem_append]

theorem getCurrentUser_yields (hA : ∀ tr e, A tr e → e.Reads (MayFile userId)) {Q : Trace → Account → Prop}
    (hQ : ∀ new account, Passive new → account.user.userType ≠ .publicUser → Q (tr ++ new) account) :
    (getCurrentUser userId).Yields A E tr Q := by
  simp only [getCurrentUser, Txn.yields_bind, Txn.yields_look, Txn.yields_expect, Txn.yields_require, Txn.yields_pure]
  intro v hv
  obtain ⟨account, rfl, hactive, hpublic⟩ := hA _ _ hv rfl
  simp [hactive, hQ [⟨.look (.user userId), some account⟩] account (by simp [Passive, Op.Still]) hpublic]

theorem signedInFiler_yields (hA : ∀ tr e, A tr e → e.Reads (MayFile userId)) {Q : Trace → Unit → Prop}
    (hQ : ∀ new, Passive new → Q (tr ++ new) ()) : (signedInFiler userId).Yields A E tr Q := by
  simp only [signedInFiler, requireUserMayManageEfilings, Txn.yields_bind, Txn.yields_require]
  exact getCurrentUser_yields hA fun new account hnew hpublic => ⟨fun _ => hQ new hnew, fun h => absurd hpublic h⟩

theorem lockFiler_yields (hA : ∀ tr e, A tr e → e.Reads (MayFile userId)) {Q : Trace → Account → Prop}
    (hQ : ∀ new account, Passive new → Q (tr ++ new) account) : (lockFiler userId).Yields A E tr Q := by
  simp only [lockFiler, lockCurrentUser, requireUserMayManageEfilings, Txn.yields_bind, Txn.yields_lock,
    Txn.yields_expect, Txn.yields_require, Txn.yields_pure]
  intro v hv
  obtain ⟨account, rfl, hactive, hpublic⟩ := hA _ _ hv rfl
  simp [hactive, hpublic, hQ [⟨.lock .share (.user userId), some account⟩] account (by simp [Passive, Op.Still])]

theorem getFiling_yields {I : FilingFile → Prop}
    (hA : ∀ new e, A (tr ++ new) e → e.Reads (Holding f I)) {Q : Trace → Option FilingFile → Prop}
    (hQ : ∀ new file later, Passive new → I file → I later →
      Q (tr ++ new) (some { later with filing := file.filing })) : (getFiling f).Yields A E tr Q := by
  simp only [getFiling, Txn.yields_bind, Txn.yields_look]
  intro v hv v' hv'
  obtain ⟨file, rfl, hfile⟩ := hA [] ⟨.look (.envelope f), v⟩ (by simpa using hv) rfl
  obtain ⟨later, rfl, hlater⟩ := hA _ ⟨.look (.envelope f), v'⟩ hv' rfl
  simpa using hQ [⟨.look (.envelope f), some file⟩, ⟨.look (.envelope f), some later⟩] file later
    (by simp [Passive, Op.Still]) hfile hlater

/-! ## Creations -/

/-- What a creation under this key reads: the entry of the key is missing, early, or leads to `f`. -/
def Keyed (early : Prop) (userId : UserId) (key : Uuid) (f : FilingId) : (g : Row) → View g → Prop
  | .creationKey id k, v => id = userId → k = key → (v = none ∧ early) ∨ v = some f
  | _, _ => True

/-- The trace read that the key leads to `f`. -/
def Known (userId : UserId) (key : Uuid) (f : FilingId) (tr : Trace) : Prop :=
  ⟨.look (.creationKey userId key), some f⟩ ∈ tr ∨ ∃ m, ⟨.tryLock m (.creationKey userId key), some f⟩ ∈ tr

theorem Known.append {key : Uuid} (h : Known userId key f tr) (new : Trace) : Known userId key f (tr ++ new) :=
  h.imp (List.mem_append_left _) fun ⟨m, hm⟩ => ⟨m, List.mem_append_left _ hm⟩

/-- What a creation reads: an account that may file, and under its key, once it is known, the filing. -/
structure CreationRead (early : Prop) (userId : UserId) (key : Uuid) (f : FilingId) (I : FilingFile → Prop)
    (tr : Trace) (e : Entry View) : Prop where
  account : e.Reads (MayFile userId)
  keyed : e.Reads (Keyed early userId key f)
  stays : Known userId key f tr → e.Reads (Keyed False userId key f)
  holds : Known userId key f tr → e.Reads (Holding f I)

def Failure.IsDestination (e : Failure) : Prop := ∃ status detail, e = .destination status detail

theorem validateFilingDestination_yields {dest : Destination} {filer : Option Viewer} {lock : Bool}
    {Q : Trace → Option CaseFile → Prop} (hE : ∀ tr e, e.IsDestination → E tr e) (hQ : ∀ tr case, Q tr case) :
    (validateFilingDestination dest filer lock).Yields A E tr Q := by
  have hread : ∀ {tr : Trace} {g : Row} {R : Trace → View g → Prop}, (∀ tr v, R tr v) →
      (readRow lock g).Yields A E tr R := by
    intro tr g R hR
    cases lock <;> exact fun v _ => hR _ v
  have hraise : ∀ {tr : Trace} {status : Nat} {detail : String}, E tr (.destination status detail) :=
    hE _ _ ⟨_, _, rfl⟩
  simp only [validateFilingDestination, Txn.yields_bind, Txn.yields_require, Txn.yields_expect, hraise, implies_true,
    and_true]
  refine fun _ _ _ => hread fun _ courtRow => hread fun _ typeRow court _ caseType _ _ _ _ => ?_
  unfold validateCase
  split
  · exact hQ _ _
  · simp only [Txn.yields_bind, Txn.yields_require, Txn.yields_expect, Txn.yields_pure, hraise, implies_true, and_true]
    exact hread fun _ row case _ _ _ _ => hQ _ _

theorem findCreated_yields {early : Prop} {key : Uuid} {I : FilingFile → Prop} {Q : Trace → Option FilingFile → Prop}
    (hmissing : early → ¬ Known userId key f tr → Q (tr ++ [⟨.look (.creationKey userId key), none⟩]) none)
    (hfound : ∀ new file later, I file → I later → Q (tr ++ new) (some { later with filing := file.filing })) :
    (findCreated userId key).Yields (CreationRead early userId key f I) E tr Q := by
  simp only [findCreated, Txn.yields_bind, Txn.yields_look]
  intro v hv
  rcases hv.keyed rfl rfl with ⟨rfl, hearly⟩ | rfl
  · refine hmissing hearly fun hknown => ?_
    rcases hv.stays hknown rfl rfl with ⟨_, h⟩ | h
    · exact h
    · exact absurd h (by simp)
  · have hknown : Known userId key f (tr ++ [⟨.look (.creationKey userId key), some f⟩]) := .inl (by simp)
    refine getFiling_yields (fun new e he => he.holds (hknown.append new)) fun new file later _ hfile hlater => ?_
    rw [List.append_assoc]
    exact hfound _ file later hfile hlater

theorem insertFiling_yields {filer : Viewer} {data : FilingEnvelopeCreate} {key : Uuid}
    (hA : ∀ tr v, A tr ⟨.lock .update (.creationKey filer.id key), v⟩ → v = none ∨ v = some f) :
    (insertFiling filer data key).Yields A (fun tr e => e.IsDestination ∨ (e = .integrity "uq_filing_creation_key" ∧
      ⟨.lock .update (.creationKey filer.id key), some f⟩ ∈ tr)) tr fun _ _ => True := by
  simp only [insertFiling, saveFiling, Txn.yields_bind, Txn.yields_newId, Txn.yields_lock, Txn.yields_require,
    Txn.yields_write, Txn.yields_pure, implies_true, true_and]
  refine validateFilingDestination_yields (fun _ _ h => .inl h) fun tr case id _ v hv hne => .inr ?_
  rcases hA _ v hv with rfl | rfl
  · exact absurd rfl hne
  · simp

/-- The answer that a recorded creation has for this payload. -/
def Replays (f : FilingId) (sha : Option (Digest CreationFields)) (data : FilingEnvelopeCreate) (a : Response) : Prop :=
  (sha = some (creationFingerprint data) ∧ ∃ file, a = .filing file ∧ file.filing.id = f) ∨
    (sha ≠ some (creationFingerprint data) ∧ a = .creationConflict f)

theorem replayCreation_replays {sha : Option (Digest CreationFields)} {data : FilingEnvelopeCreate} {file : FilingFile}
    (hid : file.filing.id = f) (hsha : file.filing.creationSha256 = sha) :
      Replays f sha data (replayCreation file data) := by
  unfold replayCreation
  split_ifs with h
  · exact .inr ⟨hsha ▸ h, by rw [hid]⟩
  · exact .inl ⟨by rw [← hsha]; simpa using h, file, rfl, hid⟩

/-- **A creation by an account that may file.** It is answered by the filing under its key, or it came early; it fails
for its destination only, when it looked last and the key led nowhere. -/
theorem createFiling_yields {early : Prop} {data : FilingEnvelopeCreate} {key : Uuid}
    {sha : Option (Digest CreationFields)} :
    (createFiling userId data key).Yields
      (CreationRead early userId key f fun file => file.filing.id = f ∧ file.filing.creationSha256 = sha)
      (fun tr e => early ∧ e.IsDestination ∧ ∃ tr', tr = tr' ++ [⟨.look (.creationKey userId key), none⟩]) []
      fun _ a => early ∨ Replays f sha data a := by
  simp only [createFiling, Txn.yields_bind]
  refine signedInFiler_yields (fun _ _ h => h.account) fun tr₁ h₁ => ?_
  refine lockFiler_yields (fun _ _ h => h.account) fun tr₂ account h₂ => ?_
  have hreplay : ∀ file later : FilingFile, (file.filing.id = f ∧ file.filing.creationSha256 = sha) →
      Replays f sha data (replayCreation { later with filing := file.filing } data) :=
    fun file later h => replayCreation_replays h.1 h.2
  refine findCreated_yields (fun hearly _ => ?_) fun new file later hfile _ => .inr (hreplay file later hfile)
  simp only [Txn.yields_bind]
  refine Txn.Yields.savepoint (insertFiling_yields (f := f) fun _ v hv => ?_) (fun _ _ _ _ _ => .inl hearly)
    fun tr₃ x hx => ?_
  · have hread := hv ⟨.tryLock .update (.creationKey userId key), v⟩ (by simp [Txn.tried])
    exact (hread.keyed rfl rfl).imp_left And.left
  have hlost : x.isLostRace = true := by
    rcases hx with ⟨_, _, rfl⟩ | ⟨rfl, _⟩ <;> rfl
  simp only [hlost, if_true, Txn.yields_bind, Txn.yields_expect, Txn.yields_pure]
  refine findCreated_yields (fun _ hunknown => ⟨by simp, fun _ => ⟨hearly, hx.resolve_right ?_, _, rfl⟩⟩)
    fun new file later hfile _ => ⟨fun _ _ => .inl hearly, by simp⟩
  rintro ⟨_, htaken⟩
  refine hunknown (.inr ⟨.update, List.mem_append_left _ (List.mem_append_right _ ?_)⟩)
  exact List.mem_flatMap.2 ⟨_, htaken, by simp [Txn.tried]⟩

/-! ## Submissions -/

/-- **A submission that is recorded is answered with its filing.** -/
theorem submitFilingRequest_yields {key : Uuid} {token : SubmissionToken} :
    (submitFilingRequest cfg userId f (some key) token).Yields (fun _ e => e.Reads (MayFile userId) ∧
      e.Reads (Holding f fun file => file.filing.id = f ∧ file.filing.filerId = userId ∧ file.hasKey (some key) = true))
      (fun _ _ => False) [] fun _ a => ∃ file, a = .filing file ∧ file.filing.id = f := by
  simp only [submitFilingRequest, ownedFiling, submitFiling, checkSubmission, relatedRows, Txn.yields_bind,
    Txn.yields_expect, Txn.yields_require, Txn.yields_pure]
  refine signedInFiler_yields (fun _ _ h => h.1) fun tr₁ h₁ => ?_
  refine lockFiler_yields (fun _ _ h => h.1) fun tr₂ account h₂ => ?_
  refine getFiling_yields (fun _ _ h => h.2) fun tr₃ file later _ hfile hlater => ⟨?_, by simp⟩
  rintro _ ⟨⟩
  refine ⟨fun _ => ?_, fun h => h hfile.2.1⟩
  refine getFiling_yields (fun _ _ h => h.2) fun tr₄ probe rows _ hprobe hrows => ?_
  simp only [Bool.false_eq_true, if_false, Txn.yields_bind, Txn.yields_look, Txn.yields_pure]
  intro v hv
  obtain ⟨recorded, rfl, hrecorded⟩ := hv.2 hprobe.1
  have hkey : ({ recorded with filing := probe.filing, documents := rows.documents } : FilingFile).hasKey (some key) =
      true := hrecorded.2.2
  simp only [Txn.yields_pure, hkey, if_true]
  exact ⟨_, rfl, hprobe.1⟩

/-! ## Uploads -/

section Uploads

variable {key : Uuid} {form : UploadForm} {upload : Upload}

def SawUpload (f : FilingId) (key : Uuid) (tr : Trace) : Prop :=
  ∃ rows u, ReadRows tr f rows ∧ rows.uploadRequest key = some u

/-- A refusal of `read_upload`. -/
def OversizeRefusal (cfg : Settings) (upload : Upload) (x : Failure) : Prop :=
  ¬ upload.Fits cfg ∧ (x.httpStatus = 413 ∨ x.httpStatus = 422)

def Op.Unread (f : FilingId) : Op View → Prop
  | .look g | .lock _ g => g ≠ .envelope f
  | _ => True

theorem SawUpload.of_unread {new : Trace} (h : SawUpload f key (tr ++ new)) (hnew : ∀ e ∈ new, Op.Unread f e.op) :
    SawUpload f key tr := by
  obtain ⟨rows, u, hread, hu⟩ := h
  have hold : ∀ {e : Entry View}, e ∈ tr ++ new → ¬ Op.Unread f e.op → e ∈ tr := fun he hread =>
    (List.mem_append.1 he).resolve_right fun he => hread (hnew _ he)
  exact ⟨rows, u, hread.imp (fun he => hold he (by simp [Op.Unread])) fun he => hold he (by simp [Op.Unread]), hu⟩

/-- What an upload of the filing's owner reads: once it has read a record of the key, there is one. It came `late` if
there was one before. -/
structure UploadRead (late : Prop) (userId : UserId) (f : FilingId) (key : Uuid) (tr : Trace)
    (e : Entry View) : Prop where
  account : e.Reads (MayFile userId)
  owned : e.Reads (Holding f fun file => file.filing.filerId = userId)
  stays : late ∨ SawUpload f key tr → e.Reads (Holding f fun file => (file.uploadRequest key).isSome = true)

theorem UploadRead.unseen {late : Prop} {e : Entry View} {seen : FilingFile} (h : UploadRead late userId f key tr e)
    (he : e = ⟨.look (.envelope f), some seen⟩ ∨ e = ⟨.lock .update (.envelope f), some seen⟩)
    (hkey : seen.uploadRequest key = none) : ¬ (late ∨ SawUpload f key (tr ++ [e])) := by
  have hnone : ∀ {known : Prop}, (known → late ∨ SawUpload f key tr) → ¬ known := by
    intro known hknown hk
    have hstays := h.stays (hknown hk)
    rcases he with rfl | rfl <;>
      · obtain ⟨_, heq, hsome⟩ := hstays rfl
        cases heq
        rw [hkey] at hsome
        cases hsome
  rintro (hlate | ⟨rows, u, hread, hu⟩)
  · exact hnone .inl hlate
  have hread' : ReadRows tr f rows ∨ rows = seen := by
    rcases hread with hread | hread <;> rcases List.mem_append.1 hread with hread | hread
    · exact .inl (.inl hread)
    · rcases he with rfl | rfl <;> simp at hread
      exact .inr hread
    · exact .inl (.inr hread)
    · rcases he with rfl | rfl <;> simp at hread
      exact .inr hread
  rcases hread' with hread' | rfl
  · exact hnone (fun hsaw => .inr hsaw) ⟨rows, u, hread', hu⟩
  · rw [hkey] at hu
    cases hu

theorem readUpload_yields {Q : Trace → Content → Prop}
    (hE : ∀ x, OversizeRefusal cfg upload x → E tr x) (hQ : upload.Fits cfg → Q tr upload.content) :
    (readUpload cfg upload).Yields A E tr Q := by
  simp only [readUpload, Txn.yields_bind, Txn.yields_require, Txn.yields_pure]
  refine ⟨fun hsmall => ⟨fun hne => hQ ⟨hsmall, hne⟩, fun hempty => ?_⟩, fun hlarge => ?_⟩
  · exact hE _ ⟨fun hfits => hempty hfits.nonempty, .inr rfl⟩
  · exact hE _ ⟨fun hfits => hlarge hfits.small, .inl rfl⟩

theorem replayUpload_yields {recorded : UploadRequest} {documents : List FilingDocument}
    {fingerprint : Digest UploadFields} {Q : Trace → FilingDocument → Prop} (hE : ∀ x, x.httpStatus = 409 → E tr x)
    (hQ : ∀ doc, Q tr doc) : (replayUpload recorded documents fingerprint).Yields A E tr Q := by
  simp only [replayUpload, Txn.yields_bind, Txn.yields_require, Txn.yields_expect]
  exact ⟨fun _ => ⟨fun doc _ => hQ doc, fun _ => hE _ rfl⟩, fun _ => hE _ rfl⟩

theorem storeDocumentUpload_unread (code title : String) (isConfidential : Bool) :
    (storeDocumentUpload cfg f upload code title isConfidential).Asks (Op.Unread f) := by
  have hinspect : (inspectUpload cfg upload (code == "FEE_WAIVER_ORDER")).Asks (Op.Unread f) := by
    refine Txn.Asks.bind (Txn.Asks.bind (by simp) fun _ => .bind (by simp) fun _ => by simp) fun content => ?_
    exact .bind (by simp) fun screening => .bind (by simp) fun _ => .bind (by simp) fun _ => by simp
  refine hinspect.bind fun _ => Txn.Asks.bind (by simp [Op.Unread]) fun uuid => ?_
  exact .bind (by simp [Op.Unread]) fun _ => .bind (by simp [Op.Unread]) fun time => by simp

theorem insertDocument_unread (doc : FilingDocument) : (insertDocument f doc).Asks (Op.Unread f) :=
  Txn.Asks.bind (by simp [Op.Unread]) fun id => .bind (by simp [Op.Unread]) fun time =>
    .bind (by simp [Op.Unread]) fun _ => by simp

/-- **What fails once it has read a record of its key, fails with 409,** or because of the size of the file; and so does
what came late. -/
theorem uploadDocument_refused {late : Prop} :
    (uploadDocument cfg userId f key form upload).Yields (UploadRead late userId f key)
      (fun tr x => late ∨ SawUpload f key tr → x.httpStatus = 409 ∨ OversizeRefusal cfg upload x)
      [] fun _ _ => True := by
  simp only [uploadDocument, ownedFiling, Txn.yields_bind, Txn.yields_expect, Txn.yields_require, Txn.yields_look,
    Txn.yields_pure]
  refine signedInFiler_yields (fun _ _ h => h.account) fun tr₁ h₁ => ?_
  refine getFiling_yields (fun _ _ h => h.owned) fun tr₂ file later _ hfile hlater => ⟨?_, by simp⟩
  rintro probe ⟨⟩
  refine ⟨fun _ rows hrows => ?_, fun h => absurd hfile h⟩
  obtain ⟨seen, rfl, _⟩ := hrows.owned rfl
  cases hkey : seen.uploadRequest key with
  | some recorded =>
    simp only [Option.bind_some, hkey, Txn.yields_bind, Txn.yields_look]
    refine readUpload_yields (fun x hx _ => .inr hx) fun _ later _ => ?_
    exact replayUpload_yields (fun x hx _ => .inl hx) fun doc => trivial
  | none =>
    have hunseen : ∀ new : Trace, (∀ e ∈ new, Op.Unread f e.op) →
        ¬ (late ∨ SawUpload f key (([] ++ tr₁ ++ tr₂) ++ [⟨.look (.envelope f), some seen⟩] ++ new)) :=
      fun new hnew hsaw => hrows.unseen (.inl rfl) hkey (hsaw.imp_right fun hsaw => hsaw.of_unread hnew)
    simp only [Option.bind_some, hkey, Txn.yields_bind, Txn.yields_require, Txn.yields_onRaise, Txn.yields_act]
    refine ⟨fun _ => ⟨fun _ => ?_, fun _ h => absurd h (by simpa using hunseen [] (by simp))⟩,
      fun _ h => absurd h (by simpa using hunseen [] (by simp))⟩
    refine Txn.yields_of_asks (storeDocumentUpload_unread _ _ _) (fun new x hnew h => absurd h (hunseen new hnew))
      fun new doc hnew => ?_
    simp only [recordUpload, lockFiling, Txn.yields_bind, Txn.yields_lock, Txn.yields_expect, Txn.yields_require]
    refine lockFiler_yields (fun _ _ h => h.account) fun tr₃ account _ row hrow => ?_
    obtain ⟨locked, rfl, hfiler⟩ := hrow.owned rfl
    refine ⟨?_, by simp⟩
    rintro _ ⟨⟩
    refine ⟨fun _ => ?_, fun h => absurd hfiler h⟩
    cases hlocked : locked.uploadRequest key with
    | some recorded =>
      simp only [Txn.yields_bind, Txn.yields_act, Txn.yields_pure, implies_true]
      exact replayUpload_yields (fun x hx _ _ => .inl hx) fun doc => trivial
    | none =>
      have hunseen' := hrow.unseen (.inr rfl) hlocked
      simp only [Txn.yields_bind, Txn.yields_require, saveFiling, Txn.yields_write, Txn.yields_pure, implies_true]
      refine ⟨fun _ => Txn.yields_of_asks (insertDocument_unread _) (fun new x hnew _ h => ?_) fun _ _ _ => trivial,
        fun _ _ h => ?_⟩
      · exact absurd (h.imp_right fun h => (h.of_unread (by simp [Op.Unread])).of_unread hnew) hunseen'
      · exact absurd (h.imp_right fun h => h.of_unread (by simp [Op.Unread])) hunseen'

/-- The filing has a record of the key, for this payload and document; the document is there, or it is not. -/
structure UploadHeld (userId : UserId) (key : Uuid) (fingerprint : Digest UploadFields) (id : Option DocumentId)
    (present gone : Prop) (file : FilingFile) : Prop where
  filer : file.filing.filerId = userId
  found : ∃ u, file.uploadRequest key = some u ∧ u.fingerprint = fingerprint ∧
    (u.documentId = id ∨ (u.documentId = none ∧ ¬ present))
  present : present → ∃ d ∈ file.documents, id = some d.id ∧ d.removedAt = none
  gone : gone → ∀ d ∈ file.documents, id = some d.id → d.removedAt ≠ none

/-- **A request that comes when its key is recorded stores nothing.** It is answered by the recorded document, for the
recorded payload and unless the document is gone; and it is answered so if the document is there and the file fits. -/
theorem uploadDocument_late {fingerprint : Digest UploadFields} {id : Option DocumentId} {present gone : Prop} :
    (uploadDocument cfg userId f key form upload).Yields (fun _ e => e.Reads (MayFile userId) ∧
        e.Reads (Holding f (UploadHeld userId key fingerprint id present gone)))
      (fun tr _ => Passive tr ∧ ¬ (present ∧ upload.Fits cfg ∧
        fingerprint = form.fingerprint upload (.of upload.content) upload.content.length)) []
      fun tr a => Passive tr ∧ ¬ gone ∧
        fingerprint = form.fingerprint upload (.of upload.content) upload.content.length ∧
        ∃ response, a = .document response ∧ id = some response.id := by
  simp only [uploadDocument, ownedFiling, Txn.yields_bind, Txn.yields_expect, Txn.yields_require, Txn.yields_look,
    Txn.yields_pure]
  refine signedInFiler_yields (fun _ _ h => h.1) fun tr₁ h₁ => ?_
  refine getFiling_yields (fun _ _ h => h.2) fun tr₂ file later h₂ hfile hlater => ⟨?_, by simp⟩
  rintro probe ⟨⟩
  refine ⟨fun _ rows hrows => ?_, fun h => absurd hfile.filer h⟩
  obtain ⟨seen, rfl, hseen⟩ := hrows.2 rfl
  obtain ⟨recorded, hkey, hfp, hid⟩ := hseen.found
  have hpassive : ∀ new : Trace, Passive new → Passive ([] ++ tr₁ ++ tr₂ ++ [⟨.look (.envelope f), some seen⟩] ++
    new) := by
    intro new hnew
    simp only [passive_append]
    exact ⟨⟨⟨⟨by simp [Passive], h₁⟩, h₂⟩, by simp [Passive, Op.Still]⟩, hnew⟩
  simp only [Option.bind_some, hkey, Txn.yields_bind, Txn.yields_look]
  refine readUpload_yields (fun x hx => ⟨by simpa using hpassive [] (by simp [Passive]), fun h => hx.1 h.2.1⟩)
    fun hfits last hlast => ?_
  obtain ⟨now, rfl, hnow⟩ := hlast.2 rfl
  have hread : Passive ([] ++ tr₁ ++ tr₂ ++ [⟨.look (.envelope f), some seen⟩] ++ [⟨.look (.envelope f), some now⟩]) :=
    hpassive _ (by simp [Passive, Op.Still])
  simp only [replayUpload, Txn.yields_bind, Txn.yields_require, Txn.yields_expect, Txn.yields_pure, Option.map_some,
    Option.getD_some, Option.bind_eq_some_iff, Option.bind_eq_none_iff, hfp]
  refine ⟨fun hsame => ⟨?_, fun hnone => ⟨hread, fun h => ?_⟩⟩, fun hother => ⟨hread, fun h => hother h.2.2⟩⟩
  · rintro doc ⟨id', hid', hfound⟩
    have hdoc := List.find?_some hfound
    simp only [Bool.and_eq_true, beq_iff_eq, Option.isNone_iff_eq_none] at hdoc
    have hidoc : id = some doc.id := by
      rcases hid with hid | ⟨hid, _⟩
      · rw [← hid, hid', hdoc.1]
      · exact absurd (hid'.symm.trans hid) (by simp)
    refine ⟨hread, fun hgone => ?_, hsame, doc.response, rfl, hidoc⟩
    rcases List.mem_append.1 (List.mem_of_find?_eq_some hfound) with hmem | hmem
    · exact hlater.gone hgone doc (List.mem_of_mem_filter hmem) hidoc hdoc.2
    · exact hnow.gone hgone doc hmem hidoc hdoc.2
  · obtain ⟨d, hd, hdid, hcurrent⟩ := hnow.present h.1
    have hid := hid.resolve_right fun hid => hid.2 h.1
    have hmissing := List.find?_eq_none.1 (hnone d.id (hid.trans hdid)) d (List.mem_append_right _ hd)
    simp [hcurrent] at hmissing

/-- What the trace stored, it deleted again, and asked nothing more. -/
def Cleaned (tr : Trace) : Prop :=
  ∀ k c, ⟨.act (.object k) fun _ => some c, ()⟩ ∈ tr → ∃ tr', tr = tr' ++ [⟨.act (.object k) fun _ => none, ()⟩]

/-- Whatever the trace stored, it stored under this key. -/
def StoredOnly (tr : Trace) (k : FileKey) : Prop := ∀ k' c, ⟨.act (.object k') fun _ => some c, ()⟩ ∈ tr → k' = k

theorem Passive.cleaned (h : Passive tr) : Cleaned tr := fun _ _ hstored => (h _ hstored).elim

theorem Passive.storedOnly (h : Passive tr) (k : FileKey) : StoredOnly tr k := fun _ _ hstored => (h _ hstored).elim

theorem StoredOnly.append {k : FileKey} {tr₁ tr₂ : Trace} (h₁ : StoredOnly tr₁ k) (h₂ : StoredOnly tr₂ k) :
    StoredOnly (tr₁ ++ tr₂) k := fun k' c h => (List.mem_append.1 h).elim (h₁ k' c) (h₂ k' c)

theorem StoredOnly.cleaned {k : FileKey} (h : StoredOnly tr k) :
    Cleaned (tr ++ [⟨.act (.object k) fun _ => none, ()⟩]) := by
  intro k' c hstored
  rcases List.mem_append.1 hstored with hstored | hstored
  · rw [h k' c hstored]
    exact ⟨tr, rfl⟩
  · rw [List.mem_singleton, Entry.mk.injEq, Op.act.injEq] at hstored
    obtain ⟨⟨hk, hf⟩, _⟩ := hstored
    cases hk
    exact absurd (congrFun (eq_of_heq hf) none) (by simp)

theorem yields_of_still {α : Type} {p : Portal α} {Q : Trace → α → Prop} (h : p.Asks Op.Still)
    (hE : ∀ new x, Passive new → E (tr ++ new) x) (hQ : ∀ new a, Passive new → Q (tr ++ new) a) :
    p.Yields A E tr Q := Txn.yields_of_asks h hE hQ

theorem mild_still {α : Type} {p : Portal α} (h : p.Asks Mild) : p.Asks Op.Still := h.mono fun _ ho => ho.plain.still

theorem replayUpload_still (recorded : UploadRequest) (documents : List FilingDocument)
    (fingerprint : Digest UploadFields) : (replayUpload recorded documents fingerprint).Asks Op.Still :=
  Txn.Asks.bind (by simp) fun _ => by simp

theorem readUpload_still : (readUpload cfg upload).Asks Op.Still :=
  Txn.Asks.bind (by simp) fun _ => .bind (by simp) fun _ => by simp

theorem inspectUpload_still (requirePdf : Bool) : (inspectUpload cfg upload requirePdf).Asks Op.Still :=
  readUpload_still.bind fun content => .bind (by simp) fun screening => .bind (by simp) fun _ =>
    .bind (by simp) fun _ => by simp

theorem insertDocument_still (doc : FilingDocument) : (insertDocument f doc).Asks Op.Still :=
  Txn.Asks.bind (by simp [Op.Still]) fun id => .bind (by simp [Op.Still]) fun time =>
    .bind (by simp [Op.Still]) fun _ => by simp

theorem recordUpload_cleans {doc : FilingDocument} (h : StoredOnly tr doc.fileKey) :
    (recordUpload userId f key form upload doc).Yields A (fun tr _ => StoredOnly tr doc.fileKey) tr fun tr _ =>
      Cleaned tr ∨ ∃ file', ⟨.write (.envelope f) fun _ => some file', ()⟩ ∈ tr := by
  have hnext : ∀ {tr new : Trace}, StoredOnly tr doc.fileKey → Passive new → StoredOnly (tr ++ new) doc.fileKey :=
    fun htr hnew => htr.append (hnew.storedOnly _)
  simp only [recordUpload, lockFiling, Txn.yields_bind, Txn.yields_lock, Txn.yields_expect, Txn.yields_require]
  refine yields_of_still (lockFiler_asks trivial) (fun _ _ hnew => hnext h hnew) fun tr₁ _ h₁ row _ => ?_
  have hlocked : StoredOnly (tr ++ tr₁ ++ [⟨.lock .update (.envelope f), row⟩]) doc.fileKey :=
    hnext (hnext h h₁) (by simp [Passive, Op.Still])
  refine ⟨fun locked _ => ⟨fun _ => ?_, fun _ => hlocked⟩, fun _ => hlocked⟩
  cases locked.uploadRequest key with
  | some recorded =>
    simp only [Txn.yields_bind, Txn.yields_act, Txn.yields_pure]
    exact yields_of_still (replayUpload_still _ _ _) (fun _ _ hnew => hnext hlocked hnew) fun tr₂ _ h₂ _ =>
      .inl (hnext hlocked h₂).cleaned
  | none =>
    simp only [Txn.yields_bind, Txn.yields_require, saveFiling, Txn.yields_write, Txn.yields_pure]
    refine ⟨fun _ => yields_of_still (insertDocument_still _) (fun _ _ hnew => hnext hlocked hnew) fun tr₂ doc h₂ _ =>
      ?_, fun _ => hlocked⟩
    exact .inr ⟨_, List.mem_append_right _ (List.mem_singleton.2 rfl)⟩

/-- **An upload that ends without a document of its own has deleted what it stored.** -/
theorem uploadDocument_cleans :
    (uploadDocument cfg userId f key form upload).Yields A (fun tr _ => Cleaned tr) [] fun tr _ =>
      Cleaned tr ∨ ∃ file', ⟨.write (.envelope f) fun _ => some file', ()⟩ ∈ tr := by
  simp only [uploadDocument, Txn.yields_bind, Txn.yields_look]
  refine yields_of_still (mild_still (signedInFiler_mild _)) (fun _ _ hnew => hnew.cleaned) fun tr₁ _ h₁ => ?_
  have hadd : ∀ {tr new : Trace}, Passive tr → Passive new → Passive (tr ++ new) := fun h h' => passive_append.2 ⟨h, h'⟩
  refine yields_of_still (mild_still (getFiling_mild _)) (fun _ _ hnew => (hadd h₁ hnew).cleaned) fun tr₂ row h₂ => ?_
  refine yields_of_still (mild_still (ownedFiling_mild _ _ _)) (fun _ _ hnew => (hadd (hadd h₁ h₂) hnew).cleaned)
    fun tr₃ probe h₃ rows _ => ?_
  have hbefore : Passive ([] ++ tr₁ ++ tr₂ ++ tr₃ ++ [⟨.look (.envelope f), rows⟩]) :=
    hadd (hadd (hadd h₁ h₂) h₃) (by simp [Passive, Op.Still])
  cases rows.bind fun rows => rows.uploadRequest key with
  | some recorded =>
    refine yields_of_still (readUpload_still.bind fun content => .bind (by simp [Op.Still]) fun later =>
      (replayUpload_still _ _ _).bind fun _ => by simp) (fun _ _ hnew => (hadd hbefore hnew).cleaned) fun tr₄ _ h₄ => ?_
    exact .inl (hadd hbefore h₄).cleaned
  | none =>
    simp only [storeDocumentUpload, Txn.yields_bind, Txn.yields_require, Txn.yields_newId, Txn.yields_act,
      Txn.yields_now, Txn.yields_pure, Txn.yields_onRaise]
    refine ⟨fun _ => ⟨fun _ => ?_, fun _ => hbefore.cleaned⟩, fun _ => hbefore.cleaned⟩
    refine yields_of_still (inspectUpload_still _) (fun _ _ hnew => (hadd hbefore hnew).cleaned)
      fun tr₄ inspected h₄ uuid _ _ time _ => ?_
    refine (recordUpload_cleans ?_).mono (fun _ _ h => h) (fun tr x h _ => h.cleaned) fun _ _ h => h
    refine .append (.append (.append ((hadd hbefore h₄).storedOnly _) ?_) ?_) ?_
    · intro k' c hstored
      simp at hstored
    · intro k' c hstored
      rw [List.mem_singleton, Entry.mk.injEq, Op.act.injEq] at hstored
      simpa using hstored.1.1
    · intro k' c hstored
      simp at hstored

end Uploads

end Muefs
