import Muefs.Steps.FileStep

/-!
# How requests begin

One lemma for each step that several endpoints share: the account that signed in, its lock, the filing without and with
its lock, an upload on its way to the record. None of them writes, but for the entry of an inserted document.
-/

namespace Muefs
open RowLocks

variable {cfg : Settings} {db : Store} {userId : UserId} {f : FilingId}

/-! ## Accounts -/

theorem signedInFiler_meets : Meets db (signedInFiler userId) fun tr _ => Quiet tr := by
  simp only [signedInFiler, getCurrentUser, requireUserMayManageEfilings, meets_bind, meets_look, meets_expect,
    meets_require, meets_pure]
  intro row account _ _ _
  simp [Writes]

theorem lockCurrentUser_meets :
    Meets db (lockCurrentUser userId) fun tr account => Quiet tr ∧ Active db userId account := by
  simp only [lockCurrentUser, meets_bind, meets_lock, meets_expect, meets_require, meets_pure]
  intro account hrow hactive
  exact ⟨by simp [Writes], hrow, hactive⟩

theorem lockFiler_meets :
    Meets db (lockFiler userId) fun tr account => Quiet tr ∧ ActiveFiler db userId account := by
  simp only [lockFiler, requireUserMayManageEfilings, meets_bind, meets_require, meets_pure]
  refine lockCurrentUser_meets.mono ?_
  rintro tr account ⟨hq, hactive⟩ hpublic
  exact ⟨by simp [hq], hactive, hpublic⟩

/-! ## Filings -/

@[simp] theorem meets_lockFiling {R : Trace → Option FilingFile → Prop} :
    Meets db (lockFiling f) R ↔ R [⟨.lock .update (.envelope f), db (.envelope f)⟩] (db (.envelope f)) := meets_lock

@[simp] theorem meets_saveFiling {file : FilingFile} {R : Trace → Unit → Prop} :
    Meets db (saveFiling f file) R ↔ R [⟨.write (.envelope f) fun _ => some file, ()⟩] () := meets_write

@[simp] theorem meets_ownedFiling {row : Option FilingFile} {refusal : String} {R : Trace → FilingFile → Prop} :
    Meets db (ownedFiling row userId refusal) R ↔
      ∀ file, row = some file → file.filing.filerId = userId → R [] file := by
  simp only [ownedFiling, meets_bind, meets_expect, meets_require, meets_pure, List.append_nil]

/-- What an unlocked read gives: the envelope of one read and the rows of another. -/
structure Read (tr : Trace) (f : FilingId) (file : FilingFile) : Prop where
  envelope : ∃ rows, Seen tr f rows ∧ rows.filing = file.filing
  documents : file.documents ≠ [] → ∃ rows, Seen tr f rows ∧ rows.documents = file.documents

theorem Read.mono {tr tr' : Trace} {file : FilingFile} (h : Read tr f file) (htr : ∀ e ∈ tr, e.Heard → e ∈ tr') :
    Read tr' f file := by
  constructor
  · obtain ⟨rows, hseen, heq⟩ := h.envelope
    exact ⟨rows, htr _ hseen trivial, heq⟩
  · intro hne
    obtain ⟨rows, hseen, heq⟩ := h.documents hne
    exact ⟨rows, htr _ hseen trivial, heq⟩

theorem getFiling_meets :
    Meets db (getFiling f) fun tr r => Quiet tr ∧ ∀ file, r = some file → Read tr f file := by
  simp only [getFiling, meets_bind, meets_look]
  intro envelope related
  cases envelope with
  | none => simp [Writes]
  | some file =>
    cases related with
    | none =>
      simp only [meets_pure]
      refine ⟨by simp [Writes], ?_⟩
      rintro _ ⟨⟩
      exact ⟨⟨file, by simp [Seen], rfl⟩, fun h => absurd rfl h⟩
    | some later =>
      simp only [meets_pure]
      refine ⟨by simp [Writes], ?_⟩
      rintro _ ⟨⟩
      exact ⟨⟨file, by simp [Seen], rfl⟩, fun _ => ⟨later, by simp [Seen], rfl⟩⟩

theorem FilingFile.documents_ne {file : FilingFile} (h : file.currentDocuments ≠ []) : file.documents ≠ [] := by
  intro hnil
  simp [currentDocuments, hnil] at h

/-! ## Uploads -/

theorem inspectUpload_meets {file : Upload} {requirePdf : Bool} :
    Meets db (inspectUpload cfg file requirePdf) fun tr r => Quiet tr ∧ r.1 = file.content := by
  simp only [inspectUpload, readUpload, meets_bind, meets_require, meets_ofExcept, meets_pure]
  intro _ _ screening _ _ _
  simp [Writes]

/-- What `read_upload` lets through. -/
structure Upload.Fits (cfg : Settings) (upload : Upload) : Prop where
  small : upload.content.length ≤ cfg.maxFileSizeMb * 1024 * 1024
  nonempty : upload.content ≠ []

theorem storeDocumentUpload_fits {file : Upload} {code title : String} {isConfidential : Bool} :
    Meets db (storeDocumentUpload cfg f file code title isConfidential) fun _ _ => file.Fits cfg := by
  simp only [storeDocumentUpload, inspectUpload, readUpload, meets_bind, meets_require, meets_ofExcept, meets_newId,
    meets_act, meets_now, meets_pure]
  exact fun hsmall hnonempty _ _ _ _ _ _ => ⟨hsmall, hnonempty⟩

/-- A document between its upload and its record: stored under a key that was drawn for it. -/
structure Stored (tr : Trace) (code : String) (upload : Upload) (doc : FilingDocument) : Prop where
  matched : doc.sha256Hash = .of upload.content ∧ doc.fileSizeBytes = upload.content.length
  key_new : ⟨.fresh, doc.fileKey.uuid⟩ ∈ tr
  current : doc.removedAt = none
  unpublished : doc.publicCopyId = none
  type_eq : doc.documentTypeCode = code
  retained : doc.retainedAt.isSome = true ↔ code = "FEE_WAIVER_ORDER"

theorem storeDocumentUpload_meets {file : Upload} {code title : String} {isConfidential : Bool} :
    Meets db (storeDocumentUpload cfg f file code title isConfidential) fun tr doc =>
      Quiet tr ∧ Stored tr code file doc := by
  simp only [storeDocumentUpload, meets_bind, meets_newId, meets_act, meets_now, meets_pure]
  refine inspectUpload_meets.mono ?_
  rintro tr r ⟨hq, hcontent⟩ uuid time
  refine ⟨by simp [hq, Writes], ?_⟩
  exact {
    matched := by simp [hcontent]
    key_new := by simp [FileKey.uuid]
    current := rfl
    unpublished := rfl
    type_eq := rfl
    retained := by simp only; split <;> simp_all }

theorem insertDocument_meets {doc : FilingDocument} :
    Meets db (insertDocument f doc) fun tr doc' =>
      Writes (fun g _ => g = .document doc'.id) tr ∧ ⟨.fresh, doc'.id⟩ ∈ tr ∧
        ∃ time, doc' = { doc with id := doc'.id, uploadedAt := time } := by
  simp only [insertDocument, meets_bind, meets_newId, meets_now, meets_write, meets_pure]
  intro id time
  exact ⟨by simp [Writes], by simp, time, rfl⟩

end Muefs
