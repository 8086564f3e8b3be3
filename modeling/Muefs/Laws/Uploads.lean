import Muefs.Laws.Creation

/-!
# One document for each upload key

* `UploadChange`, `FileStep.upload` : what a step does to the records of the keys;
* `UploadedAs`, `Run.uploaded_kept` : the record of a key keeps its payload, and its document until that is erased;
* `UploadsSound` : the document of a record is in the filing, and its file was not too large;
* `Run.upload_once`, `Run.upload_agree`, `Run.upload_refused`, `Run.upload_late` : what requests with the key change,
  what they are answered, and why they are refused;
* `Run.upload_cleaned` : what they leave in the object store;
* `Run.uploaded_once` : the law.
-/

namespace Muefs
open RowLocks

variable {cfg : Settings} {r : Request} {db db' : Store} {tr : Trace} {f : FilingId} {file file' : FilingFile}
  {key : Uuid}

/-! ## Records of keys -/

/-- What a step does to the records of the upload keys. -/
inductive UploadChange (r : Request) (tr : Trace) (f : FilingId) (file file' : FilingFile) : Prop where
  | kept (huploads : file'.uploads = file.uploads)
      (hids : file.documents.map FilingDocument.id ⊆ file'.documents.map FilingDocument.id)
  | uploaded (userId : UserId) (key : Uuid) (form : UploadForm) (upload : Upload) (doc : FilingDocument)
      (request : UploadRequest) (hr : r = .uploadDocument userId f key form upload)
      (h : Uploadable tr file userId key form upload doc request)
      (huploads : file'.uploads = file.uploads ++ [request]) (hdocs : file'.documents = file.documents ++ [doc])
  | erased (id : DocumentId)
      (huploads : file'.uploads =
        file.uploads.map fun u => if u.documentId = some id then { u with documentId := none } else u)
      (hdocs : file'.documents = file.documents.filter fun d => d.id != id)

theorem FileStep.upload (h : FileStep cfg r db db' tr f file file') : UploadChange r tr f file file' := by
  have hsame : ∀ {base : FilingFile} {event : EventType} {actorId : UserId} {key : Option Uuid} {details : Details}
      {t : FilingTransaction} {saved : FilingFile}, Recorded cfg tr base event actorId key details saved t →
      base.uploads = file.uploads → file.documents.map FilingDocument.id ⊆ base.documents.map FilingDocument.id →
      UploadChange r tr f file saved := fun hrec hbase hids =>
    .kept (hrec.uploads_eq.trans hbase) (by rw [hrec.document_ids]; exact hids)
  have hmap : ∀ {step : FilingDocument → FilingDocument}, (∀ d, (step d).id = d.id) →
      file.documents.map FilingDocument.id ⊆ (file.documents.map step).map FilingDocument.id :=
    fun hstep => by rw [map_id_map hstep]; exact List.Subset.refl _
  have hconcat : ∀ doc : FilingDocument,
      file.documents.map FilingDocument.id ⊆ (file.documents ++ [doc]).map FilingDocument.id := fun doc => by
    rw [List.map_append]
    exact List.subset_append_left _ _
  cases h with
  | edited | copyPrepared => exact .kept rfl (List.Subset.refl _)
  | uploaded userId key form upload doc request hr h => exact .uploaded userId key form upload doc request hr h rfl rfl
  | retired userId documentId doc time hr h hkeep => exact .kept rfl (hmap fun d => by split <;> rfl)
  | erased userId documentId doc hr h hkeep => exact .erased documentId rfl rfl
  | feeReviewRequested userId data time t _ hr h hrec => exact hsame hrec rfl (hmap (FilingDocument.retain_id time))
  | feesAssessed userId data a time t saved hr h hrec =>
    exact .kept hrec.uploads_eq (by rw [hrec.document_ids]; exact hmap (FilingDocument.retain_id time))
  | waiverDecided userId form time doc due t _ hr haction h hrec => exact hsame hrec rfl (hconcat doc)
  | dateOrdered userId form doc change t _ hr h hrec => exact hsame hrec rfl (hconcat doc)
  | accepted userId count time receivedAt seen order dated caseId a b t _ hr h hacc hreceived hdated hcase hrec =>
    exact hsame hrec hdated.uploads_eq (by rw [hdated.documents_eq]; exact List.Subset.refl _)
  | cmsFailed userId count time receivedAt seen order dated error t _ hr h hacc hreceived hdated hrec =>
    exact hsame hrec hdated.uploads_eq (by rw [hdated.documents_eq]; exact List.Subset.refl _)
  | published userId documentId data doc copy g probe rows t _ hr h hblock hindexed hprobe hrows hcopy hdoc hrec =>
    exact hsame hrec rfl (hmap fun d => by split <;> rfl)
  | withheld userId documentId data doc t _ hr h hrec => exact hsame hrec rfl (hmap fun d => by split <;> rfl)
  | waiverReferred _ _ _ _ _ _ _ _ hrec | paid _ _ _ _ _ _ _ _ _ _ hrec | credited _ _ _ _ _ _ _ _ _ _ _ _ _ _ hrec
  | reversed _ _ _ _ _ _ _ _ _ _ _ hrec | submitted _ _ _ _ _ _ _ _ _ _ _ _ _ hrec
  | declined _ _ _ _ _ _ _ _ _ _ _ _ hrec =>
    exact hsame hrec rfl (List.Subset.refl _)

/-- The record of a key: the payload it is bound to, and its document, unless it was erased. -/
def UploadedAs (file : FilingFile) (key : Uuid) (fingerprint : Digest UploadFields) (id : Option DocumentId) : Prop :=
  ∃ u, file.uploadRequest key = some u ∧ u.fingerprint = fingerprint ∧ (u.documentId = id ∨ u.documentId = none)

def Uploaded (file : FilingFile) (key : Uuid) (fingerprint : Digest UploadFields) (id : DocumentId) : Prop :=
  ∃ u, file.uploadRequest key = some u ∧ u.fingerprint = fingerprint ∧ u.documentId = some id

theorem Uploaded.as {fingerprint : Digest UploadFields} {id : DocumentId} (h : Uploaded file key fingerprint id) :
    UploadedAs file key fingerprint (some id) := h.imp fun _ hu => ⟨hu.1, hu.2.1, .inl hu.2.2⟩

theorem Uploaded.unique {fingerprint fingerprint' : Digest UploadFields} {id id' : DocumentId}
    (h : Uploaded file key fingerprint id) (h' : UploadedAs file key fingerprint' (some id')) :
    fingerprint = fingerprint' ∧ id = id' := by
  obtain ⟨u, hu, hfp, hid⟩ := h
  obtain ⟨u', hu', hfp', hid'⟩ := h'
  cases hu.symm.trans hu'
  refine ⟨hfp.symm.trans hfp', ?_⟩
  rcases hid' with hid' | hid'
  · exact Option.some.inj (hid.symm.trans hid')
  · exact absurd (hid.symm.trans hid') (by simp)

theorem UploadChange.kept_record (h : UploadChange r tr f file file') {u : UploadRequest}
    (hu : file.uploadRequest key = some u) : ∃ u', file'.uploadRequest key = some u' ∧ u'.fingerprint = u.fingerprint ∧
      (u'.documentId = u.documentId ∨ u'.documentId = none) := by
  cases h with
  | kept huploads hids => exact ⟨u, by rwa [FilingFile.uploadRequest, huploads], rfl, .inl rfl⟩
  | uploaded userId key' form upload doc request hr h huploads hdocs =>
    refine ⟨u, ?_, rfl, .inl rfl⟩
    rw [FilingFile.uploadRequest, huploads, List.find?_append, show file.uploads.find? _ = some u from hu]
    rfl
  | erased id huploads hdocs =>
    refine ⟨if u.documentId = some id then { u with documentId := none } else u, ?_, by split <;> rfl, ?_⟩
    · rw [FilingFile.uploadRequest, huploads, List.find?_map]
      have hkey : ((fun u : UploadRequest => u.key == key) ∘ fun u : UploadRequest =>
          if u.documentId = some id then { u with documentId := none } else u) = fun u => u.key == key := by
        funext u
        simp only [Function.comp]
        split <;> rfl
      rw [hkey, show file.uploads.find? _ = some u from hu]
      rfl
    · split
      · exact .inr rfl
      · exact .inl rfl

theorem UploadChange.uploadedAs (h : UploadChange r tr f file file') {fingerprint : Digest UploadFields}
    {id : Option DocumentId} (hI : UploadedAs file key fingerprint id) : UploadedAs file' key fingerprint id := by
  obtain ⟨u, hu, hfp, hid⟩ := hI
  obtain ⟨u', hu', hfp', hid'⟩ := h.kept_record hu
  refine ⟨u', hu', hfp'.trans hfp, ?_⟩
  rcases hid' with heq | hnone
  · exact hid.imp heq.trans heq.trans
  · exact .inr hnone

/-! ## The invariant -/

/-- The payload that an upload's key is bound to. -/
def UploadForm.payload (form : UploadForm) (upload : Upload) : Digest UploadFields :=
  form.fingerprint upload (.of upload.content) upload.content.length

theorem UploadForm.payload_content {form form' : UploadForm} {upload upload' : Upload}
    (h : form.payload upload = form'.payload upload') : upload.content = upload'.content := by
  simp only [payload, fingerprint, Digest.of.injEq, UploadFields.mk.injEq] at h
  exact h.2.2.2.2.2.2

/-- The document of every record is in the filing, and its file was not too large. -/
structure UploadsSound (cfg : Settings) (file : FilingFile) : Prop where
  document : ∀ u ∈ file.uploads, ∀ id, u.documentId = some id → ∃ d ∈ file.documents, d.id = id
  fits : ∀ u ∈ file.uploads, ∃ form upload, u.fingerprint = UploadForm.payload form upload ∧ upload.Fits cfg

theorem UploadChange.sound (h : UploadChange r tr f file file')
    (hfits : ∀ userId key form upload, r = .uploadDocument userId f key form upload → upload.Fits cfg)
    (hI : UploadsSound cfg file) : UploadsSound cfg file' := by
  cases h with
  | kept huploads hids =>
    refine ⟨fun u hu id hid => ?_, fun u hu => hI.fits u (huploads ▸ hu)⟩
    obtain ⟨d, hd, rfl⟩ := hI.document u (huploads ▸ hu) id hid
    obtain ⟨d', hd', heq⟩ := List.mem_map.1 (hids (List.mem_map_of_mem hd))
    exact ⟨d', hd', heq⟩
  | uploaded userId key form upload doc request hr h huploads hdocs =>
    refine ⟨fun u hu id hid => ?_, fun u hu => ?_⟩
    · rcases List.mem_append.1 (huploads ▸ hu) with hu | hu
      · obtain ⟨d, hd, heq⟩ := hI.document u hu id hid
        exact ⟨d, hdocs ▸ List.mem_append_left _ hd, heq⟩
      · cases List.mem_singleton.1 hu
        rw [h.recorded] at hid
        exact ⟨doc, by simp [hdocs], Option.some.inj hid⟩
    · rcases List.mem_append.1 (huploads ▸ hu) with hu | hu
      · exact hI.fits u hu
      · cases List.mem_singleton.1 hu
        refine ⟨form, upload, ?_, hfits userId key form upload hr⟩
        rw [h.recorded, h.stored.1, h.stored.2]
        rfl
  | erased id₀ huploads hdocs =>
    have hold : ∀ u ∈ file'.uploads, ∃ u₀ ∈ file.uploads, u.fingerprint = u₀.fingerprint ∧
        ∀ id, u.documentId = some id → u₀.documentId = some id ∧ id ≠ id₀ := by
      intro u hu
      obtain ⟨u₀, hu₀, rfl⟩ := List.mem_map.1 (huploads ▸ hu)
      refine ⟨u₀, hu₀, by split <;> rfl, fun id hid => ?_⟩
      split at hid
      · cases hid
      · rename_i hne
        exact ⟨hid, fun heq => hne (heq ▸ hid)⟩
    refine ⟨fun u hu id hid => ?_, fun u hu => ?_⟩
    · obtain ⟨u₀, hu₀, _, hids⟩ := hold u hu
      obtain ⟨hid₀, hne⟩ := hids id hid
      obtain ⟨d, hd, heq⟩ := hI.document u₀ hu₀ id hid₀
      exact ⟨d, by rw [hdocs, List.mem_filter]; exact ⟨hd, by simpa [heq] using hne⟩, heq⟩
    · obtain ⟨u₀, hu₀, hfp, _⟩ := hold u hu
      rw [hfp]
      exact hI.fits u₀ hu₀

/-! ## Runs -/

variable {w₀ w w' : PortalWorld} {userId : UserId} {form : UploadForm} {upload : Upload}

theorem Run.commit_upload (h : Run cfg w₀ w) {sid : Nat} {s : Session View Failure Response Request} {a : Response}
    (hc : Commits (portal cfg) w sid s a) (hr : s.request = .uploadDocument userId f key form upload) :
    upload.Fits cfg ∧ UploadEnd w.db s.trace userId f key form upload a := by
  have hprogram : (portal cfg).program s.request = uploadDocument cfg userId f key form upload := by rw [hr]; rfl
  exact uploadDocument_meets _ _ (hprogram ▸ hc.ends) (h.guarded.current _ _ hc.found hc.running)

theorem Run.uploads_sound (h : Run cfg w₀ w) : ∀ f file, w.db (.envelope f) = some file → UploadsSound cfg file := by
  refine Run.file_invariant (I := fun _ file => UploadsSound cfg file) ?_ ?_ h
  · intro w sid s a f userId data key file' _ _ hnew
    rw [hnew.file_eq]
    exact ⟨by simp, by simp⟩
  · intro w sid s a f file file' hrun hc _ hI hstep
    exact hstep.upload.sound (fun userId key form upload hr => (hrun.commit_upload hc hr).1) hI

/-- **The record of a key keeps its payload, and its document until that is erased.** -/
theorem Run.uploaded_kept (h : Run cfg w₀ w) (hs : Steps (portal cfg) w w') {fingerprint : Digest UploadFields}
    {id : Option DocumentId} (hfile : w.db (.envelope f) = some file) (hI : UploadedAs file key fingerprint id) :
    ∃ file', w'.db (.envelope f) = some file' ∧ UploadedAs file' key fingerprint id :=
  h.file_since hfile hI (fun _ _ _ _ _ _ _ _ _ _ hI hstep => hstep.upload.uploadedAs hI) hs

theorem Run.uploaded_same (h : Run cfg w₀ w) (h' : Run cfg w₀ w') (hs : Steps (portal cfg) w w' ∨
    Steps (portal cfg) w' w)
    {fingerprint fingerprint' : Digest UploadFields} {id id' : DocumentId} (hfile : w.db (.envelope f) = some file)
    (hfile' : w'.db (.envelope f) = some file') (hI : Uploaded file key fingerprint id)
    (hI' : Uploaded file' key fingerprint' id') : fingerprint = fingerprint' ∧ id = id' := by
  rcases hs with hs | hs
  · obtain ⟨later, hlater, hkept⟩ := h.uploaded_kept hs hfile hI.as
    cases hfile'.symm.trans hlater
    obtain ⟨hfp, hid⟩ := hI'.unique hkept
    exact ⟨hfp.symm, hid.symm⟩
  · obtain ⟨later, hlater, hkept⟩ := h'.uploaded_kept hs hfile' hI'.as
    cases hfile.symm.trans hlater
    exact hI.unique hkept

/-! ## Answers and refusals -/

/-- The document of the key is in the filing and was not removed. -/
def Standing (db : Store) (f : FilingId) (key : Uuid) : Prop :=
  ∃ file u d, db (.envelope f) = some file ∧ file.uploadRequest key = some u ∧ u.documentId = some d.id ∧
    d ∈ file.documents ∧ d.removedAt = none

theorem Uploadable.uploaded {doc : FilingDocument} {request : UploadRequest}
    (h : Uploadable tr file userId key form upload doc request) (huploads : file'.uploads = file.uploads ++ [request]) :
    Uploaded file' key (form.payload upload) doc.id := by
  refine ⟨request, ?_, ?_, by rw [h.recorded]⟩
  · rw [FilingFile.uploadRequest, huploads, List.find?_append, show file.uploads.find? _ = none from h.unrecorded]
    simp [h.recorded]
  · rw [h.recorded, h.stored.1, h.stored.2]
    rfl

/-- **A step of an upload leaves every row as it is, or adds the one document of a key that was not recorded.** -/
theorem Run.upload_once (h : Run cfg w₀ w) (hs : Step (portal cfg) w w') {sid : Nat}
    {s : Session View Failure Response Request} (hs' : w'.sessions sid = some s)
    (hmoved : w'.sessions sid ≠ w.sessions sid) (hr : s.request = .uploadDocument userId f key form upload) :
    (∀ g, isRow g = true → w'.db g = w.db g) ∨ ∃ file file' doc, w.db (.envelope f) = some file ∧
      file.uploadRequest key = none ∧ w'.db (.envelope f) = some file' ∧
      Uploaded file' key (form.payload upload) doc.id ∧ file'.documents = file.documents ++ [doc] ∧
      file'.filing.feeVersion = file.filing.feeVersion + 1 := by
  rcases Run.step_cases hs with hrows | ⟨sid', s₀, a, hc, rfl⟩
  · exact .inl hrows
  rcases World.put_sessions.1 hs' with ⟨rfl, rfl⟩ | ⟨hne, hold⟩
  · obtain ⟨_, hend⟩ := h.commit_upload hc hr
    cases hend with
    | replayed rows later recorded doc hrows hrecorded hfingerprint hid hlater hdoc hcurrent hquiet =>
      exact .inl fun g _ => congrFun (hquiet.commit w.db) g
    | recorded file file' doc request hlock hdb hupload hfile' hwrites hsaved =>
      exact .inr ⟨file, file', doc, hdb, hupload.unrecorded, (hwrites.wrote hsaved w.db).2,
        hupload.uploaded (by rw [hfile']), by rw [hfile'], by rw [hfile']⟩
  · exact absurd (hs'.trans hold.symm) hmoved

/-- **An upload that was answered, was answered by the record of its key,** at its commit or before. -/
theorem Run.upload_answered (h : Run cfg w₀ w) (hs : Steps (portal cfg) w w') {sid : Nat}
    {s : Session View Failure Response Request} {a : Response} (hs' : w'.sessions sid = some s)
    (hr : s.request = .uploadDocument userId f key form upload) (ha : s.status = .committed a) :
    ∃ w₁ file response, Run cfg w₀ w₁ ∧ (Steps (portal cfg) w₁ w ∨ Steps (portal cfg) w w₁) ∧ Steps (portal cfg) w₁ w' ∧
      w₁.db (.envelope f) = some file ∧ Uploaded file key (form.payload upload) response.id ∧
      a = .document response := by
  obtain ⟨w₁, s₁, h₁, hc, hreq, htr, hlater, hside⟩ := h.steps.committed_either hs (h.start.idle sid) hs' ha
  have hrun₁ : Run cfg w₀ w₁ := ⟨h.start, h₁⟩
  obtain ⟨_, hend⟩ := hrun₁.commit_upload hc (hreq.trans hr)
  cases hend with
  | replayed rows later recorded doc hrows hrecorded hfingerprint hid hdoc hmem hcurrent hquiet =>
    have hread : ∃ w₂, w₂.db (.envelope f) = some rows ∧
        ((Steps (portal cfg) w₀ w₂ ∧ Steps (portal cfg) w₂ w) ∨ (Steps (portal cfg) w w₂ ∧
        Steps (portal cfg) w₂ w')) := by
      rcases hrows with hlook | hlock
      · obtain ⟨w₂, ha₂, hside₂⟩ := h.steps.admitted_either hs (h.start.idle sid) hs' (htr ▸ hlook)
        exact ⟨w₂, (show some rows = w₂.db (.envelope f) from ha₂).symm, hside₂⟩
      · obtain ⟨w₂, ha₂, hside₂⟩ := h.steps.admitted_either hs (h.start.idle sid) hs' (htr ▸ hlock)
        exact ⟨w₂, ha₂.2.1.symm, hside₂⟩
    obtain ⟨w₂, hrows₂, hside₂⟩ := hread
    have huploaded : Uploaded rows key (form.payload upload) doc.response.id := ⟨recorded, hrecorded, hfingerprint, hid⟩
    rcases hside₂ with ⟨h₀₂, h₂⟩ | ⟨h₂, h₂'⟩
    · exact ⟨w₂, rows, doc.response, ⟨h.start, h₀₂⟩, .inl h₂, h₂.trans hs, hrows₂, huploaded, rfl⟩
    · exact ⟨w₂, rows, doc.response, h.trans h₂, .inr h₂, h₂', hrows₂, huploaded, rfl⟩
  | recorded file file' doc request hlock hdb hupload hfile' hwrites hsaved =>
    exact ⟨_, file', doc.response, hrun₁.tail (.commit sid s₁ _ hc), hside, hlater, (hwrites.wrote hsaved w₁.db).2,
      hupload.uploaded (by rw [hfile']), rfl⟩

theorem Run.upload_agree (h : Run cfg w₀ w) {sid₁ sid₂ : Nat} {s₁ s₂ : Session View Failure Response Request}
    {a₁ a₂ : Response} {user₁ user₂ : UserId} {form₁ form₂ : UploadForm} {upload₁ upload₂ : Upload}
    (hs₁ : w.sessions sid₁ = some s₁) (hs₂ : w.sessions sid₂ = some s₂)
    (hr₁ : s₁.request = .uploadDocument user₁ f key form₁ upload₁)
    (hr₂ : s₂.request = .uploadDocument user₂ f key form₂ upload₂)
    (ha₁ : s₁.status = .committed a₁) (ha₂ : s₂.status = .committed a₂) :
    form₁.payload upload₁ = form₂.payload upload₂ ∧
      ∃ response₁ response₂, a₁ = .document response₁ ∧ a₂ = .document response₂ ∧ response₁.id = response₂.id := by
  obtain ⟨w₁, file₁, response₁, hrun₁, _, hw₁, hfile₁, huploaded₁, rfl⟩ := h.upload_answered .refl hs₁ hr₁ ha₁
  obtain ⟨w₂, file₂, response₂, hrun₂, hside, _, hfile₂, huploaded₂, rfl⟩ := hrun₁.upload_answered hw₁ hs₂ hr₂ ha₂
  obtain ⟨hpayload, hid⟩ := hrun₁.uploaded_same hrun₂ hside.symm hfile₁ hfile₂ huploaded₁ huploaded₂
  exact ⟨hpayload, response₁, response₂, rfl, rfl, hid⟩

/-- The account may file in every world between two. -/
def MayFileFrom (cfg : Settings) (userId : UserId) (w w' : PortalWorld) : Prop :=
  ∀ w₁, Steps (portal cfg) w w₁ → Steps (portal cfg) w₁ w' → ∃ account, ActiveFiler w₁.db userId account

theorem MayFileFrom.reads {w₁ : PortalWorld} (h : MayFileFrom cfg userId w w') (hs₁ : Steps (portal cfg) w w₁)
    (hs₁' : Steps (portal cfg) w₁ w') (g : Row) : MayFile userId g (w₁.db g) := by
  cases g with
  | user id =>
    rintro rfl
    obtain ⟨account, hactive⟩ := h w₁ hs₁ hs₁'
    exact ⟨account, hactive.stored, hactive.active, hactive.notPublic⟩
  | _ => trivial

/-- **What is refused with its key recorded, before it or since, is refused with 409,** or for the size of its file. -/
theorem Run.upload_refused (h : Run cfg w₀ w) (hs : Steps (portal cfg) w w') {sid : Nat}
    {s : Session View Failure Response Request} {x : Failure} (hfile : w.db (.envelope f) = some file)
    (hfiler : file.filing.filerId = userId) (hnew : w.sessions sid = none) (hs' : w'.sessions sid = some s)
    (hr : s.request = .uploadDocument userId f key form upload) (haccount : MayFileFrom cfg userId w w')
    (hx : s.status = .failed x) (hsaw : (file.uploadRequest key).isSome = true ∨ SawUpload f key s.trace) :
    x.httpStatus = 409 ∨ OversizeRefusal cfg upload x := by
  have hprogram : (portal cfg).program s.request = uploadDocument cfg userId f key form upload := by rw [hr]; rfl
  have hrefused : (uploadDocument cfg userId f key form upload).Yields
      (UploadRead ((file.uploadRequest key).isSome = true) userId f key) _ [] _ := uploadDocument_refused
  rw [← hprogram] at hrefused
  refine (hs.yielded (h.trans hs).guarded hnew hs' (fun w₁ tr e hs₁ hs₁' hsince ha => ?_) hrefused).1 x hx hsaw
  have hfile₁ : ∃ file₁, w₁.db (.envelope f) = some file₁ ∧ file₁.filing.filerId = userId := by
    obtain ⟨file₁, hfile₁, hgrew⟩ := h.grew hs₁ hfile
    exact ⟨file₁, hfile₁, hgrew.fixed.filerId.trans hfiler⟩
  have hstays : (file.uploadRequest key).isSome = true ∨ SawUpload f key tr →
      ∃ file₁, w₁.db (.envelope f) = some file₁ ∧ (file₁.uploadRequest key).isSome = true := by
    have hkept : ∀ {w₂ : PortalWorld} {rows : FilingFile} {u : UploadRequest}, Steps (portal cfg) w w₂ →
        Steps (portal cfg) w₂ w₁ → w₂.db (.envelope f) = some rows → rows.uploadRequest key = some u →
        ∃ file₁, w₁.db (.envelope f) = some file₁ ∧ (file₁.uploadRequest key).isSome = true := by
      intro w₂ rows u hs₂ hs₂₁ hrows hu
      obtain ⟨file₁, hfile₁, u', hu', _⟩ := (h.trans hs₂).uploaded_kept hs₂₁ hrows ⟨u, hu, rfl, .inl rfl⟩
      exact ⟨file₁, hfile₁, by rw [hu']; rfl⟩
    rintro (hsome | ⟨rows, u, hread, hu⟩)
    · obtain ⟨u, hu⟩ := Option.isSome_iff_exists.1 hsome
      exact hkept .refl hs₁ hfile hu
    · rcases hread with hlook | hlock
      · obtain ⟨w₂, hs₂, hs₂₁, ha₂⟩ := hsince _ hlook
        exact hkept hs₂ hs₂₁ (show some rows = w₂.db (.envelope f) from ha₂).symm hu
      · obtain ⟨w₂, hs₂, hs₂₁, ha₂⟩ := hsince _ hlock
        exact hkept hs₂ hs₂₁ ha₂.2.1.symm hu
  refine ⟨ha.reads (haccount.reads hs₁ hs₁'), ha.reads fun g => ?_, fun hk => ha.reads fun g => ?_⟩
  · cases g with
    | envelope g =>
      rintro rfl
      exact hfile₁
    | _ => trivial
  · cases g with
    | envelope g =>
      rintro rfl
      exact hstays hk
    | _ => trivial

/-- **An upload that comes when its key is recorded stores nothing and changes nothing.** It is answered by the document
of the key, and only if that stood when it came and the payload is the same; and with that payload it is answered, as
long as the document stands. -/
theorem Run.upload_late (h : Run cfg w₀ w) (hs : Steps (portal cfg) w w') {sid : Nat}
    {s : Session View Failure Response Request} {u : UploadRequest} (hfile : w.db (.envelope f) = some file)
    (hfiler : file.filing.filerId = userId) (hu : file.uploadRequest key = some u) (hnew : w.sessions sid = none)
    (hs' : w'.sessions sid = some s) (hr : s.request = .uploadDocument userId f key form upload)
    (haccount : MayFileFrom cfg userId w w') :
    (∀ x, s.status = .failed x → Passive s.trace ∧ (u.fingerprint = form.payload upload → x.httpStatus = 409) ∧
      ¬ (u.fingerprint = form.payload upload ∧
        ∀ w₁, Steps (portal cfg) w w₁ → Steps (portal cfg) w₁ w' → Standing w₁.db f key)) ∧
    ∀ a, s.status = .committed a → Passive s.trace ∧ Quiet s.trace ∧ Standing w.db f key ∧
      u.fingerprint = form.payload upload ∧ ∃ response, a = .document response ∧ u.documentId = some response.id := by
  have hprogram : (portal cfg).program s.request = uploadDocument cfg userId f key form upload := by rw [hr]; rfl
  have hsound := h.uploads_sound f file hfile
  have hmem : u ∈ file.uploads := List.mem_of_find?_eq_some hu
  have hlate : (uploadDocument cfg userId f key form upload).Yields (fun _ e => e.Reads (MayFile userId) ∧
      e.Reads (Holding f (UploadHeld userId key u.fingerprint u.documentId
        (∀ w₁, Steps (portal cfg) w w₁ → Steps (portal cfg) w₁ w' → Standing w₁.db f key) (¬ Standing w.db f key))))
      _ [] _ := uploadDocument_late
  rw [← hprogram] at hlate
  have hended := hs.yielded (h.trans hs).guarded hnew hs' (fun w₁ tr e hs₁ hs₁' hsince ha => ?_) hlate
  · refine ⟨fun x hx => ?_, fun a ha => ?_⟩
    · obtain ⟨hpassive, hnot⟩ := hended.1 x hx
      have hsmall : u.fingerprint = form.payload upload → upload.Fits cfg := fun hpayload => by
        obtain ⟨form₀, upload₀, hpayload₀, hfits⟩ := hsound.fits u hmem
        have hcontent := UploadForm.payload_content (hpayload₀.symm.trans hpayload)
        exact ⟨hcontent ▸ hfits.small, hcontent ▸ hfits.nonempty⟩
      refine ⟨hpassive, fun hpayload => ?_, fun ⟨hpayload, hstands⟩ => hnot ⟨hstands, hsmall hpayload, hpayload⟩⟩
      have hrefused := h.upload_refused hs hfile hfiler hnew hs' hr haccount hx (.inl (by rw [hu]; rfl))
      exact hrefused.resolve_right fun hoversize => hoversize.1 (hsmall hpayload)
    · obtain ⟨hpassive, hstood, hpayload, hresponse⟩ := hended.2 a ha
      refine ⟨hpassive, ?_, not_not.1 hstood, hpayload, hresponse⟩
      obtain ⟨w₁, s₁, hs₁, hc, _, hreq, htr⟩ := hs.committed_at hnew hs' ha
      obtain ⟨file₁, hfile₁, u₁, hu₁, _⟩ := h.uploaded_kept hs₁ hfile ⟨u, hu, rfl, .inl rfl⟩
      cases ((h.trans hs₁).commit_upload hc (hreq.trans hr)).2 with
      | replayed rows later recorded doc hrows hrecorded hfingerprint hid hlater hdoc hcurrent hquiet =>
          exact htr ▸ hquiet
      | recorded file₂ file' doc request hlock hdb hupload hfile' hwrites hsaved =>
        cases hfile₁.symm.trans hdb
        exact absurd (hu₁.symm.trans hupload.unrecorded) (by simp)
  · refine ⟨ha.reads (haccount.reads hs₁ hs₁'), ha.reads fun g => ?_⟩
    cases g with
    | envelope g =>
      rintro rfl
      obtain ⟨file₁, hfile₁, u₁, hu₁, hfp₁, hid₁⟩ := h.uploaded_kept hs₁ hfile ⟨u, hu, rfl, .inl rfl⟩
      have hgrew := h.grew_to hs₁ hfile hfile₁
      have hstands : Standing w₁.db g key →
          ∃ d ∈ file₁.documents, u₁.documentId = some d.id ∧ d.removedAt = none := by
        rintro ⟨file₂, u₂, d, hfile₂, hu₂, hid₂, hd, hcurrent⟩
        cases hfile₁.symm.trans hfile₂
        cases hu₁.symm.trans hu₂
        exact ⟨d, hd, hid₂, hcurrent⟩
      refine ⟨file₁, hfile₁, hgrew.fixed.filerId.trans hfiler, ⟨u₁, hu₁, hfp₁, ?_⟩, fun hpresent => ?_, ?_⟩
      · refine hid₁.imp id fun hnone => ⟨hnone, fun hpresent => ?_⟩
        obtain ⟨d, _, hid, _⟩ := hstands (hpresent w₁ hs₁ hs₁')
        exact absurd (hnone.symm.trans hid) (by simp)
      · obtain ⟨d, hd, hid, hcurrent⟩ := hstands (hpresent w₁ hs₁ hs₁')
        refine ⟨d, hd, ?_, hcurrent⟩
        rcases hid₁ with heq | hnone
        · exact heq.symm.trans hid
        · exact absurd (hnone.symm.trans hid) (by simp)
      · rintro hgone d₁ hd₁ hid hcurrent
        obtain ⟨d, hd, hdid⟩ := hsound.document u hmem d₁.id hid
        have hgrows := hgrew.documents d hd d₁ hd₁ hdid.symm
        refine hgone ⟨file, u, d, hfile, hu, by rw [hid, hdid], hd, ?_⟩
        by_contra hremoved
        have hlater := hgrows.removed (Option.isSome_iff_ne_none.2 hremoved)
        simp [hcurrent] at hlater
    | _ => trivial

/-- **An upload that ends leaves no object behind,** unless it adds its document. -/
theorem Run.upload_cleaned (h : Run cfg w₀ w) {sid : Nat} {s : Session View Failure Response Request}
    (hs : w.sessions sid = some s) (hr : s.request = .uploadDocument userId f key form upload) :
    (∀ x, s.status = .failed x → Cleaned s.trace) ∧
      ∀ a, s.status = .committed a → Quiet s.trace → Cleaned s.trace := by
  have hprogram : (portal cfg).program s.request = uploadDocument cfg userId f key form upload := by rw [hr]; rfl
  have hcleans : (uploadDocument cfg userId f key form upload).Yields (fun _ _ => True) _ [] _ := uploadDocument_cleans
  rw [← hprogram] at hcleans
  have hended := h.steps.yielded h.guarded (h.start.idle sid) hs (fun _ _ _ _ _ _ _ => trivial) hcleans
  refine ⟨hended.1, fun a ha hquiet => (hended.2 a ha).resolve_right ?_⟩
  rintro ⟨file', hsaved⟩
  exact hquiet.wrote hsaved w.db

/-! ## The law -/

/-- What the uploads with one key of one filing come to. -/
structure UploadedOnce (cfg : Settings) (w : PortalWorld) (f : FilingId) (key : Uuid) : Prop where
  once : ∀ w' sid s userId form upload, Step (portal cfg) w w' → w'.sessions sid = some s →
    w'.sessions sid ≠ w.sessions sid → s.request = .uploadDocument userId f key form upload →
    (∀ g, isRow g = true → w'.db g = w.db g) ∨ ∃ file file' doc, w.db (.envelope f) = some file ∧
      file.uploadRequest key = none ∧ w'.db (.envelope f) = some file' ∧
      Uploaded file' key (form.payload upload) doc.id ∧ file'.documents = file.documents ++ [doc] ∧
      file'.filing.feeVersion = file.filing.feeVersion + 1
  kept : ∀ w' file u, Steps (portal cfg) w w' → w.db (.envelope f) = some file → file.uploadRequest key = some u →
    ∃ file' u', w'.db (.envelope f) = some file' ∧ file'.uploadRequest key = some u' ∧
      u'.fingerprint = u.fingerprint ∧ (u'.documentId = u.documentId ∨ u'.documentId = none)
  agree : ∀ sid₁ sid₂ s₁ s₂ a₁ a₂ user₁ user₂ form₁ form₂ upload₁ upload₂, w.sessions sid₁ = some s₁ →
    w.sessions sid₂ = some s₂ → s₁.request = .uploadDocument user₁ f key form₁ upload₁ →
    s₂.request = .uploadDocument user₂ f key form₂ upload₂ → s₁.status = .committed a₁ → s₂.status = .committed a₂ →
    form₁.payload upload₁ = form₂.payload upload₂ ∧
      ∃ response₁ response₂, a₁ = .document response₁ ∧ a₂ = .document response₂ ∧ response₁.id = response₂.id
  recorded : ∀ sid s a userId form upload, w.sessions sid = some s →
    s.request = .uploadDocument userId f key form upload → s.status = .committed a →
    ∃ file response, w.db (.envelope f) = some file ∧
      UploadedAs file key (form.payload upload) (some response.id) ∧ a = .document response
  refused : ∀ w' sid s userId form upload file x, Steps (portal cfg) w w' → w.db (.envelope f) = some file →
    file.filing.filerId = userId → w.sessions sid = none → w'.sessions sid = some s →
    s.request = .uploadDocument userId f key form upload → MayFileFrom cfg userId w w' → s.status = .failed x →
    (file.uploadRequest key).isSome = true ∨ SawUpload f key s.trace → x.httpStatus = 409 ∨ OversizeRefusal cfg upload x
  late : ∀ w' sid s userId form upload file u, Steps (portal cfg) w w' → w.db (.envelope f) = some file →
    file.filing.filerId = userId → file.uploadRequest key = some u → w.sessions sid = none →
    w'.sessions sid = some s → s.request = .uploadDocument userId f key form upload → MayFileFrom cfg userId w w' →
    (∀ x, s.status = .failed x → Passive s.trace ∧ (u.fingerprint = form.payload upload → x.httpStatus = 409) ∧
      ¬ (u.fingerprint = form.payload upload ∧
        ∀ w₁, Steps (portal cfg) w w₁ → Steps (portal cfg) w₁ w' → Standing w₁.db f key)) ∧
    ∀ a, s.status = .committed a → Passive s.trace ∧ Quiet s.trace ∧ Standing w.db f key ∧
      u.fingerprint = form.payload upload ∧ ∃ response, a = .document response ∧ u.documentId = some response.id
  cleaned : ∀ sid s userId form upload, w.sessions sid = some s → s.request = .uploadDocument userId f key form upload →
    (∀ x, s.status = .failed x → Cleaned s.trace) ∧ ∀ a, s.status = .committed a → Quiet s.trace → Cleaned s.trace

/-- **One document for each upload key.** Whatever runs beside them, the uploads with one key of a filing add one
document at most; those that are answered carried one payload and name one document; with another payload, or once the
document is gone, they are refused with 409, unless their file is too large; those that come late change nothing, and
are answered as long as the document stands; and what they stored in vain is deleted. -/
theorem Run.uploaded_once (h : Run cfg w₀ w) (f : FilingId) (key : Uuid) : UploadedOnce cfg w f key where
  once _ _ _ _ _ _ hs hs' hmoved hr := h.upload_once hs hs' hmoved hr
  kept _ _ u hs hfile hu := by
    obtain ⟨file', hfile', u', hu', hkept⟩ := h.uploaded_kept hs hfile ⟨u, hu, rfl, .inl rfl⟩
    exact ⟨file', u', hfile', hu', hkept⟩
  agree _ _ _ _ _ _ _ _ _ _ _ _ hs₁ hs₂ hr₁ hr₂ ha₁ ha₂ := h.upload_agree hs₁ hs₂ hr₁ hr₂ ha₁ ha₂
  recorded _ _ _ _ _ _ hs hr ha := by
    obtain ⟨w₁, file₁, response, hrun₁, _, hw₁, hfile₁, huploaded, ha⟩ := h.upload_answered .refl hs hr ha
    obtain ⟨file, hfile, hkept⟩ := hrun₁.uploaded_kept hw₁ hfile₁ huploaded.as
    exact ⟨file, response, hfile, hkept, ha⟩
  refused _ _ _ _ _ _ _ _ hs hfile hfiler hnew hs' hr haccount hx hsaw :=
    h.upload_refused hs hfile hfiler hnew hs' hr haccount hx hsaw
  late _ _ _ _ _ _ _ _ hs hfile hfiler hu hnew hs' hr haccount :=
    h.upload_late hs hfile hfiler hu hnew hs' hr haccount
  cleaned _ _ _ _ _ hs hr := h.upload_cleaned hs hr

/-- The portal after an upload, its replay, and the key sent with another title. -/
def uploadedWorld : PortalWorld :=
  smallWorld.serveAll (portal .demo) 0 [
    (1000, .createFiling 1 smallDraft 7),
    (2000, .uploadDocument 1 10 8 ⟨"COMPLAINT", "Complaint", false⟩ smallUpload),
    (3000, .uploadDocument 1 10 8 ⟨"COMPLAINT", "Complaint", false⟩ smallUpload),
    (4000, .uploadDocument 1 10 8 ⟨"COMPLAINT", "Petition", false⟩ smallUpload)]

theorem uploadedWorld_run : Run .demo smallWorld uploadedWorld := Run.serveAll smallWorld_initial (by decide +kernel)

/-- The replay was answered with the document of the key, and the other payload with 409. -/
theorem Run.uploaded_once_uploaded : UploadedOnce .demo uploadedWorld 10 8 ∧
    ((uploadedWorld.sessions 2).any fun s => match s.status with
      | .committed (.document response) => (uploadedWorld.db (.envelope 10)).any fun file =>
        (file.uploadRequest 8).any fun u => u.documentId == some response.id
      | _ => false) = true ∧
    ((uploadedWorld.sessions 3).any fun s => match s.status with
      | .failed x => x.httpStatus == 409
      | _ => false) = true :=
  ⟨Run.uploaded_once uploadedWorld_run 10 8, by decide +kernel, by decide +kernel⟩

def emptiedWorld : PortalWorld :=
  uploadedWorld.serveAll (portal .demo) 4
    [(5000, .uploadDocument 1 10 8 ⟨"COMPLAINT", "Complaint", false⟩ { smallUpload with content := [] })]

theorem emptiedWorld_steps : Steps (portal .demo) uploadedWorld emptiedWorld :=
  World.serveAll_steps (World.serveAll_calm smallWorld_initial.idle.calm) (by decide +kernel)

/-- A recorded key with another payload is not always refused with 409: the file may be empty. -/
theorem upload_empty : ¬ ∀ (w₀ w w' : PortalWorld) (userId : UserId) (f : FilingId) (file : FilingFile) (key : Uuid)
    (form : UploadForm) (upload : Upload) (u : UploadRequest) (sid : Nat) (s : Session View Failure Response Request),
    Run .demo w₀ w → Steps (portal .demo) w w' → w.db (.envelope f) = some file → file.filing.filerId = userId →
    file.uploadRequest key = some u → u.fingerprint ≠ form.payload upload → w.sessions sid = none →
    w'.sessions sid = some s → s.request = .uploadDocument userId f key form upload →
    ∀ x, s.status = .failed x → x.httpStatus = 409 := by
  intro hall
  have hrecorded : (uploadedWorld.db (.envelope 10)).any (fun file => file.filing.filerId == 1 &&
      (file.uploadRequest 8).any fun u => u.fingerprint !=
        UploadForm.payload ⟨"COMPLAINT", "Complaint", false⟩ { smallUpload with content := [] }) = true := by
    decide +kernel
  obtain ⟨file, hfile, hfields⟩ := (Option.any_eq_true _ _).1 hrecorded
  rw [Bool.and_eq_true, beq_iff_eq] at hfields
  obtain ⟨u, hu, hpayload⟩ := (Option.any_eq_true _ _).1 hfields.2
  have hfailed : (emptiedWorld.sessions 4).any (fun s => match s.status with
      | .failed x => x.httpStatus == 422
      | _ => false) = true := by decide +kernel
  obtain ⟨s, hs, hstatus⟩ := (Option.any_eq_true _ _).1 hfailed
  have hreq : s.request = .uploadDocument 1 10 8 ⟨"COMPLAINT", "Complaint", false⟩
    { smallUpload with content := [] } := by
    have hsession : (emptiedWorld.sessions 4).map Session.request =
        some (.uploadDocument 1 10 8 ⟨"COMPLAINT", "Complaint", false⟩ { smallUpload with content := [] }) := rfl
    rw [hs] at hsession
    exact Option.some.inj hsession
  have hnone : uploadedWorld.sessions 4 = none := rfl
  cases hx : s.status with
  | failed x =>
    have h409 := hall smallWorld uploadedWorld emptiedWorld 1 10 file 8 _ _ u 4 s uploadedWorld_run emptiedWorld_steps
      hfile hfields.1 hu (bne_iff_ne.1 hpayload) hnone hs hreq x hx
    rw [hx, beq_iff_eq] at hstatus
    omega
  | _ => simp [hx] at hstatus

end Muefs
