import Muefs.Laws.Cases
import Muefs.Laws.Retention
import Muefs.Portal.Reading

/-!
# Published copies

* `AccessChange`, `FileStep.access` : what a step does to the access of the documents;
* `PointerSound`, `Run.pointers` : a document that has a public copy was published and is still fit for it;
* `Run.confidential_kept`, `Run.access_step`, `Run.access_stale` : restrictions stay, and versions count the decisions;
* `Run.copy_found`, `Run.copy_readable` : the copies that users can read;
* `Run.publication_sound` : the law.
-/

namespace Muefs
open RowLocks

variable {cfg : Settings} {r : Request} {db db' : Store} {tr : Trace} {f : FilingId} {file file' : FilingFile}
  {w₀ w w' : PortalWorld}

/-! ## Access of documents -/

/-- Everything that a decision on access changes, and the type, are the same. -/
structure FilingDocument.SameAccess (d d' : FilingDocument) : Prop where
  id : d'.id = d.id
  documentTypeCode : d'.documentTypeCode = d.documentTypeCode
  isConfidential : d'.isConfidential = d.isConfidential
  accessVersion : d'.accessVersion = d.accessVersion
  publicCopyId : d'.publicCopyId = d.publicCopyId

theorem FilingDocument.SameAccess.refl (d : FilingDocument) : d.SameAccess d := ⟨rfl, rfl, rfl, rfl, rfl⟩

/-- A request that decides on the access of a document, and the public copy it leaves. -/
inductive Request.Decides : Request → DocumentId → Option CopyId → PublicationRequest → Prop where
  | publish (userId : UserId) (documentId : DocumentId) (copyId : CopyId) (data : PublicationRequest) :
      Decides (.publishCopy userId documentId copyId data) documentId (some copyId) data
  | withhold (userId : UserId) (documentId : DocumentId) (data : PublicationRequest) :
      Decides (.withholdDocument userId documentId data) documentId none data

/-- A publication on record. -/
structure FilingTransaction.Publishes (t : FilingTransaction) (documentId : DocumentId) (copyId : CopyId) : Prop where
  event : t.eventType = .publicCopyPublished
  document : t.details.documentId = some documentId
  copy : ∃ c, t.details.publicCopy = some c ∧ c.id = copyId

/-- The documents kept their access, and only drafts lost some; or they are new. -/
def KeepsAccess (tr : Trace) (file : FilingFile) (ds' : List FilingDocument) : Prop :=
  ∀ d' ∈ ds', (∃ d ∈ file.documents, d.SameAccess d' ∧
    (d'.removedAt = d.removedAt ∨ file.filing.status.isOpen = true)) ∨ (DrewDocument tr d' ∧ d'.publicCopyId = none)

/-- What a step does to the access of the documents. -/
inductive AccessChange (r : Request) (tr : Trace) (file file' : FilingFile) : Prop where
  | kept (hdocs : KeepsAccess tr file file'.documents)
  | decided (documentId : DocumentId) (pointer : Option CopyId) (data : PublicationRequest) (doc : FilingDocument)
      (hr : r.Decides documentId pointer data) (hdoc : file.document documentId = some doc)
      (hversion : doc.accessVersion = data.expectedVersion)
      (hdocs : file'.documents = (file.setAccess documentId pointer (data.expectedVersion + 1)).documents)
      (hpublished : ∀ c, pointer = some c → publicationBlock doc file.filing = none ∧
        ∃ t ∈ file'.transactions, t.Publishes documentId c)

theorem KeepsAccess.of_mem {ds' : List FilingDocument} (h : ∀ d' ∈ ds', d' ∈ file.documents) :
    KeepsAccess tr file ds' :=
  fun d' hd' => .inl ⟨d', h d' hd', .refl d', .inl rfl⟩

theorem KeepsAccess.map {step : FilingDocument → FilingDocument} (h : ∀ d, FilingDocument.SameAccess d (step d))
    (hremoved : ∀ d, (step d).removedAt = d.removedAt ∨ file.filing.status.isOpen = true) :
    KeepsAccess tr file (file.documents.map step) := by
  intro d' hd'
  obtain ⟨d, hd, rfl⟩ := List.mem_map.1 hd'
  exact .inl ⟨d, hd, h d, hremoved d⟩

theorem KeepsAccess.concat {doc : FilingDocument} (h : NewDocument tr doc) :
    KeepsAccess tr file (file.documents ++ [doc]) := by
  intro d' hd'
  rcases List.mem_append.1 hd' with hd' | hd'
  · exact .inl ⟨d', hd', .refl d', .inl rfl⟩
  · cases List.mem_singleton.1 hd'
    exact .inr ⟨⟨h.id_new, h.key_new⟩, h.unpublished⟩

theorem FilingDocument.retain_access (time : Instant) (d : FilingDocument) :
    d.SameAccess (d.retain time) ∧ (d.retain time).removedAt = d.removedAt := by
  unfold FilingDocument.retain
  split <;> exact ⟨⟨rfl, rfl, rfl, rfl, rfl⟩, rfl⟩

theorem KeepsAccess.retain (time : Instant) :
    KeepsAccess tr file (file.documents.map (FilingDocument.retain time)) :=
  .map (fun d => (d.retain_access time).1) fun d => .inl (d.retain_access time).2

theorem KeepsAccess.trans_retain {ds' : List FilingDocument} (h : KeepsAccess tr file ds') (time : Instant) :
    KeepsAccess tr file (ds'.map (FilingDocument.retain time)) := by
  intro d' hd'
  obtain ⟨d₁, hd₁, rfl⟩ := List.mem_map.1 hd'
  obtain ⟨hsame, hremoved⟩ := d₁.retain_access time
  rcases h d₁ hd₁ with ⟨d, hd, hsame₁, hremoved₁⟩ | ⟨hdrew, hnone⟩
  · refine .inl ⟨d, hd, ⟨hsame.id.trans hsame₁.id, hsame.documentTypeCode.trans hsame₁.documentTypeCode,
      hsame.isConfidential.trans hsame₁.isConfidential, hsame.accessVersion.trans hsame₁.accessVersion,
      hsame.publicCopyId.trans hsame₁.publicCopyId⟩, hremoved₁.imp_left hremoved.trans⟩
  · have hkey := (d₁.grows_retain time).fileKey
    exact .inr ⟨⟨hsame.id ▸ hdrew.id, hkey ▸ hdrew.key⟩, hsame.publicCopyId.trans hnone⟩

theorem Recorded.keepsAccess {base : FilingFile} {event : EventType} {actorId : UserId} {key : Option Uuid}
    {details : Details} {t : FilingTransaction} (h : Recorded cfg tr base event actorId key details file' t)
    (hbase : KeepsAccess tr file base.documents) : AccessChange r tr file file' := by
  refine .kept ?_
  rw [h.documents_eq]
  split
  · exact hbase.trans_retain _
  · exact hbase

theorem Dated.documents_same {userId : UserId} {receivedAt : Instant} {ordered : Bool} {dated : FilingFile}
    (h : Dated cfg tr userId receivedAt file ordered dated) : KeepsAccess tr file dated.documents :=
  .of_mem fun d hd => by rwa [h.documents_eq] at hd

/-- **What a step does to the access of the documents.** -/
theorem FileStep.access (h : FileStep cfg r db db' tr f file file') : AccessChange r tr file file' := by
  cases h with
  | edited | copyPrepared => exact .kept (.of_mem fun d hd => hd)
  | uploaded userId key form upload doc request hr h => exact .kept (.concat h.new)
  | retired userId documentId doc time hr h hkeep =>
    refine .kept (.map (fun d => ?_) fun d => .inr h.isOpen)
    split <;> exact ⟨rfl, rfl, rfl, rfl, rfl⟩
  | erased userId documentId doc hr h hkeep => exact .kept (.of_mem fun d hd => List.mem_of_mem_filter hd)
  | feeReviewRequested userId data time t _ hr h hrec => exact hrec.keepsAccess (.retain time)
  | feesAssessed userId data a time t saved hr h hrec =>
    have hdocs := hrec.documents_eq
    rw [if_neg (by simp [EventType.isReceipt])] at hdocs
    refine .kept ?_
    rw [hdocs]
    exact .retain time
  | waiverDecided userId form time doc due t _ hr haction h hrec => exact hrec.keepsAccess (.concat h.new)
  | dateOrdered userId form doc change t _ hr h hrec => exact hrec.keepsAccess (.concat h.new)
  | accepted userId count time receivedAt seen order dated caseId a b t _ hr h hacc hreceived hdated hcase hrec =>
    exact hrec.keepsAccess hdated.documents_same
  | cmsFailed userId count time receivedAt seen order dated error t _ hr h hacc hreceived hdated hrec =>
    exact hrec.keepsAccess hdated.documents_same
  | published userId documentId data doc copy g probe rows t _ hr h hblock hindexed hprobe hrows hcopy hdoc hrec =>
    subst hr
    refine .decided documentId (some copy.id) data doc (.publish userId documentId copy.id data) h.found h.version ?_ ?_
    · rw [hrec.documents_eq, if_neg (by simp [EventType.isReceipt])]
    · rintro _ ⟨⟩
      obtain ⟨why, hwhy⟩ := hrec.kept rfl (by simp)
      refine ⟨hblock, t, by simp [hrec.transactions_eq], hrec.event_eq, by rw [hwhy], copy.response, by rw [hwhy], rfl⟩
  | withheld userId documentId data doc t _ hr h hrec =>
    subst hr
    refine .decided documentId none data doc (.withhold userId documentId data) h.found h.version ?_ (by simp)
    rw [hrec.documents_eq, if_neg (by simp [EventType.isReceipt])]
  | waiverReferred _ _ _ _ _ _ _ _ hrec | paid _ _ _ _ _ _ _ _ _ _ hrec | credited _ _ _ _ _ _ _ _ _ _ _ _ _ _ hrec
  | reversed _ _ _ _ _ _ _ _ _ _ _ hrec | submitted _ _ _ _ _ _ _ _ _ _ _ _ _ hrec
  | declined _ _ _ _ _ _ _ _ _ _ _ _ hrec =>
    exact hrec.keepsAccess (.of_mem fun d hd => hd)

theorem FilingFile.mem_setAccess {id : DocumentId} {pointer : Option CopyId} {version : Nat} {d' : FilingDocument}
    (h : d' ∈ (file.setAccess id pointer version).documents) : ∃ d ∈ file.documents, d'.id = d.id ∧
      ((d.id ≠ id ∧ d' = d) ∨
        (d.id = id ∧ d' = { d with isConfidential := true, publicCopyId := pointer, accessVersion := version })) := by
  obtain ⟨d, hd, rfl⟩ := List.mem_map.1 h
  by_cases hid : d.id = id
  · exact ⟨d, hd, by rw [if_pos hid], .inr ⟨hid, if_pos hid⟩⟩
  · exact ⟨d, hd, by rw [if_neg hid], .inl ⟨hid, if_neg hid⟩⟩

theorem FilingFile.WellFormed.document_unique (h : file.WellFormed f) {d d₁ : FilingDocument} (hd : d ∈ file.documents)
    (hd₁ : d₁ ∈ file.documents) (hid : d.id = d₁.id) : d = d₁ :=
  List.inj_on_of_nodup_map h.documents hd hd₁ hid

/-! ## Pointers -/

/-- The document is fit to have a public copy. -/
structure Publicized (file : FilingFile) (d : FilingDocument) (copyId : CopyId) : Prop where
  confidential : d.isConfidential = true
  current : d.removedAt = none
  notPrivate : privateDocumentTypes.contains d.documentTypeCode = false
  accepted : file.filing.status = .accepted
  case : file.filing.caseId ≠ none
  published : ∃ t ∈ file.transactions, t.Publishes d.id copyId

/-- Every document that has a public copy was published, and is still fit for it. -/
def PointerSound (file : FilingFile) : Prop :=
  ∀ d ∈ file.documents, ∀ copyId, d.publicCopyId = some copyId → Publicized file d copyId

theorem publicationBlock_none {doc : FilingDocument} {filing : FilingEnvelope}
    (h : publicationBlock doc filing = none) :
    privateDocumentTypes.contains doc.documentTypeCode = false ∧ doc.removedAt = none ∧ filing.status = .accepted ∧
      filing.caseId ≠ none := by
  unfold publicationBlock at h
  split at h
  · cases h
  · rename_i hprivate
    split at h
    · cases h
    · rename_i hno
      rw [not_or, not_or, Decidable.not_not] at hno
      exact ⟨by simpa using hprivate, by simpa using hno.1, hno.2.1, hno.2.2⟩

theorem FileStep.stays_accepted (h : FileStep cfg r db db' tr f file file')
    (haccepted : file.filing.status = .accepted) :
    file'.filing.status = .accepted ∧ file'.filing.caseId = file.filing.caseId := by
  cases h.status with
  | same hs => exact ⟨hs.status.trans haccepted, hs.caseId⟩
  | submitted hopen => simp [haccepted, FilingStatus.isOpen] at hopen
  | decided userId count action t hr hin => simp [haccepted, FilingStatus.inReview] at hin
  | cmsFailed userId count hr hin => simp [haccepted, FilingStatus.inReview] at hin

theorem Publicized.step (h : FileStep cfg r db db' tr f file file') {d d' : FilingDocument} {copyId : CopyId}
    (hI : Publicized file d copyId) (hsame : d.SameAccess d')
    (hremoved : d'.removedAt = d.removedAt ∨ file.filing.status.isOpen = true) : Publicized file' d' copyId := by
  have hnotOpen : ¬ file.filing.status.isOpen = true := by rw [hI.accepted]; simp [FilingStatus.isOpen]
  obtain ⟨ts, hts, _⟩ := h.grows.transactions
  obtain ⟨haccepted, hcase⟩ := h.stays_accepted hI.accepted
  obtain ⟨t, ht, hpublishes⟩ := hI.published
  exact {
    confidential := hsame.isConfidential.trans hI.confidential
    current := (hremoved.resolve_right hnotOpen).trans hI.current
    notPrivate := by rw [hsame.documentTypeCode]; exact hI.notPrivate
    accepted := haccepted
    case := by rw [hcase]; exact hI.case
    published := ⟨t, by rw [hts]; exact List.mem_append_left _ ht, by rw [hsame.id]; exact hpublishes⟩ }

theorem FileStep.pointers (h : FileStep cfg r db db' tr f file file') (hwf : file.WellFormed f)
    (hI : PointerSound file) :
    PointerSound file' := by
  intro d' hd' copyId hpointer
  cases h.access with
  | kept hdocs =>
    rcases hdocs d' hd' with ⟨d, hd, hsame, hremoved⟩ | ⟨_, hnone⟩
    · exact (hI d hd copyId (hsame.publicCopyId.symm.trans hpointer)).step h hsame hremoved
    · rw [hnone] at hpointer
      cases hpointer
  | decided documentId pointer data doc hr hdoc hversion hdocs hpublished =>
    rw [hdocs] at hd'
    obtain ⟨d, hd, hid, ⟨hne, rfl⟩ | ⟨heq, rfl⟩⟩ := FilingFile.mem_setAccess hd'
    · exact (hI d' hd copyId hpointer).step h (.refl d') (.inl rfl)
    · obtain ⟨hmem, hdocid⟩ := FilingFile.document_spec hdoc
      cases hwf.document_unique hd hmem (heq.trans hdocid.symm)
      obtain ⟨hblock, t, ht, hpublishes⟩ := hpublished copyId hpointer
      obtain ⟨hprivate, hcurrent, haccepted, hcase⟩ := publicationBlock_none hblock
      obtain ⟨haccepted', hcase'⟩ := h.stays_accepted haccepted
      exact ⟨rfl, hcurrent, hprivate, haccepted', by rw [hcase']; exact hcase, t, ht, heq.symm ▸ hpublishes⟩

/-- **A document that has a public copy was published, and is still fit for it.** -/
theorem Run.pointers (h : Run cfg w₀ w) : ∀ f file, w.db (.envelope f) = some file → PointerSound file := by
  refine Run.file_invariant (I := fun _ file => PointerSound file) ?_ ?_ h
  · intro w sid s a f userId data key file' _ _ hnew
    rw [hnew.file_eq]
    exact fun d hd => absurd hd (by simp)
  · intro w sid s a f file file' hrun hc hfile hI hstep
    exact hstep.pointers (hrun.wellFormed f file hfile) hI

theorem Run.pointer_copy (h : Run cfg w₀ w) (hfile : w.db (.envelope f) = some file) {d : FilingDocument}
    (hd : d ∈ file.documents) {copyId : CopyId} (hpointer : d.publicCopyId = some copyId) :
    ∃ copy ∈ file.copies, copy.id = copyId ∧ copy.documentId = d.id ∧
      ∃ t ∈ file.transactions, t.eventType = .publicCopyPublished ∧ t.details.documentId = some d.id ∧
        t.details.publicCopy = some copy.response := by
  obtain ⟨t, ht, hevent, hdocument, c, hc, hcid⟩ := (h.pointers f file hfile d hd copyId hpointer).published
  obtain ⟨copy, hcopy, hresponse, d₁, hd₁, hdid, hcopydoc, _⟩ := h.publishes f file hfile t ht hevent
  cases hc.symm.trans hresponse
  rw [hdocument] at hdid
  exact ⟨copy, hcopy, hcid, hcopydoc.trans (Option.some.inj hdid).symm, t, ht, hevent, hdocument, hresponse⟩

/-! ## Restrictions and versions -/

theorem Run.drew_other (h : Run cfg w₀ w) (hs : Steps (portal cfg) w w') {sid : Nat}
    {s : Session View Failure Response Request} {a : Response} (hc : Commits (portal cfg) w' sid s a)
    (hfile : w.db (.envelope f) = some file) {d d' : FilingDocument} (hd : d ∈ file.documents)
    (hdrew : DrewDocument s.trace d') : d'.id ≠ d.id := by
  intro hid
  have hspent := Steps.spent hs (h.part_spent hfile (.document d hd (.inl hid.symm)))
  exact hspent.not_drawn hc hdrew.id

/-- **A restricted document stays restricted.** -/
theorem Run.confidential_kept (h : Run cfg w₀ w) (hs : Steps (portal cfg) w w') (hfile : w.db (.envelope f) = some file)
    (hfile' : w'.db (.envelope f) = some file') {d d' : FilingDocument} (hd : d ∈ file.documents)
    (hd' : d' ∈ file'.documents) (hid : d'.id = d.id) (hconfidential : d.isConfidential = true) :
    d'.isConfidential = true := by
  suffices ∃ later, w'.db (.envelope f) = some later ∧ ∀ d₁ ∈ later.documents, d₁.id = d.id →
      d₁.isConfidential = true by
    obtain ⟨later, hlater, hkept⟩ := this
    cases hfile'.symm.trans hlater
    exact hkept d' hd' hid
  refine h.file_since hfile ?_ ?_ hs
  · intro d₁ hd₁ hid₁
    rw [(h.wellFormed f file hfile).document_unique hd₁ hd hid₁]
    exact hconfidential
  · intro w₁ sid s a file₁ file₂ hrun hs₁ hc hfile₁ hI hstep d₂ hd₂ hid₂
    cases hstep.access with
    | kept hdocs =>
      rcases hdocs d₂ hd₂ with ⟨d₁, hd₁, hsame, _⟩ | ⟨hdrew, _⟩
      · exact hsame.isConfidential.trans (hI d₁ hd₁ (hsame.id.symm.trans hid₂))
      · exact absurd hid₂ (h.drew_other hs₁ hc hfile hd hdrew)
    | decided documentId pointer data doc hr hdoc hversion hdocs hpublished =>
      rw [hdocs] at hd₂
      obtain ⟨d₁, hd₁, hid₁, ⟨hne, rfl⟩ | ⟨heq, rfl⟩⟩ := FilingFile.mem_setAccess hd₂
      · exact hI d₂ hd₁ hid₂
      · rfl

/-- The step is the decision on this document's access that found it in its present version. -/
structure DecidedStep (cfg : Settings) (w w' : PortalWorld) (d d' : FilingDocument) (sid : Nat)
    (s : Session View Failure Response Request) (a : Response) (pointer : Option CopyId) (data : PublicationRequest) :
    Prop where
  commits : Commits (portal cfg) w sid s a
  world : w' = w.committed sid s a
  request : s.request.Decides d.id pointer data
  expected : data.expectedVersion = d.accessVersion
  version : d'.accessVersion = d.accessVersion + 1
  pointer : d'.publicCopyId = pointer
  confidential : d'.isConfidential = true

/-- **A step leaves the access of a document, or it decides on it and the version grows by one.** -/
theorem Run.access_step (h : Run cfg w₀ w) (hs : Step (portal cfg) w w') (hfile : w.db (.envelope f) = some file)
    (hfile' : w'.db (.envelope f) = some file') {d d' : FilingDocument} (hd : d ∈ file.documents)
    (hd' : d' ∈ file'.documents) (hid : d'.id = d.id) :
    d.SameAccess d' ∨ ∃ sid s a pointer data, DecidedStep cfg w w' d d' sid s a pointer data := by
  have hwf := h.wellFormed f file hfile
  cases h.envelope_change hs f with
  | same heq =>
    cases hfile'.symm.trans (heq.trans hfile)
    rw [hwf.document_unique hd' hd hid]
    exact .inl (.refl d)
  | created sid s a userId data key file₂ hc hw' hfile₂ hnew =>
    exact absurd (hfile.symm.trans (h.created_none hc hnew)) (by simp)
  | step sid s a file₁ file₂ hc hw' hfile₁ hfile₂ hstep =>
    cases hfile.symm.trans hfile₁
    cases hfile'.symm.trans hfile₂
    cases hstep.access with
    | kept hdocs =>
      rcases hdocs d' hd' with ⟨d₁, hd₁, hsame, _⟩ | ⟨hdrew, _⟩
      · cases hwf.document_unique hd₁ hd (hsame.id.symm.trans hid)
        exact .inl hsame
      · exact absurd hid (h.drew_other .refl hc hfile hd hdrew)
    | decided documentId pointer data doc hr hdoc hversion hdocs hpublished =>
      rw [hdocs] at hd'
      obtain ⟨d₁, hd₁, hid₁, hcases⟩ := FilingFile.mem_setAccess hd'
      cases hwf.document_unique hd₁ hd (hid₁.symm.trans hid)
      rcases hcases with ⟨_, rfl⟩ | ⟨heq, rfl⟩
      · exact .inl (.refl d')
      · obtain ⟨hmem, hdocid⟩ := FilingFile.document_spec hdoc
        cases hwf.document_unique hd hmem (heq.trans hdocid.symm)
        refine .inr ⟨sid, s, a, pointer, data, hc, hw', heq ▸ hr, hversion.symm, ?_, rfl, rfl⟩
        change data.expectedVersion + 1 = _
        rw [hversion]

theorem Run.access_end (h : Run cfg w₀ w) {sid : Nat} {s : Session View Failure Response Request} {a : Response}
    (hc : Commits (portal cfg) w sid s a) {documentId : DocumentId} {pointer : Option CopyId}
    {data : PublicationRequest}
    (hr : s.request.Decides documentId pointer data) :
    AccessEnd cfg s.request w.db s.trace documentId pointer data := by
  have hcurrent := h.guarded.current _ _ hc.found hc.running
  have hends := hc.ends
  revert hends
  cases hreq : s.request with
  | publishCopy userId id copyId data' =>
    rw [hreq] at hr
    cases hr
    exact fun hends => publishCopy_meets _ _ hends hcurrent
  | withholdDocument userId id data' =>
    rw [hreq] at hr
    cases hr
    exact fun hends => withholdDocument_meets _ _ hends hcurrent
  | _ =>
    rw [hreq] at hr
    cases hr

/-- **A decision that does not know the present version of its document changes nothing.** -/
theorem Run.access_stale (h : Run cfg w₀ w) (hs : Step (portal cfg) w w') {sid : Nat}
    {s : Session View Failure Response Request} (hs' : w'.sessions sid = some s)
    (hmoved : w'.sessions sid ≠ w.sessions sid) {documentId : DocumentId} {pointer : Option CopyId}
    {data : PublicationRequest} (hr : s.request.Decides documentId pointer data) :
    (∀ g, isRow g = true → w'.db g = w.db g) ∨ ∃ f file d, w.db (.envelope f) = some file ∧ d ∈ file.documents ∧
      d.id = documentId ∧ d.accessVersion = data.expectedVersion := by
  rcases Run.step_cases hs with hrows | ⟨sid', s₀, a, hc, rfl⟩
  · exact .inl hrows
  rcases World.put_sessions.1 hs' with ⟨rfl, rfl⟩ | ⟨hne, hold⟩
  · cases h.access_end hc hr with
    | still f file doc hdb hdoc hpointer hconfidential hquiet => exact .inl fun g _ => congrFun (hquiet.commit w.db) g
    | changed f file file' doc hdb hdoc hversion hdocs hstep hwrites hsaved =>
      obtain ⟨hmem, hid⟩ := FilingFile.document_spec hdoc
      exact .inr ⟨f, file, doc, hdb, hmem, hid, hversion⟩
  · exact absurd (hs'.trans hold.symm) hmoved

/-- The commit that published a copy: its request is that publication, it recorded the transaction, and what it read of
the stored bytes is what the copy says of them. -/
structure PublishedBy (cfg : Settings) (w₀ w : PortalWorld) (f : FilingId) (t : FilingTransaction)
    (copy : DocumentPublicCopy) (w₁ : PortalWorld) (sid : Nat) (s : Session View Failure Response Request)
    (a : Response) :
    Prop where
  recorded : ∃ file₁ file₂, RecordedAt cfg w₀ w f t w₁ sid s a file₁ file₂
  request : ∃ userId data, s.request = .publishCopy userId copy.documentId copy.id data
  verified : ∃ content w₂, AnsweredIn (portal cfg) w₀ w₁ sid s ⟨.look (.object copy.fileKey), some content⟩ w₂ ∧
    w₂.db (.object copy.fileKey) = some content ∧ Digest.of content = copy.sha256Hash ∧
    content.length = copy.fileSizeBytes

/-- **The bytes of a published copy were read and matched by the request that published it.** -/
theorem Run.copy_verified (h : Run cfg w₀ w) (hfile : w.db (.envelope f) = some file) {t : FilingTransaction}
    (ht : t ∈ file.transactions) (hevent : t.eventType = .publicCopyPublished) :
    ∃ copy ∈ file.copies, t.details.publicCopy = some copy.response ∧
      ∃ w₁ sid s a, PublishedBy cfg w₀ w f t copy w₁ sid s a := by
  obtain ⟨w₁, sid, s, a, file₁, file₂, hrec⟩ := h.recorded_at hfile ht
  obtain ⟨doc, copy, rows, hp⟩ := (hrec.step.publishes t hrec.mem).resolve_left hrec.absent hevent
  obtain ⟨content, hlook, hsha, hsize⟩ := hp.verified
  obtain ⟨w₂, hans⟩ := hrec.run.steps.answered_at h.start.idle hrec.commits.found hlook
  have hs₁ : Steps (portal cfg) w₁ w := (Relation.ReflTransGen.single (.commit sid s a hrec.commits)).trans hrec.later
  have hgrew := hrec.run.grew_to hs₁ hrec.before hfile
  exact ⟨copy, hgrew.copies.subset (hrec.run.published_here hrec.commits hrec.before hp), hp.copy_eq, w₁, sid, s, a,
    ⟨file₁, file₂, hrec⟩, hp.request, content, w₂, hans, hans.look, hsha, hsize⟩

/-! ## Numbers of documents and copies -/

theorem FileStep.copies_new (h : FileStep cfg r db db' tr f file file') : file'.copies = file.copies ∨
    ∃ userId documentId title upload copy, r = .prepareCopy userId documentId title upload ∧
      file'.copies = file.copies ++ [copy] ∧ DrewCopy tr copy ∧ ⟨.look (.document documentId), some f⟩ ∈ tr ∧
      ∃ doc, file.document documentId = some doc ∧ publicationBlock doc file.filing = none ∧
        copy.documentId = documentId := by
  cases h with
  | copyPrepared userId documentId title upload doc copy hr h hblock hid hkey hdoc =>
    exact .inr ⟨userId, documentId, title, upload, copy, hr, rfl, ⟨hid, hkey⟩, h.indexed, doc, h.found, hblock, hdoc⟩
  | edited | uploaded | retired | erased => exact .inl rfl
  | accepted userId count time receivedAt seen order dated caseId a b t _ hr h hacc hreceived hdated hcase hrec =>
    exact .inl (hrec.copies_eq.trans hdated.copies_eq)
  | cmsFailed userId count time receivedAt seen order dated error t _ hr h hacc hreceived hdated hrec =>
    exact .inl (hrec.copies_eq.trans hdated.copies_eq)
  | feesAssessed _ _ _ _ _ _ _ _ hrec | feeReviewRequested _ _ _ _ _ _ _ hrec | waiverReferred _ _ _ _ _ _ _ _ hrec
  | waiverDecided _ _ _ _ _ _ _ _ _ _ hrec | submitted _ _ _ _ _ _ _ _ _ _ _ _ _ hrec
  | paid _ _ _ _ _ _ _ _ _ _ hrec | credited _ _ _ _ _ _ _ _ _ _ _ _ _ _ hrec
  | reversed _ _ _ _ _ _ _ _ _ _ _ hrec | declined _ _ _ _ _ _ _ _ _ _ _ _ hrec
  | dateOrdered _ _ _ _ _ _ _ _ hrec | published _ _ _ _ _ _ _ _ _ _ _ _ _ _ _ _ _ _ hrec
  | withheld _ _ _ _ _ _ _ _ hrec => exact .inl hrec.copies_eq

/-- No two documents and no two copies have one number. -/
structure NumbersApart (db : Store) : Prop where
  documents : ∀ f₁ d₁ f₂ d₂, HasDocument db f₁ d₁ → HasDocument db f₂ d₂ → d₁.id = d₂.id → f₁ = f₂
  copies : ∀ f₁ c₁ f₂ c₂, HasCopy db f₁ c₁ → HasCopy db f₂ c₂ → c₁.id = c₂.id → f₁ = f₂ ∧ c₁ = c₂

theorem HasDocument.id_named {d : FilingDocument} (h : HasDocument db f d) : Named db d.id := by
  obtain ⟨file, hfile, hd⟩ := h
  exact .part f file hfile (.document d hd (.inl rfl))

theorem HasCopy.id_named {c : DocumentPublicCopy} (h : HasCopy db f c) : Named db c.id := by
  obtain ⟨file, hfile, hc⟩ := h
  exact .part f file hfile (.copy c hc (.inl rfl))

theorem Changes.prepared (h : Changes cfg r db tr) {c : DocumentPublicCopy} (hc : HasCopy (commit tr db) f c) :
    HasCopy db f c ∨ (DrewCopy tr c ∧ ∃ userId documentId title upload,
      r = .prepareCopy userId documentId title upload ∧ ⟨.look (.document documentId), some f⟩ ∈ tr ∧
      ∀ c', HasCopy (commit tr db) f c' → HasCopy db f c' ∨ c' = c) := by
  obtain ⟨file₁, hfile₁, hc⟩ := hc
  rcases h (.envelope f) with heq | ⟨file', hfile', ⟨_, _, _, hnew⟩ | ⟨file, hfile, hstep⟩⟩
  · exact .inl ⟨file₁, heq ▸ hfile₁, hc⟩
  · cases hfile₁.symm.trans hfile'
    rw [hnew.file_eq] at hc
    simp at hc
  · cases hfile₁.symm.trans hfile'
    rcases hstep.copies_new with heq | ⟨userId, documentId, title, upload, copy, hr, hcopies, hdrew, hindexed, -⟩
    · exact .inl ⟨file, hfile, heq ▸ hc⟩
    · rw [hcopies, List.mem_append, List.mem_singleton] at hc
      rcases hc with hc | rfl
      · exact .inl ⟨file, hfile, hc⟩
      · refine .inr ⟨hdrew, userId, documentId, title, upload, hr, hindexed, ?_⟩
        rintro c' ⟨file₂, hfile₂, hc'⟩
        cases hfile₂.symm.trans hfile'
        rw [hcopies, List.mem_append, List.mem_singleton] at hc'
        exact hc'.imp_left fun hc' => ⟨file, hfile, hc'⟩

theorem Run.numbersApart (h : Run cfg w₀ w) : NumbersApart w.db := by
  refine Run.store_since ⟨h.start, .refl⟩ ⟨?_, ?_⟩ ?_ ?_ h.steps
  · rintro f₁ d₁ _ _ ⟨file, hfile, _⟩
    rw [h.start.envelope f₁] at hfile
    cases hfile
  · rintro f₁ c₁ _ _ ⟨file, hfile, _⟩
    rw [h.start.envelope f₁] at hfile
    cases hfile
  · intro db db' heq hI
    exact ⟨fun f₁ d₁ f₂ d₂ ⟨file₁, h₁, hd₁⟩ ⟨file₂, h₂, hd₂⟩ => hI.documents f₁ d₁ f₂ d₂
        ⟨file₁, heq (.envelope f₁) rfl ▸ h₁, hd₁⟩ ⟨file₂, heq (.envelope f₂) rfl ▸ h₂, hd₂⟩,
      fun f₁ c₁ f₂ c₂ ⟨file₁, h₁, hc₁⟩ ⟨file₂, h₂, hc₂⟩ => hI.copies f₁ c₁ f₂ c₂
        ⟨file₁, heq (.envelope f₁) rfl ▸ h₁, hc₁⟩ ⟨file₂, heq (.envelope f₂) rfl ▸ h₂, hc₂⟩⟩
  · intro w₁ sid s a hrun _ hc hI hchanges
    have hold : ∀ n, Named w₁.db n → ⟨.fresh, n⟩ ∉ s.trace := fun n hn => (hrun.spent hn).not_drawn hc
    refine ⟨fun f₁ d₁ f₂ d₂ h₁ h₂ heq => ?_, fun f₁ c₁ f₂ c₂ h₁ h₂ heq => ?_⟩
    · obtain ⟨new, hdocs⟩ := hchanges.documents
      rcases hdocs f₁ d₁ h₁ with ⟨e₁, he₁, hg₁⟩ | ⟨hn₁, hr₁, hw₁⟩ <;>
        rcases hdocs f₂ d₂ h₂ with ⟨e₂, he₂, hg₂⟩ | ⟨hn₂, hr₂, hw₂⟩
      · exact hI.documents _ _ _ _ he₁ he₂ (hg₁.id.symm.trans (heq.trans hg₂.id))
      · exact absurd hw₂.id (hold _ ((hg₁.id.symm.trans heq) ▸ he₁.id_named))
      · exact absurd hw₁.id (hold _ ((hg₂.id.symm.trans heq.symm) ▸ he₂.id_named))
      · exact Option.some.inj (hr₁.symm.trans hr₂)
    · rcases hchanges.prepared h₁ with h₁ | ⟨hw₁, u₁, id₁, title₁, upload₁, hr₁, hlook₁, hall₁⟩ <;>
        rcases hchanges.prepared h₂ with h₂ | ⟨hw₂, u₂, id₂, title₂, upload₂, hr₂, hlook₂, hall₂⟩
      · exact hI.copies _ _ _ _ h₁ h₂ heq
      · exact absurd hw₂.id (hold _ (heq ▸ h₁.id_named))
      · exact absurd hw₁.id (hold _ (heq.symm ▸ h₂.id_named))
      · cases hr₁.symm.trans hr₂
        cases hrun.looked_index hc.found hlook₁ hlook₂
        exact ⟨rfl, (hall₂ c₁ ‹_›).resolve_left fun h => hold _ h.id_named hw₁.id⟩

/-! ## Readers -/

section Readers

variable {c : Columns}

theorem Run.mem_filings (h : Run cfg w₀ w) : file ∈ (c.tables w).filings ↔ ∃ f, w.db (.envelope f) = some file := by
  simp only [Tables.filings, List.mem_filterMap, List.mem_range]
  refine ⟨fun ⟨f, _, hfile⟩ => ⟨f, hfile⟩, fun ⟨f, hfile⟩ => ⟨f, ?_, hfile⟩⟩
  have hfile' : w.db (.envelope f) = some file := hfile
  exact (h.spent (.filing (by rw [hfile']; rfl))).lt

theorem Run.document_found (h : Run cfg w₀ w) {id : DocumentId} {d : FilingDocument} :
    (c.tables w).document id = some (file, d) ↔ ∃ f, w.db (.envelope f) = some file ∧ d ∈ file.documents ∧
      d.id = id := by
  constructor
  · intro hfound
    obtain ⟨file₁, hmem, hd⟩ := List.exists_of_findSome?_eq_some hfound
    obtain ⟨d₁, hd₁, heq⟩ := Option.map_eq_some_iff.1 hd
    cases heq
    obtain ⟨f, hfile⟩ := h.mem_filings.1 hmem
    obtain ⟨hd, hid⟩ := FilingFile.document_spec hd₁
    exact ⟨f, hfile, hd, hid⟩
  · rintro ⟨f, hfile, hd, rfl⟩
    have hsome : ((c.tables w).document d.id).isSome = true := by
      rw [Tables.document, List.findSome?_isSome_iff]
      refine ⟨file, h.mem_filings.2 ⟨f, hfile⟩, ?_⟩
      rw [Option.isSome_map, FilingFile.document, List.find?_isSome]
      exact ⟨d, hd, by simp⟩
    obtain ⟨⟨file₁, d₁⟩, hfound⟩ := Option.isSome_iff_exists.1 hsome
    obtain ⟨file₂, hmem, hd₂⟩ := List.exists_of_findSome?_eq_some hfound
    obtain ⟨d₂, hd₂, heq⟩ := Option.map_eq_some_iff.1 hd₂
    cases heq
    obtain ⟨f₁, hfile₁⟩ := h.mem_filings.1 hmem
    obtain ⟨hd₁, hid⟩ := FilingFile.document_spec hd₂
    have hf := h.numbersApart.documents f₁ d₁ f d ⟨file₁, hfile₁, hd₁⟩ ⟨file, hfile, hd⟩ hid
    subst hf
    cases hfile.symm.trans hfile₁
    rw [hfound, (h.wellFormed _ file hfile).document_unique hd₁ hd hid]

/-- **A public copy is found by its number.** -/
theorem Run.copy_found (h : Run cfg w₀ w) {id : CopyId} {copy : DocumentPublicCopy} :
    (c.tables w).copy id = some copy ↔
      ∃ f file, w.db (.envelope f) = some file ∧ copy ∈ file.copies ∧ copy.id = id := by
  have hfound : ∀ copy₁, (c.tables w).copy id = some copy₁ →
      ∃ f file, w.db (.envelope f) = some file ∧ copy₁ ∈ file.copies ∧ copy₁.id = id := by
    intro copy₁ hcopy₁
    obtain ⟨file, hmem, hcopy⟩ := List.mem_flatMap.1 (List.mem_of_find?_eq_some hcopy₁)
    obtain ⟨f, hfile⟩ := h.mem_filings.1 hmem
    have hid := List.find?_some hcopy₁
    exact ⟨f, file, hfile, hcopy, eq_of_beq hid⟩
  refine ⟨hfound copy, ?_⟩
  rintro ⟨f, file, hfile, hcopy, rfl⟩
  have hsome : ((c.tables w).copy copy.id).isSome = true := by
    rw [Tables.copy, List.find?_isSome]
    exact ⟨copy, List.mem_flatMap.2 ⟨file, h.mem_filings.2 ⟨f, hfile⟩, hcopy⟩, by simp⟩
  obtain ⟨copy₁, hcopy₁⟩ := Option.isSome_iff_exists.1 hsome
  obtain ⟨f₁, file₁, hfile₁, hmem₁, hid⟩ := hfound copy₁ hcopy₁
  obtain ⟨rfl, rfl⟩ := h.numbersApart.copies f₁ copy₁ f copy ⟨file₁, hfile₁, hmem₁⟩ ⟨file, hfile, hcopy⟩ hid
  exact hcopy₁

theorem Tables.readPublicCopy_found {t : Tables} {user : Option Viewer} {id : CopyId} {copy : DocumentPublicCopy}
    (h : t.readPublicCopy user id = .ok copy) : t.copy id = some copy ∧ t.mayReadPublicCopy user copy = true := by
  unfold readPublicCopy at h
  split at h
  · cases h
  · rename_i hcopy
    split at h
    · rename_i hmay
      cases h
      exact ⟨hcopy, hmay⟩
    · cases h

/-- **Who reads a public copy is of the court's staff or its filer, or the copy is the current one.** -/
theorem Run.copy_readable (h : Run cfg w₀ w) {user : Option Viewer} {id : CopyId} {copy : DocumentPublicCopy}
    (hread : (c.tables w).readPublicCopy user id = .ok copy) :
    copy.id = id ∧ ∃ f file d, w.db (.envelope f) = some file ∧ d ∈ file.documents ∧ copy.documentId = d.id ∧
      (isCourtStaffFor user file.filing.courtId = true ∨ isFilerOf user file.filing = true ∨
        d.publicCopyId = some copy.id) := by
  obtain ⟨hfound, hmay⟩ := Tables.readPublicCopy_found hread
  obtain ⟨_, _, _, _, hid⟩ := h.copy_found.1 hfound
  unfold Tables.mayReadPublicCopy at hmay
  split at hmay
  · cases hmay
  · rename_i file d hdoc
    obtain ⟨f, hfile, hd, hdid⟩ := h.document_found.1 hdoc
    refine ⟨hid, f, file, d, hfile, hd, hdid.symm, ?_⟩
    by_cases hstaff : isCourtStaffFor user file.filing.courtId = true
    · exact .inl hstaff
    by_cases hfiler : isFilerOf user file.filing = true
    · exact .inr (.inl hfiler)
    rw [if_neg hstaff, if_neg hfiler] at hmay
    split at hmay
    · cases hmay
    · rename_i hno
      rw [not_or, Decidable.not_not] at hno
      exact .inr (.inr hno.1)

/-- **Who reads the original of a document is of the court's staff or its filer, or it is not restricted.** -/
theorem Run.original_readable (h : Run cfg w₀ w) {user : Option Viewer} {id : DocumentId} {d : FilingDocument}
    (hread : (c.tables w).readDocument user id = .ok d) :
    d.id = id ∧ ∃ f file, w.db (.envelope f) = some file ∧ d ∈ file.documents ∧
      (isCourtStaffFor user file.filing.courtId = true ∨ isFilerOf user file.filing = true ∨
        d.isConfidential = false) := by
  unfold Tables.readDocument at hread
  split at hread
  · cases hread
  · rename_i file d₁ hdoc
    split at hread
    · rename_i hmay
      cases hread
      obtain ⟨f, hfile, hd, hdid⟩ := h.document_found.1 hdoc
      refine ⟨hdid, f, file, hfile, hd, ?_⟩
      cases hconfidential : d.isConfidential with
      | false => exact .inr (.inr rfl)
      | true =>
        simp only [Tables.userMayReadDocument, hconfidential, Bool.true_or, if_true, Bool.or_eq_true] at hmay
        exact hmay.symm.imp_right .inl
    · cases hread

end Readers

/-! ## The law -/

/-- This copy is the public copy of the document: what `publish_copy` checked holds, the publication is on record, and
every request that published it had read and matched the stored bytes. -/
structure CurrentCopy (cfg : Settings) (w₀ w : PortalWorld) (f : FilingId) (file : FilingFile) (d : FilingDocument)
    (copy : DocumentPublicCopy) : Prop where
  mem : copy ∈ file.copies
  document : copy.documentId = d.id
  pointer : d.publicCopyId = some copy.id
  fit : Publicized file d copy.id
  published : ∃ t ∈ file.transactions, t.eventType = .publicCopyPublished ∧ t.details.documentId = some d.id ∧
    t.details.publicCopy = some copy.response
  verified : ∀ t ∈ file.transactions, t.eventType = .publicCopyPublished → t.details.publicCopy = some copy.response →
    ∃ w₁ sid s a, PublishedBy cfg w₀ w f t copy w₁ sid s a

theorem Run.current_copy (h : Run cfg w₀ w) (hfile : w.db (.envelope f) = some file) {d : FilingDocument}
    (hd : d ∈ file.documents) {copyId : CopyId} (hpointer : d.publicCopyId = some copyId) :
    ∃ copy, copy.id = copyId ∧ CurrentCopy cfg w₀ w f file d copy := by
  obtain ⟨copy, hcopy, rfl, hdocument, t, ht, hevent, htdoc, hresponse⟩ := h.pointer_copy hfile hd hpointer
  refine ⟨copy, rfl, hcopy, hdocument, hpointer, h.pointers f file hfile d hd copy.id hpointer,
    ⟨t, ht, hevent, htdoc, hresponse⟩, fun t' ht' hevent' hresponse' => ?_⟩
  obtain ⟨copy', hcopy', hsame, hby⟩ := h.copy_verified hfile ht' hevent'
  have heq : copy'.id = copy.id := by
    rw [hresponse'] at hsame
    exact (congrArg CopyResponse.id (Option.some.inj hsame)).symm
  obtain ⟨_, rfl⟩ := h.numbersApart.copies f copy' f copy ⟨file, hfile, hcopy'⟩ ⟨file, hfile, hcopy⟩ heq
  exact hby

/-- **A decision that is answered leaves the document as it says:** restricted, with the published copy
or without one. -/
theorem Run.access_decided (h : Run cfg w₀ w) {sid : Nat} {s : Session View Failure Response Request} {a : Response}
    (hc : Commits (portal cfg) w sid s a) {documentId : DocumentId} {pointer : Option CopyId}
    {data : PublicationRequest}
    (hr : s.request.Decides documentId pointer data) {d' : FilingDocument}
    (hfile' : (w.committed sid s a).db (.envelope f) = some file') (hd' : d' ∈ file'.documents)
    (hid : d'.id = documentId) :
    d'.publicCopyId = pointer ∧ d'.isConfidential = true := by
  have hrun := h.tail (.commit sid s a hc)
  have hunique : ∀ {g : FilingId} {file₁ : FilingFile} {d₁ : FilingDocument},
      (w.committed sid s a).db (.envelope g) = some file₁ → d₁ ∈ file₁.documents → d₁.id = documentId → d' = d₁ := by
    intro g file₁ d₁ hfile₁ hd₁ hid₁
    have hf := hrun.numbersApart.documents f d' g d₁ ⟨file', hfile', hd'⟩ ⟨file₁, hfile₁, hd₁⟩ (hid.trans hid₁.symm)
    subst hf
    cases hfile'.symm.trans hfile₁
    exact (hrun.wellFormed f file' hfile').document_unique hd' hd₁ (hid.trans hid₁.symm)
  cases h.access_end hc hr with
  | still g file₁ doc hdb hdoc hpointer hconfidential hquiet =>
    obtain ⟨hmem, hdid⟩ := FilingFile.document_spec hdoc
    rw [hunique ((congrFun (hquiet.commit w.db) _).trans hdb) hmem hdid]
    exact ⟨hpointer, hconfidential⟩
  | changed g file₁ file₂ doc hdb hdoc hversion hdocs hstep hwrites hsaved =>
    obtain ⟨hmem, hdid⟩ := FilingFile.document_spec hdoc
    have hafter : (w.committed sid s a).db (.envelope g) = some file₂ := (hwrites.wrote hsaved w.db).2
    have hchanged := List.mem_map_of_mem (f := fun d : FilingDocument => if d.id = documentId then
      { d with isConfidential := true, publicCopyId := pointer, accessVersion := data.expectedVersion + 1 } else d) hmem
    rw [if_pos hdid] at hchanged
    have hmem' : { doc with
        isConfidential := true, publicCopyId := pointer, accessVersion := data.expectedVersion + 1
        } ∈ file₂.documents := by
      rw [hdocs]
      exact hchanged
    rw [hunique hafter hmem' hdid]
    exact ⟨rfl, rfl⟩

/-- What the portal keeps of the access to documents. -/
structure PublicationSound (cfg : Settings) (w₀ w : PortalWorld) : Prop where
  current : ∀ f file d copyId, w.db (.envelope f) = some file → d ∈ file.documents → d.publicCopyId = some copyId →
    ∃ copy, copy.id = copyId ∧ CurrentCopy cfg w₀ w f file d copy
  confidential : ∀ w' f file file' d d', Steps (portal cfg) w w' → w.db (.envelope f) = some file →
    w'.db (.envelope f) = some file' → d ∈ file.documents → d' ∈ file'.documents → d'.id = d.id →
    d.isConfidential = true → d'.isConfidential = true
  version : ∀ w' f file file' d d', Step (portal cfg) w w' → w.db (.envelope f) = some file →
    w'.db (.envelope f) = some file' → d ∈ file.documents → d' ∈ file'.documents → d'.id = d.id →
    d.SameAccess d' ∨ ∃ sid s a pointer data, DecidedStep cfg w w' d d' sid s a pointer data
  decided : ∀ sid s a documentId pointer data f file' d', Commits (portal cfg) w sid s a →
    s.request.Decides documentId pointer data → (w.committed sid s a).db (.envelope f) = some file' →
    d' ∈ file'.documents → d'.id = documentId → d'.publicCopyId = pointer ∧ d'.isConfidential = true
  withdrawn : ∀ sid s a userId documentId data, Commits (portal cfg) w sid s a →
    s.request = .withholdDocument userId documentId data → ∀ (c : Columns) user copyId copy,
    (c.tables (w.committed sid s a)).readPublicCopy user copyId = .ok copy → copy.documentId = documentId →
    ∃ f file, (w.committed sid s a).db (.envelope f) = some file ∧
      (isCourtStaffFor user file.filing.courtId = true ∨ isFilerOf user file.filing = true)
  stale : ∀ w' sid s documentId pointer data, Step (portal cfg) w w' → w'.sessions sid = some s →
    w'.sessions sid ≠ w.sessions sid → s.request.Decides documentId pointer data →
    (∀ f file d, w.db (.envelope f) = some file → d ∈ file.documents → d.id = documentId →
      d.accessVersion ≠ data.expectedVersion) →
    ∀ g, isRow g = true → w'.db g = w.db g
  readers : ∀ (c : Columns) user copyId copy, (c.tables w).readPublicCopy user copyId = .ok copy →
    copy.id = copyId ∧ ∃ f file d, w.db (.envelope f) = some file ∧ d ∈ file.documents ∧ copy.documentId = d.id ∧
      (isCourtStaffFor user file.filing.courtId = true ∨ isFilerOf user file.filing = true ∨
        CurrentCopy cfg w₀ w f file d copy)
  originals : ∀ (c : Columns) user id d, (c.tables w).readDocument user id = .ok d →
    d.id = id ∧ ∃ f file, w.db (.envelope f) = some file ∧ d ∈ file.documents ∧
      (isCourtStaffFor user file.filing.courtId = true ∨ isFilerOf user file.filing = true ∨
        (d.isConfidential = false ∧ d.publicCopyId = none))

/-- **Only the current copy of a document is public.** Whatever runs beside them, the public copy of a document is a
copy of it whose bytes were verified by each request that published it, and the document is still fit for it;
restrictions stay; each decision on access counts the version by one, a stale one changes nothing, and a withholding
withdraws the copy; and outside the court's staff and the filer nobody reads another copy, or the original of a
restricted document. -/
theorem Run.publication_sound (h : Run cfg w₀ w) : PublicationSound cfg w₀ w where
  current _ _ _ _ hfile hd hpointer := h.current_copy hfile hd hpointer
  confidential _ _ _ _ _ _ hs hfile hfile' hd hd' hid hconfidential :=
    h.confidential_kept hs hfile hfile' hd hd' hid hconfidential
  version _ _ _ _ _ _ hs hfile hfile' hd hd' hid := h.access_step hs hfile hfile' hd hd' hid
  decided _ _ _ _ _ _ _ _ _ hc hr hfile' hd' hid := h.access_decided hc hr hfile' hd' hid
  withdrawn sid s a userId documentId data hc hr c user copyId copy hread hdocument := by
    obtain ⟨_, f, file, d, hfile, hd, hdoc, hmay⟩ := (h.tail (.commit sid s a hc)).copy_readable hread
    refine ⟨f, file, hfile, ?_⟩
    have hdecides : s.request.Decides documentId none data := hr ▸ .withhold userId documentId data
    have hnone := (h.access_decided hc hdecides hfile hd (hdoc.symm.trans hdocument)).1
    rcases hmay with hstaff | hfiler | hpointer
    · exact .inl hstaff
    · exact .inr hfiler
    · rw [hnone] at hpointer
      cases hpointer
  stale _ _ _ _ _ _ hs hs' hmoved hr hstale := by
    rcases h.access_stale hs hs' hmoved hr with hrows | ⟨f, file, d, hfile, hd, hid, hversion⟩
    · exact hrows
    · exact absurd hversion (hstale f file d hfile hd hid)
  readers c user copyId copy hread := by
    obtain ⟨hid, f, file, d, hfile, hd, hdoc, hmay⟩ := h.copy_readable hread
    refine ⟨hid, f, file, d, hfile, hd, hdoc, hmay.imp_right fun hmay => hmay.imp_right fun hpointer => ?_⟩
    obtain ⟨copy', hid', hcurrent⟩ := h.current_copy hfile hd hpointer
    obtain ⟨f₁, file₁, hfile₁, hmem, _⟩ := h.copy_found.1 (Tables.readPublicCopy_found hread).1
    obtain ⟨_, rfl⟩ := h.numbersApart.copies f₁ copy f copy' ⟨file₁, hfile₁, hmem⟩ ⟨file, hfile, hcurrent.mem⟩ hid'.symm
    exact hcurrent
  originals c user id d hread := by
    obtain ⟨hid, f, file, hfile, hd, hmay⟩ := h.original_readable hread
    refine ⟨hid, f, file, hfile, hd, hmay.imp_right fun hmay => hmay.imp_right fun hpublic => ⟨hpublic, ?_⟩⟩
    cases hpointer : d.publicCopyId with
    | none => rfl
    | some copyId =>
      have hconfidential := (h.pointers f file hfile d hd copyId hpointer).confidential
      rw [hpublic] at hconfidential
      cases hconfidential

/-- The portal after a copy of the accepted complaint was prepared and published. -/
def publishedWorld : PortalWorld :=
  acceptedWorld.serveAll (portal .demo) 5 [
    (6000, .prepareCopy 2 12 "Complaint, public copy" smallUpload),
    (7000, .publishCopy 2 12 26 ⟨0, "Reviewed"⟩)]

theorem publishedWorld_calm : publishedWorld.Calm 7 [] := World.serveAll_calm (World.serveAll_calm submittedWorld_calm)

theorem publishedWorld_run : Run .demo smallWorld publishedWorld :=
  acceptedWorld_run.trans
    (World.serveAll_steps (World.serveAll_calm submittedWorld_calm) (by decide +kernel))

/-- The columns that no endpoint here writes, for the small portal. -/
def smallColumns : Columns where
  county _ := "Wayne"
  status _ := .open_
  judgeId _ := none
  caseCreatedAt _ := 0
  filingCreatedAt _ := 0
  favorites := []
  lower s := s

def withholding : Request := .withholdDocument 2 12 ⟨1, "Sealed by order"⟩

def withheldWorld : PortalWorld := publishedWorld.serve (portal .demo) 7 8000 withholding

/-- In that world the copy is the public one, anybody reads it, and its bytes were verified; after a withholding only
the court's staff and the filer read it. -/
theorem Run.publication_sound_published : PublicationSound .demo smallWorld publishedWorld ∧
    (∃ f file d copy, copy.id = 26 ∧ CurrentCopy .demo smallWorld publishedWorld f file d copy) ∧
    ((smallColumns.tables publishedWorld).readPublicCopy none 26).isOk = true ∧
    ((smallColumns.tables withheldWorld).readPublicCopy none 26).isOk = false ∧
    ∀ user copy, (smallColumns.tables withheldWorld).readPublicCopy user 26 = .ok copy → ∃ f file,
      withheldWorld.db (.envelope f) = some file ∧
        (isCourtStaffFor user file.filing.courtId = true ∨ isFilerOf user file.filing = true) := by
  have hsound := Run.publication_sound publishedWorld_run
  have hpointer : ((publishedWorld.db (.envelope 10)).any fun file =>
      file.documents.any fun d => d.publicCopyId == some 26) = true := by
    decide +kernel
  obtain ⟨file, hfile, hany⟩ := (Option.any_eq_true _ _).1 hpointer
  obtain ⟨d, hd, hcopy⟩ := List.any_eq_true.1 hany
  obtain ⟨copy, hid, hcurrent⟩ := hsound.current 10 file d 26 hfile hd (beq_iff_eq.1 hcopy)
  have hok : (((portal .demo).program withholding).alone (portal .demo).row 8000 publishedWorld.db
      publishedWorld.next).sound = true := by decide +kernel
  have hanswer : (((portal .demo).program withholding).alone (portal .demo).row 8000 publishedWorld.db
      publishedWorld.next).result.isOk = true := by decide +kernel
  obtain ⟨w, s, a, hrun, hc, hserve, hreq, _⟩ := publishedWorld_run.served publishedWorld_calm hok hanswer
  refine ⟨hsound, ⟨10, file, d, copy, hid, hcurrent⟩, by decide +kernel, by decide +kernel, fun user copy' hread => ?_⟩
  have hafter : withheldWorld = w.committed 7 s a := hserve
  have hdocument : copy'.documentId = 12 := by
    have hall : ((smallColumns.tables withheldWorld).copy 26).all (fun copy => copy.documentId == 12) = true := by
      decide +kernel
    rw [(Tables.readPublicCopy_found hread).1] at hall
    exact beq_iff_eq.1 hall
  rw [hafter] at hread ⊢
  exact (Run.publication_sound hrun).withdrawn 7 s a 2 12 _ hc hreq smallColumns user 26 copy' hread hdocument

end Muefs
