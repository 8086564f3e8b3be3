import Muefs.Laws.Cases
import Muefs.Laws.Dates
import Muefs.Laws.Receipts
import Muefs.Laws.Token

/-!
# What receipts and acceptances stand for

* `FilingFile.fingerprints` : id, hash and size of the current documents; `FileStep.current` : who may change them;
* `FilingFile.Covered`, `Run.covered` : a closed filing has the documents of its last receipt;
* `FileStep.receipt` : a new receipt comes from a submission; `Run.receipt_sound` : what it stands for;
* `Run.acceptance_sound` : what an acceptance found under its lock;
* `Run.integrity` : the law.
-/

namespace Muefs
open RowLocks

variable {cfg : Settings} {r : Request} {db db' : Store} {tr : Trace} {f : FilingId} {file file' : FilingFile}

/-! ## Current documents -/

/-- Id, hash and size of the current documents. -/
def FilingFile.fingerprints (file : FilingFile) : List Fingerprint :=
  file.currentDocuments.map FilingDocument.fingerprint

theorem fingerprints_map {docs : List FilingDocument} {step : FilingDocument → FilingDocument}
    (hcurrent : ∀ d, (step d).isCurrent = d.isCurrent) (hfp : ∀ d, (step d).fingerprint = d.fingerprint) :
    ((docs.map step).filter FilingDocument.isCurrent).map FilingDocument.fingerprint =
      (docs.filter FilingDocument.isCurrent).map FilingDocument.fingerprint := by
  rw [List.filter_map, List.map_map]
  have hsame : FilingDocument.isCurrent ∘ step = FilingDocument.isCurrent := funext hcurrent
  have hsame' : FilingDocument.fingerprint ∘ step = FilingDocument.fingerprint := funext hfp
  rw [hsame, hsame']

theorem fingerprints_retain (time : Instant) (docs : List FilingDocument) :
    ((docs.map (FilingDocument.retain time)).filter FilingDocument.isCurrent).map FilingDocument.fingerprint =
      (docs.filter FilingDocument.isCurrent).map FilingDocument.fingerprint :=
  fingerprints_map (FilingDocument.retain_isCurrent time) (FilingDocument.retain_fingerprint time)

theorem fingerprints_court {docs : List FilingDocument} {doc : FilingDocument}
    (h : courtDocumentTypes.contains doc.documentTypeCode = true) :
    (docs ++ [doc]).filter FilingDocument.isCurrent = docs.filter FilingDocument.isCurrent := by
  have hcourt : doc.documentTypeCode ∈ courtDocumentTypes := by simpa using h
  simp [FilingDocument.isCurrent, hcourt]

theorem FilingFile.setAccess_fingerprints (file : FilingFile) (id : DocumentId) (copy : Option CopyId) (version : Nat) :
    (file.setAccess id copy version).fingerprints = file.fingerprints := by
  refine fingerprints_map (fun d => ?_) fun d => ?_
  · split <;> rfl
  · split <;> rfl

theorem Recorded.fingerprints_eq {base : FilingFile} {event : EventType} {actorId : UserId} {key : Option Uuid}
    {details : Details} {t : FilingTransaction} (h : Recorded cfg tr base event actorId key details file' t) :
    file'.fingerprints = base.fingerprints := by
  unfold FilingFile.fingerprints FilingFile.currentDocuments
  rw [h.documents_eq]
  split
  · exact fingerprints_retain _ _
  · rfl

/-- The current documents are as before, and a filing that is closed was closed. -/
structure SameCurrent (file file' : FilingFile) : Prop where
  fingerprints : file'.fingerprints = file.fingerprints
  closed : file'.filing.status.isOpen = false → file.filing.status.isOpen = false

theorem Recorded.sameCurrent {base : FilingFile} {event : EventType} {actorId : UserId} {key : Option Uuid}
    {details : Details} {t : FilingTransaction} (h : Recorded cfg tr base event actorId key details file' t)
    (hbase : base.fingerprints = file.fingerprints)
    (hclosed : base.filing.status.isOpen = false → file.filing.status.isOpen = false) : SameCurrent file file' where
  fingerprints := h.fingerprints_eq.trans hbase
  closed := by
    rw [h.filing_eq]
    exact hclosed

/-- **Current documents change only while the filing is open,** and a filing is closed by its submission. -/
theorem FileStep.current (h : FileStep cfg r db db' tr f file file') :
    SameCurrent file file' ∨ file'.filing.status.isOpen = true ∨ Receipted cfg db tr file file' := by
  cases h with
  | edited => exact .inl ⟨rfl, id⟩
  | copyPrepared => exact .inl ⟨rfl, id⟩
  | uploaded userId key form upload doc request hr h => exact .inr (.inl h.isOpen)
  | retired userId documentId doc time hr h => exact .inr (.inl h.isOpen)
  | erased userId documentId doc hr h => exact .inr (.inl h.isOpen)
  | feeReviewRequested userId data time t _ hr h hrec =>
    exact .inl (hrec.sameCurrent (fingerprints_retain time _) id)
  | feesAssessed userId data a time t saved hr h hrec =>
    have hsaved := hrec.sameCurrent (fingerprints_retain time _) id
    exact .inl ⟨hsaved.fingerprints, hsaved.closed⟩
  | waiverDecided userId form time doc due t _ hr haction h hrec =>
    refine .inl (hrec.sameCurrent ?_ id)
    exact congrArg (List.map FilingDocument.fingerprint) (fingerprints_court (by rw [h.type_eq]; decide))
  | dateOrdered userId form doc change t _ hr h hrec =>
    refine .inl (hrec.sameCurrent ?_ id)
    exact congrArg (List.map FilingDocument.fingerprint) (fingerprints_court (by rw [h.type_eq]; decide))
  | submitted userId key token seen caseType time date basis t _ hr h hdate hrec =>
    obtain ⟨account, hactive, haccepts⟩ := h.filer
    exact .inr (.inr ⟨userId, account, key, time, date, basis, t, hactive, haccepts, hrec⟩)
  | accepted userId count time receivedAt seen order dated caseId a b t _ hr h hacc hreceived hdated hcase hrec =>
    refine .inl (hrec.sameCurrent ?_ fun _ => FilingStatus.inReview_closed h.inReview)
    simp only [FilingFile.fingerprints, FilingFile.currentDocuments, hdated.documents_eq]
  | cmsFailed userId count time receivedAt seen order dated error t _ hr h hacc hreceived hdated hrec =>
    refine .inl (hrec.sameCurrent ?_ fun _ => FilingStatus.inReview_closed h.inReview)
    simp only [FilingFile.fingerprints, FilingFile.currentDocuments, hdated.documents_eq]
  | declined userId count action time status event reason t _ hr h haction hrec =>
    exact .inl (hrec.sameCurrent rfl fun _ => FilingStatus.inReview_closed h.inReview)
  | published userId documentId data doc copy g probe rows t _ hr h hblock hindexed hprobe hrows hcopy hdoc hrec =>
    exact .inl (hrec.sameCurrent (file.setAccess_fingerprints _ _ _) id)
  | withheld userId documentId data doc t _ hr h hrec =>
    exact .inl (hrec.sameCurrent (file.setAccess_fingerprints _ _ _) id)
  | paid _ _ _ _ _ _ _ _ _ _ hrec | credited _ _ _ _ _ _ _ _ _ _ _ _ _ _ hrec | reversed _ _ _ _ _ _ _ _ _ _ _ hrec
  | waiverReferred _ _ _ _ _ _ _ _ hrec => exact .inl (hrec.sameCurrent rfl id)

/-! ## The last receipt -/

/-- A filing that is closed has the documents that its last receipt lists. -/
def FilingFile.Covered (file : FilingFile) : Prop :=
  file.filing.status.isOpen = false → ∃ t ∈ file.receipts, t.submissionNumber = file.filing.submissionCount ∧
    ∃ rs, t.details.documents = some rs ∧ rs.map DocumentResponse.fingerprint = file.fingerprints

theorem FilingFile.documentResponses_fingerprint (file : FilingFile) :
    file.documentResponses.map DocumentResponse.fingerprint = file.fingerprints := by
  simp [documentResponses, fingerprints, Function.comp_def]

theorem FileStep.covered (h : FileStep cfg r db db' tr f file file') (hI : file.Covered) : file'.Covered := by
  intro hclosed
  have hreceipted : Receipted cfg db tr file file' → ∃ t ∈ file'.receipts,
      t.submissionNumber = file'.filing.submissionCount ∧
      ∃ rs, t.details.documents = some rs ∧ rs.map DocumentResponse.fingerprint = file'.fingerprints := by
    rintro ⟨userId, account, key, time, date, basis, t, _, _, hrec⟩
    have hevent := file.filing.receiptEvent_isReceipt
    refine ⟨t, ?_, ?_, file.documentResponses, ?_, ?_⟩
    · rw [FilingFile.receipts, hrec.transactions_eq, List.mem_filter, hrec.event_eq]
      exact ⟨List.mem_append_right _ (by simp), hevent⟩
    · rw [hrec.number_eq, hrec.filing_eq]
    · rw [hrec.lists, if_pos hevent]
      rfl
    · rw [FilingFile.documentResponses_fingerprint]
      exact hrec.fingerprints_eq.symm
  rcases h.current with hsame | hopen | hnew
  · rcases h.receipts_cases with hkept | hnew
    · obtain ⟨t, ht, hnumber, rs, hrs, hfp⟩ := hI (hsame.closed hclosed)
      exact ⟨t, hkept.receipts ▸ ht, hnumber.trans hkept.count.symm, rs, hrs, hfp.trans hsame.fingerprints.symm⟩
    · exact hreceipted hnew
  · rw [hopen] at hclosed
    cases hclosed
  · exact hreceipted hnew

variable {w₀ w w' : PortalWorld}

/-- **A closed filing has the documents of its last receipt.** -/
theorem Run.covered (h : Run cfg w₀ w) : ∀ f file, w.db (.envelope f) = some file → file.Covered := by
  refine h.file_invariant ?_ ?_
  · intro w sid s a f userId data key file' _ _ hnew
    rw [hnew.file_eq]
    intro hclosed
    cases hclosed
  · intro w sid s a f file file' _ _ _ hI hstep
    exact hstep.covered hI

/-! ## Receipts -/

/-- A submission records this receipt. -/
structure Receives (cfg : Settings) (r : Request) (db : Store) (tr : Trace) (f : FilingId)
    (file file' seen : FilingFile)
    (t : FilingTransaction) (userId : UserId) (key : Option Uuid) (caseType : Option CaseType) : Prop where
  request : r = .submitFiling userId f key file.submissionToken
  submittable : Submittable cfg db tr f file seen userId key file.submissionToken caseType
  documents : file'.documents = file.documents.map (FilingDocument.retain t.occurredAt)
  lists : t.details.documents = some file.documentResponses
  payments : file'.payments = file.payments
  filing : ∃ time date basis, file'.filing = file.filing.submittedNow time date basis

theorem FileStep.receipt (h : FileStep cfg r db db' tr f file file') : ∀ t ∈ file'.transactions,
    t ∈ file.transactions ∨ (t.eventType.isReceipt = true →
      ∃ seen userId key caseType, Receives cfg r db tr f file file' seen t userId key caseType) := by
  cases h with
  | edited | uploaded | retired | erased | copyPrepared => exact fun t ht => .inl ht
  | feesAssessed userId data a time t saved hr h hrec => exact hrec.unlike (p := EventType.isReceipt) rfl rfl
  | submitted userId key token seen caseType time date basis t _ hr h hdate hrec =>
    have hevent := file.filing.receiptEvent_isReceipt
    have htoken := h.token_eq
    subst htoken
    refine hrec.new fun _ => ⟨seen, userId, key, caseType, hr, h, ?_, ?_, hrec.payments_eq, time, date, basis,
      hrec.filing_eq⟩
    · rw [hrec.documents_eq, if_pos hevent]
    · rw [hrec.lists, if_pos hevent]
      rfl
  | accepted userId count time receivedAt seen order dated caseId a b t _ hr h hacc hreceived hdated hcase hrec =>
    exact hdated.unlike hrec rfl rfl rfl rfl
  | cmsFailed userId count time receivedAt seen order dated error t _ hr h hacc hreceived hdated hrec =>
    exact hdated.unlike hrec rfl rfl rfl rfl
  | declined userId count action time status event reason t _ hr h haction hrec =>
    refine hrec.unlike rfl ?_
    obtain ⟨_, _, rfl⟩ | ⟨_, _, rfl⟩ := haction <;> rfl
  | waiverDecided userId form time doc due t _ hr haction h hrec => exact hrec.unlike rfl form.action.event_isReceipt
  | paid _ _ _ _ _ _ _ _ _ _ hrec | credited _ _ _ _ _ _ _ _ _ _ _ _ _ _ hrec | reversed _ _ _ _ _ _ _ _ _ _ _ hrec
  | feeReviewRequested _ _ _ _ _ _ _ hrec | waiverReferred _ _ _ _ _ _ _ _ hrec | dateOrdered _ _ _ _ _ _ _ _ hrec
  | published _ _ _ _ _ _ _ _ _ _ _ _ _ _ _ _ _ _ hrec | withheld _ _ _ _ _ _ _ _ hrec => exact hrec.unlike rfl rfl

/-- What a receipt stands for at its commit. -/
structure ReceiptSound (cfg : Settings) (db' : Store) (r : Request) (tr : Trace) (f : FilingId) (file' : FilingFile)
    (t : FilingTransaction) : Prop where
  token : ∃ userId key v, r = .submitFiling userId f key (.of v) ∧
    v.documents = file'.currentDocuments.map FilingDocument.values
  lists : t.details.documents = some file'.documentResponses
  verified : ∀ d ∈ file'.currentDocuments, Verified tr d
  only : ReadsOnly tr file'.currentDocuments
  obligation : (feeState cfg file' (db' (.caseType file'.filing.caseTypeId)) none).balanceDueCents = some 0 ∨
    (file'.filing.feeWaiverRequested = true ∧ file'.filing.feeWaiverGranted = none)

section Retain

variable {time : Instant} {d : FilingDocument}

theorem FilingDocument.retain_values : (d.retain time).values = d.values := by
  unfold retain
  split <;> rfl

theorem FilingDocument.retain_response : (d.retain time).response = d.response := by
  unfold retain
  split <;> rfl

theorem FilingDocument.retain_fileKey : (d.retain time).fileKey = d.fileKey := by
  unfold retain
  split <;> rfl

theorem Verified.retain (h : Verified tr d) : Verified tr (d.retain time) := by
  obtain ⟨content, hread, hhash, hsize⟩ := h
  refine ⟨content, ?_, ?_, ?_⟩
  · rw [FilingDocument.retain_fileKey]
    exact hread
  · rw [hhash]
    unfold FilingDocument.retain
    split <;> rfl
  · rw [hsize]
    unfold FilingDocument.retain
    split <;> rfl

theorem currentDocuments_retain (hdocs : file'.documents = file.documents.map (FilingDocument.retain time)) :
    file'.currentDocuments = file.currentDocuments.map (FilingDocument.retain time) := by
  have hsame : FilingDocument.isCurrent ∘ FilingDocument.retain time = FilingDocument.isCurrent :=
    funext (FilingDocument.retain_isCurrent time)
  rw [FilingFile.currentDocuments, hdocs, List.filter_map, hsame]
  rfl

end Retain

/-- A document that a session read, and the document of its fingerprint that is now in the filing, are
one stored file. -/
theorem Run.verified_now (h : Run cfg w₀ w) {sid : Nat} {s : Session View Failure Response Request}
    (hs : w.sessions sid = some s) {rows : FilingFile} (hseen : Seen s.trace f rows)
    (hfile : w.db (.envelope f) = some file) {d d' : FilingDocument} (hd : d ∈ rows.documents)
    (hd' : d' ∈ file.documents) (hfp : d'.fingerprint = d.fingerprint) :
    d'.fileKey = d.fileKey ∧ (Verified s.trace d → Verified s.trace d') := by
  have hid : d'.id = d.id := congrArg Prod.fst hfp
  have hgrows := (h.seen_grew hs hseen hfile).documents d hd d' hd' hid
  refine ⟨hgrows.fileKey, fun ⟨content, hread, hhash, hsize⟩ => ⟨content, ?_, ?_, ?_⟩⟩
  · rw [hgrows.fileKey]
    exact hread
  · rw [hgrows.sha256Hash]
    exact hhash
  · rw [hgrows.fileSizeBytes]
    exact hsize

theorem mem_of_fingerprints {ds ds' : List FilingDocument}
    (h : ds'.map FilingDocument.fingerprint = ds.map FilingDocument.fingerprint) {d' : FilingDocument}
    (hd' : d' ∈ ds') :
    ∃ d ∈ ds, d'.fingerprint = d.fingerprint := by
  obtain ⟨d, hd, hfp⟩ := List.mem_map.1 (h ▸ List.mem_map_of_mem hd')
  exact ⟨d, hd, hfp.symm⟩

theorem Run.obligation_now (h : Run cfg w₀ w) {sid : Nat} {s : Session View Failure Response Request} {a : Response}
    (hc : Commits (portal cfg) w sid s a) {seen : FilingFile} {t : FilingTransaction} {userId : UserId}
    {key : Option Uuid} {caseType : Option CaseType}
    (hstep : FileStep cfg s.request w.db (commit s.trace w.db) s.trace f file file')
    (hrec : Receives cfg s.request w.db s.trace f file file' seen t userId key caseType) :
    (feeState cfg file' ((w.committed sid s a).db (.caseType file'.filing.caseTypeId)) none).obligationMet = true := by
  obtain ⟨time, date, basis, hfiling⟩ := hrec.filing
  have hprice := h.pricing_now hc hrec.submittable.priced hstep (by rw [hfiling]; rfl) (by rw [hfiling]; rfl)
  have hpaid : paidCents cfg file' = paidCents cfg file := by
    rw [paidCents, paidCents, hrec.payments, hfiling]
    rfl
  have hresult := feeState_result_congr none none hprice hpaid (by rw [hfiling]; rfl)
  exact (congrArg FeeResult.obligationMet hresult).trans hrec.submittable.obligation

/-- **What every receipt stands for.** -/
theorem Run.receipt_sound (h : Run cfg w₀ w) {sid : Nat} {s : Session View Failure Response Request} {a : Response}
    (hc : Commits (portal cfg) w sid s a) (hfile : w.db (.envelope f) = some file)
    (hfile' : (w.committed sid s a).db (.envelope f) = some file') {t : FilingTransaction}
    (ht : t ∈ file'.transactions) (hnew : t ∉ file.transactions) (hevent : t.eventType.isReceipt = true) :
    ReceiptSound cfg (w.committed sid s a).db s.request s.trace f file' t := by
  rcases h.changes hc (.envelope f) with heq | ⟨file₂, hfile₂, ⟨userId, data, key, hcreated⟩ | ⟨file₁, hfile₁, hstep⟩⟩
  · have hsame : file' = file := by
      have heq' : (w.committed sid s a).db (.envelope f) = w.db (.envelope f) := heq
      rw [hfile, hfile'] at heq'
      exact Option.some.inj heq'
    exact absurd (hsame ▸ ht) hnew
  · exact absurd (h.created_none hc hcreated) (by simp [hfile])
  · cases hfile.symm.trans hfile₁
    cases hfile'.symm.trans hfile₂
    rcases hstep.receipt t ht with hold | hreceives
    · exact absurd hold hnew
    obtain ⟨seen, userId, key, caseType, hrec⟩ := hreceives hevent
    have hmatched := hrec.submittable.matched
    have hcurrent := currentDocuments_retain hrec.documents
    refine ⟨⟨userId, key, _, hrec.request, ?_⟩, ?_, ?_, ?_, ?_⟩
    · rw [hcurrent]
      simp [Function.comp_def, FilingDocument.retain_values]
    · rw [hrec.lists, FilingFile.documentResponses, FilingFile.documentResponses, hcurrent]
      simp [Function.comp_def, FilingDocument.retain_response]
    · rw [hcurrent]
      intro d' hd'
      obtain ⟨d, hd, rfl⟩ := List.mem_map.1 hd'
      obtain ⟨d₀, hd₀, hfp⟩ := mem_of_fingerprints hmatched.same hd
      have hnow := h.verified_now hc.found hmatched.looked hfile (List.mem_of_mem_filter hd₀)
        (List.mem_of_mem_filter hd) hfp
      exact (hnow.2 (hmatched.verified d₀ hd₀)).retain
    · intro key v hread
      obtain ⟨d₀, hd₀, rfl⟩ := hmatched.only key v hread
      obtain ⟨d, hd, hfp⟩ := mem_of_fingerprints hmatched.same.symm hd₀
      have hnow := h.verified_now hc.found hmatched.looked hfile (List.mem_of_mem_filter hd₀)
        (List.mem_of_mem_filter hd)
        hfp.symm
      refine ⟨d.retain t.occurredAt, ?_, ?_⟩
      · rw [hcurrent]
        exact List.mem_map_of_mem hd
      · rw [FilingDocument.retain_fileKey, hnow.1]
    · have hmet := h.obligation_now hc hstep hrec
      rw [feeState] at hmet
      simpa [feeState, FilingEnvelope.waiverPending] using hmet

/-! ## Acceptances -/

/-- The signed order behind the filing's date, if the court ordered it. -/
def FilingFile.dateOrder (file : FilingFile) : Option FilingDocument :=
  if file.filing.hasOrderedDate then file.orderDocument else none

/-- What an acceptance found under its lock, and that it is what it examined before. -/
structure AcceptanceSound (tr : Trace) (f : FilingId) (file : FilingFile) : Prop where
  receipt : ∃ (t : FilingTransaction) (rs : List DocumentResponse), file.sources = [t] ∧ t.details.documents = some rs ∧
    rs.map DocumentResponse.fingerprint = file.fingerprints
  ordered : file.filing.hasOrderedDate = true → ∃ d, file.dateOrder = some d
  verified : ∀ d ∈ file.currentDocuments ++ file.dateOrder.toList, Verified tr d
  exactly : ∃ seen order, Examined tr f seen order ∧ (seen.currentDocuments ++ order.toList).map
    FilingDocument.fingerprint = (file.currentDocuments ++ file.dateOrder.toList).map FilingDocument.fingerprint

theorem Run.last_receipt (h : Run cfg w₀ w) (hfile : w.db (.envelope f) = some file)
    (hclosed : file.filing.status.isOpen = false) : ∃ (t : FilingTransaction) (rs : List DocumentResponse),
      file.sources = [t] ∧ t.details.documents = some rs ∧ rs.map DocumentResponse.fingerprint = file.fingerprints := by
  have hnumbered := h.numbered f file hfile
  obtain ⟨t, ht, hnumber, rs, hrs, hfp⟩ := h.covered f file hfile hclosed
  have hbegun : file.filing.status ≠ .draft := by
    intro heq
    rw [heq] at hclosed
    cases hclosed
  obtain ⟨u, hsources, _⟩ := hnumbered.source (hnumbered.begun hbegun)
  have hmem : t ∈ file.sources := by
    obtain ⟨ht, hevent⟩ := List.mem_filter.1 ht
    exact List.mem_filter.2 ⟨ht, by simp [hnumber, hevent]⟩
  rw [hsources] at hmem
  cases List.mem_singleton.1 hmem
  exact ⟨t, rs, hsources, hrs, hfp⟩

theorem Run.examined_read (h : Run cfg w₀ w) {sid : Nat} {s : Session View Failure Response Request}
    (hs : w.sessions sid = some s) {seen : FilingFile} {order : Option FilingDocument}
    (hex : Examined s.trace f seen order) {d : FilingDocument} (hd : d ∈ seen.currentDocuments ++ order.toList) :
    ∃ rows, Seen s.trace f rows ∧ d ∈ rows.documents := by
  rcases List.mem_append.1 hd with hd | hd
  · obtain ⟨rows, hrows, hdocs⟩ := hex.documents
    exact ⟨rows, hrows, hdocs ▸ List.mem_of_mem_filter hd⟩
  · cases ho : seen.filing.hasOrderedDate with
    | false =>
      rw [hex.unordered ho] at hd
      cases hd
    | true =>
      obtain ⟨rows, doc, hrows, hdoc, _, horder⟩ := hex.ordered ho
      obtain ⟨envelope, henvelope, hfiling⟩ := hex.envelope
      obtain ⟨w₁, h₁, _, hval⟩ := h.seen hs henvelope
      have hid : seen.filing.id = f := by
        rw [← hfiling]
        exact (h₁.wellFormed f envelope hval).id_eq
      rw [horder, Option.toList_some, List.mem_singleton] at hd
      exact ⟨rows, hid ▸ hrows, hd ▸ hdoc⟩

/-- **What every acceptance found.** -/
theorem Run.acceptance_sound (h : Run cfg w₀ w) {sid : Nat} {s : Session View Failure Response Request} {a : Response}
    (hc : Commits (portal cfg) w sid s a) (hfile : w.db (.envelope f) = some file)
    (hfile' : (w.committed sid s a).db (.envelope f) = some file') (hnot : file.filing.status ≠ .accepted)
    (haccepted : file'.filing.status = .accepted) : AcceptanceSound s.trace f file := by
  rcases h.changes hc (.envelope f) with heq | ⟨file₂, hfile₂, ⟨userId, data, key, hcreated⟩ | ⟨file₁, hfile₁, hstep⟩⟩
  · have heq' : (w.committed sid s a).db (.envelope f) = w.db (.envelope f) := heq
    rw [hfile, hfile'] at heq'
    cases heq'
    exact absurd haccepted hnot
  · exact absurd (h.created_none hc hcreated) (by simp [hfile])
  · cases hfile.symm.trans hfile₁
    cases hfile'.symm.trans hfile₂
    obtain ⟨_, seen, hdates⟩ := hstep.accepted_dates hnot haccepted
    obtain ⟨order, hacc⟩ := hdates.acceptable
    obtain ⟨hsame, _⟩ := h.accepted_unmoved hc.found hfile hacc
    have hordered := FilingEnvelope.hasOrderedDate_congr hsame.basis
    have hlist : (file.currentDocuments ++ file.dateOrder.toList).map FilingDocument.fingerprint =
        (seen.currentDocuments ++ order.toList).map FilingDocument.fingerprint := by
      rw [← hacc.same, ← hordered]
      rfl
    have hclosed : file.filing.status.isOpen = false := by
      cases hstep.status with
      | same h => exact absurd (h.status.symm.trans haccepted) hnot
      | submitted _ hstatus =>
        rw [haccepted] at hstatus
        split at hstatus <;> cases hstatus
      | decided _ _ _ _ _ hin => exact FilingStatus.inReview_closed hin
      | cmsFailed _ _ _ hin => exact FilingStatus.inReview_closed hin
    refine ⟨h.last_receipt hfile hclosed, fun ho => ?_, fun d' hd' => ?_, seen, order, hacc.toExamined, hlist.symm⟩
    · obtain ⟨rows, doc, _, _, hid, horder⟩ := hacc.ordered (hordered ▸ ho)
      have hdoc : doc ∈ seen.currentDocuments ++ order.toList := by simp [horder]
      obtain ⟨d', hd', hfp⟩ := mem_of_fingerprints hlist.symm hdoc
      rw [FilingFile.dateOrder, if_pos ho]
      cases hfind : file.orderDocument with
      | some d => exact ⟨d, rfl⟩
      | none =>
        have hnone : file.dateOrder = none := by rw [FilingFile.dateOrder, if_pos ho, hfind]
        rw [hnone, Option.toList_none, List.append_nil] at hd'
        have hmem := List.find?_eq_none.1 hfind d' (List.mem_of_mem_filter hd')
        have hid' : d'.id = doc.id := (congrArg Prod.fst hfp).symm
        have horderId : file.filing.orderDocumentId = seen.filing.orderDocumentId := by
          rw [FilingEnvelope.orderDocumentId, FilingEnvelope.orderDocumentId, hsame.basis]
        exact absurd (by rw [hid', hid, horderId]; simp) hmem
    · obtain ⟨d, hd, hfp⟩ := mem_of_fingerprints hlist hd'
      obtain ⟨rows, hrows, hdrows⟩ := h.examined_read hc.found hacc.toExamined hd
      have hmem : d' ∈ file.documents := by
        rcases List.mem_append.1 hd' with hd' | hd'
        · exact List.mem_of_mem_filter hd'
        · unfold FilingFile.dateOrder at hd'
          split at hd'
          · exact List.mem_of_find?_eq_some (Option.mem_toList.1 hd')
          · cases hd'
      exact (h.verified_now hc.found hrows hfile hdrows hmem hfp).2 (hacc.verified d hd)

/-! ## The law -/

def Request.isSubmission : Request → Bool
  | .submitFiling .. => true
  | _ => false

theorem Run.raised (hs : Step (portal cfg) w w') {sid : Nat} {s' : Session View Failure Response Request}
    (hs' : w'.sessions sid = some s') (hmoved : w'.sessions sid ≠ w.sessions sid)
    (hreq : s'.request.isReview = true ∨ s'.request.isSubmission = true) (hopen : ∀ a, s'.status ≠ .committed a) :
    w'.db = w.db := by
  rcases hreq with hreview | hsubmit
  · exact Run.review_raised hs hs' hmoved hreview hopen
  · cases hr : s'.request with
    | submitFiling userId f key token =>
      refine hs.still_open hs' hmoved ?_ hopen
      rw [hr]
      exact submitFiling_still userId f key token
    | _ => simp [hr, Request.isSubmission] at hsubmit

/-- **Every receipt lists the current documents, which are those whose bytes its request matched and those of the token,
and the fees were met; every acceptance found the documents of the last receipt, and those whose bytes its request
matched; and a submission or review that fails changes nothing, nor does a filing that fails in a batch.** -/
theorem Run.integrity (h : Run cfg w₀ w) :
    (∀ sid s a f file file', Commits (portal cfg) w sid s a → w.db (.envelope f) = some file →
      (w.committed sid s a).db (.envelope f) = some file' →
      (∀ t ∈ file'.transactions, t ∉ file.transactions → t.eventType.isReceipt = true →
        ReceiptSound cfg (w.committed sid s a).db s.request s.trace f file' t) ∧
      (file.filing.status ≠ .accepted → file'.filing.status = .accepted → AcceptanceSound s.trace f file)) ∧
    (∀ w' sid s', Step (portal cfg) w w' → w'.sessions sid = some s' → w'.sessions sid ≠ w.sessions sid →
      s'.request.isReview = true ∨ s'.request.isSubmission = true → (∀ a, s'.status ≠ .committed a) → w'.db = w.db) ∧
    ∀ sid s a userId data cms, Commits (portal cfg) w sid s a → s.request = .batchReviewFilings userId data cms →
      ∃ result : BatchResult, a = .batch result.succeeded (result.failed.mergeSort fun a b => a ≤ b) result.errors ∧
        (∀ f, ¬ result.Reports f → BatchLeaves w (w.committed sid s a).db f ∧ ∀ id, Owns (w.committed sid s a) f id →
          Owns w f id) ∧
        ∀ id c, w.db (.case id) = some c → (w.committed sid s a).db (.case id) = some c := by
  refine ⟨fun sid s a f file file' hc hfile hfile' => ⟨?_, ?_⟩, ?_, ?_⟩
  · exact fun t ht hnew hevent => h.receipt_sound hc hfile hfile' ht hnew hevent
  · exact fun hnot haccepted => h.acceptance_sound hc hfile hfile' hnot haccepted
  · exact fun w' sid s' hs hs' hmoved hreq hopen => Run.raised hs hs' hmoved hreq hopen
  · intro sid s a userId data cms hc hr
    obtain ⟨result, ha, hleft, hcases⟩ := h.batch_left hc hr
    refine ⟨result, ha, fun f hnot => ⟨hleft f hnot, fun id howns => ?_⟩, hcases⟩
    obtain ⟨file, hfile, hshape⟩ := howns
    exact ⟨file, (hleft f hnot).filing ▸ hfile, hshape⟩

/-- The receipt of the small portal is sound. -/
theorem Run.integrity_submitted : ∃ (w : PortalWorld) (s : Session View Failure Response Request) (a : Response),
    submittedWorld = w.committed 3 s a ∧ ∃ file' t, submittedWorld.db (.envelope 10) = some file' ∧
      t ∈ file'.transactions ∧ ReceiptSound .demo submittedWorld.db s.request s.trace 10 file' t := by
  obtain ⟨w, s, a, file, file', t, hrun, hc, heq, hfile, hfile', ht, hnew, hevent⟩ := submittedWorld_recorded
  have hsound := ((Run.integrity hrun).1 3 s a 10 file file' hc hfile (heq ▸ hfile')).1 t ht hnew hevent
  exact ⟨w, s, a, heq, file', t, hfile', ht, heq ▸ hsound⟩

end Muefs
