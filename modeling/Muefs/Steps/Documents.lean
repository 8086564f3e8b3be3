import Muefs.Steps.Persistence

/-!
# What a step does to documents

* `Keeps` : every retained document is still there; `FileStep.keeps` : no step loses one;
* `Inserts`, `FileStep.inserts` : a step adds at most one document, retained or to a filing that stays open;
* `FileStep.closes` : a step that closes a filing retains its current documents.
-/

namespace Muefs
open RowLocks

variable {cfg : Settings} {r : Request} {db db' : Store} {tr : Trace} {f : FilingId} {file file' : FilingFile}

/-! ## Retention -/

@[simp] theorem FilingDocument.retain_isCurrent (time : Instant) (d : FilingDocument) :
    (d.retain time).isCurrent = d.isCurrent := by
  unfold retain
  split <;> rfl

theorem FilingDocument.retain_fingerprint (time : Instant) (d : FilingDocument) :
    (d.retain time).fingerprint = d.fingerprint := (d.grows_retain time).fingerprint

theorem FilingDocument.retained_retain (time : Instant) {d : FilingDocument} (h : d.isCurrent = true) :
    (d.retain time).retainedAt.isSome = true := by
  unfold retain
  cases hr : d.retainedAt with
  | none => simp [h]
  | some t => simp [hr]

theorem FilingDocument.Grows.current {d d' : FilingDocument} (h : d.Grows d') (hc : d'.isCurrent = true) :
    d.isCurrent = true := by
  simp only [isCurrent, Bool.and_eq_true, Option.isNone_iff_eq_none] at hc ⊢
  rw [← h.documentTypeCode]
  refine ⟨?_, hc.2⟩
  cases hr : d.removedAt with
  | none => rfl
  | some t =>
    have := h.removed (by simp [hr])
    simp [hc.1] at this

def Keeps (ds ds' : List FilingDocument) : Prop :=
  ∀ d ∈ ds, d.retainedAt.isSome = true → ∃ d' ∈ ds', d.Grows d'

theorem Keeps.refl (ds : List FilingDocument) : Keeps ds ds := fun d hd _ => ⟨d, hd, .refl d⟩

theorem Keeps.trans {ds₁ ds₂ ds₃ : List FilingDocument} (h : Keeps ds₁ ds₂) (h' : Keeps ds₂ ds₃) : Keeps ds₁ ds₃ := by
  intro d₁ hd₁ hr
  obtain ⟨d₂, hd₂, h₁₂⟩ := h d₁ hd₁ hr
  obtain ⟨d₃, hd₃, h₂₃⟩ := h' d₂ hd₂ (h₁₂.retained hr)
  exact ⟨d₃, hd₃, h₁₂.trans h₂₃⟩

theorem Keeps.map {ds : List FilingDocument} {step : FilingDocument → FilingDocument}
    (h : ∀ d, FilingDocument.Grows d (step d)) : Keeps ds (ds.map step) :=
  fun d hd _ => ⟨step d, List.mem_map_of_mem hd, h d⟩

theorem Keeps.retain (time : Instant) (ds : List FilingDocument) : Keeps ds (ds.map (FilingDocument.retain time)) :=
  .map fun d => d.grows_retain time

theorem Keeps.append (ds new : List FilingDocument) : Keeps ds (ds ++ new) :=
  fun d hd _ => ⟨d, List.mem_append_left _ hd, .refl d⟩

theorem Recorded.keeps {event : EventType} {actorId : UserId} {key : Option Uuid} {details : Details}
    {t : FilingTransaction} (h : Recorded cfg tr file event actorId key details file' t) :
    Keeps file.documents file'.documents := by
  rw [h.documents_eq]
  split
  · exact .retain _ _
  · exact .refl _

/-- **No step loses a retained document.** -/
theorem FileStep.keeps (hwf : file.WellFormed f) (h : FileStep cfg r db db' tr f file file') :
    Keeps file.documents file'.documents := by
  cases h with
  | edited | copyPrepared => exact .refl _
  | uploaded => exact .append _ _
  | retired => exact .map fun d => .ite ⟨rfl, rfl, rfl, rfl, rfl, rfl, fun h => h, fun _ => rfl⟩
  | erased userId documentId doc hr h hkeep =>
    intro d hd hretained
    refine ⟨d, List.mem_filter.2 ⟨hd, ?_⟩, .refl d⟩
    have hdoc : doc ∈ file.documents := List.mem_of_mem_filter h.mem
    simp only [bne_iff_ne, ne_eq]
    rintro rfl
    rw [List.inj_on_of_nodup_map hwf.documents hd hdoc h.id_eq.symm, hkeep] at hretained
    simp at hretained
  | feeReviewRequested userId data time t _ hr h hrec => exact (Keeps.retain time _).trans hrec.keeps
  | feesAssessed userId data a time t saved hr h hrec => exact (Keeps.retain time _).trans hrec.keeps
  | waiverDecided userId form time doc due t _ hr haction h hrec =>
    exact (Keeps.append _ _).trans hrec.keeps
  | dateOrdered userId form doc change t _ hr h hrec => exact (Keeps.append _ _).trans hrec.keeps
  | accepted userId count time receivedAt seen order dated caseId a b t _ hr h hacc hreceived hdated hcase hrec =>
    have hdocs : dated.documents = file.documents := hdated.documents_eq
    exact hdocs ▸ hrec.keeps
  | cmsFailed userId count time receivedAt seen order dated error t _ hr h hacc hreceived hdated hrec =>
    have hdocs : dated.documents = file.documents := hdated.documents_eq
    exact hdocs ▸ hrec.keeps
  | published userId documentId data doc copy g probe rows t _ hr h hblock hindexed hprobe hrows hcopy hdoc hrec =>
    refine Keeps.trans ?_ hrec.keeps
    exact .map fun d => .ite ⟨rfl, rfl, rfl, rfl, rfl, rfl, fun h => h, fun h => h⟩
  | withheld userId documentId data doc t _ hr h hrec =>
    refine Keeps.trans ?_ hrec.keeps
    exact .map fun d => .ite ⟨rfl, rfl, rfl, rfl, rfl, rfl, fun h => h, fun h => h⟩
  | waiverReferred _ _ _ _ _ _ _ _ hrec | paid _ _ _ _ _ _ _ _ _ _ hrec | credited _ _ _ _ _ _ _ _ _ _ _ _ _ _ hrec
  | reversed _ _ _ _ _ _ _ _ _ _ _ hrec | submitted _ _ _ _ _ _ _ _ _ _ _ _ _ hrec
  | declined _ _ _ _ _ _ _ _ _ _ _ _ hrec => exact hrec.keeps

/-! ## New documents -/

/-- The filing to which a request may add a document. -/
def Request.receiver : Request → Option FilingId
  | .uploadDocument _ f _ _ _ | .decideFeeWaiver _ f _ | .recordFilingDateOrder _ f _ => some f
  | _ => none

/-- A document that a step adds: drawn by its request, and retained unless it is an attachment of an open filing. -/
structure Inserted (r : Request) (tr : Trace) (f : FilingId) (file file' : FilingFile) (d : FilingDocument) : Prop where
  drew : DrewDocument tr d
  receiver : r.receiver = some f
  retained : d.retainedAt.isSome = true ∨
    (courtDocumentTypes.contains d.documentTypeCode = false ∧ file.filing.status.isOpen = true ∧
      file'.filing.status = file.filing.status)

def Inserts (r : Request) (tr : Trace) (f : FilingId) (file file' : FilingFile) : Prop :=
  ∃ new : Option FilingDocument, (∀ d, new = some d → Inserted r tr f file file' d) ∧
    ∀ d' ∈ file'.documents, (∃ d ∈ file.documents, d.Grows d') ∨ new = some d'

theorem Inserts.of_map {step : FilingDocument → FilingDocument} (h : file'.documents = file.documents.map step)
    (hstep : ∀ d, FilingDocument.Grows d (step d)) : Inserts r tr f file file' := by
  refine ⟨none, by simp, fun d' hd' => .inl ?_⟩
  rw [h] at hd'
  obtain ⟨d, hd, rfl⟩ := List.mem_map.1 hd'
  exact ⟨d, hd, hstep d⟩

theorem Inserts.of_eq (h : file'.documents = file.documents) : Inserts r tr f file file' := by
  have hmap : file'.documents = file.documents.map fun d => d := by simpa using h
  exact .of_map hmap .refl

theorem Inserts.of_concat {doc : FilingDocument} (h : file'.documents = file.documents ++ [doc])
    (hdoc : Inserted r tr f file file' doc) : Inserts r tr f file file' := by
  refine ⟨some doc, by rintro d ⟨⟩; exact hdoc, fun d' hd' => ?_⟩
  rw [h] at hd'
  rcases List.mem_append.1 hd' with hd' | hd'
  · exact .inl ⟨d', hd', .refl d'⟩
  · exact .inr (congrArg some (List.mem_singleton.1 hd').symm)

theorem WaiverAction.event_isReceipt (action : WaiverAction) : action.event.isReceipt = false := by
  cases action <;> rfl

/-- **A step adds at most one document.** -/
theorem FileStep.inserts (h : FileStep cfg r db db' tr f file file') : Inserts r tr f file file' := by
  cases h with
  | edited | copyPrepared => exact .of_eq rfl
  | uploaded userId key form upload doc request hr h =>
    exact .of_concat rfl ⟨⟨h.new.id_new, h.new.key_new⟩, by rw [hr]; rfl, .inr ⟨h.notCourt, h.isOpen, rfl⟩⟩
  | retired =>
    exact .of_map rfl fun d => .ite ⟨rfl, rfl, rfl, rfl, rfl, rfl, fun h => h, fun _ => rfl⟩
  | erased => exact ⟨none, by simp, fun d hd => .inl ⟨d, List.mem_of_mem_filter hd, .refl d⟩⟩
  | feeReviewRequested userId data time t _ hr h hrec => exact .of_map hrec.documents_eq fun d => d.grows_retain time
  | feesAssessed userId data a time t saved hr h hrec => exact .of_map hrec.documents_eq fun d => d.grows_retain time
  | waiverDecided userId form time doc due t _ hr haction h hrec =>
    have hdocs := hrec.documents_eq
    rw [form.action.event_isReceipt] at hdocs
    exact .of_concat hdocs ⟨⟨h.new.id_new, h.new.key_new⟩, by rw [hr]; rfl, .inl h.retained⟩
  | dateOrdered userId form doc change t _ hr h hrec =>
    exact .of_concat hrec.documents_eq ⟨⟨h.new.id_new, h.new.key_new⟩, by rw [hr]; rfl, .inl h.retained⟩
  | accepted userId count time receivedAt seen order dated caseId a b t _ hr h hacc hreceived hdated hcase hrec =>
    exact .of_eq (hrec.documents_eq.trans hdated.documents_eq)
  | cmsFailed userId count time receivedAt seen order dated error t _ hr h hacc hreceived hdated hrec =>
    exact .of_eq (hrec.documents_eq.trans hdated.documents_eq)
  | published userId documentId data doc copy g probe rows t _ hr h hblock hindexed hprobe hrows hcopy hdoc hrec =>
    exact .of_map hrec.documents_eq fun d => .ite ⟨rfl, rfl, rfl, rfl, rfl, rfl, fun h => h, fun h => h⟩
  | withheld userId documentId data doc t _ hr h hrec =>
    exact .of_map hrec.documents_eq fun d => .ite ⟨rfl, rfl, rfl, rfl, rfl, rfl, fun h => h, fun h => h⟩
  | submitted userId key token seen caseType time date basis t _ hr h hdate hrec =>
    have hdocs := hrec.documents_eq
    split at hdocs
    · exact .of_map hdocs fun d => d.grows_retain _
    · exact .of_eq hdocs
  | declined userId count action time status event reason t _ hr h haction hrec =>
    obtain ⟨_, _, rfl⟩ | ⟨_, _, rfl⟩ := haction <;> exact .of_eq hrec.documents_eq
  | waiverReferred _ _ _ _ _ _ _ _ hrec | paid _ _ _ _ _ _ _ _ _ _ hrec | credited _ _ _ _ _ _ _ _ _ _ _ _ _ _ hrec
  | reversed _ _ _ _ _ _ _ _ _ _ _ hrec => exact .of_eq hrec.documents_eq

/-! ## Closing -/

theorem FilingStatus.inReview_closed {status : FilingStatus} (h : status.inReview = true) : status.isOpen = false := by
  cases status <;> simp_all [inReview, isOpen]

/-- **A step that closes a filing retains its current documents.** -/
theorem FileStep.closes (h : FileStep cfg r db db' tr f file file') (hclosed : file'.filing.status.isOpen = false) :
    file.filing.status.isOpen = false ∨ ∀ d ∈ file'.documents, d.isCurrent = true → d.retainedAt.isSome = true := by
  cases h with
  | submitted userId key token seen caseType time date basis t _ hr h hdate hrec =>
    refine .inr fun d' hd' hcurrent => ?_
    have hreceipt : file.filing.receiptEvent.isReceipt = true := by
      unfold FilingEnvelope.receiptEvent
      split <;> rfl
    rw [hrec.documents_eq, hreceipt, if_pos rfl] at hd'
    obtain ⟨d, hd, rfl⟩ := List.mem_map.1 hd'
    rw [FilingDocument.retain_isCurrent] at hcurrent
    exact FilingDocument.retained_retain _ hcurrent
  | accepted userId count time receivedAt seen order dated caseId a b t _ hr h =>
      exact .inl (FilingStatus.inReview_closed h.inReview)
  | cmsFailed userId count time receivedAt seen order dated error t _ hr h =>
      exact .inl (FilingStatus.inReview_closed h.inReview)
  | declined userId count action time status event reason t _ hr h =>
      exact .inl (FilingStatus.inReview_closed h.inReview)
  | edited | uploaded | retired | erased | copyPrepared => exact .inl hclosed
  | feesAssessed userId data a time t saved hr h hrec =>
    refine .inl ?_
    simpa [hrec.filing_eq] using hclosed
  | feeReviewRequested _ _ _ _ _ _ _ hrec | waiverReferred _ _ _ _ _ _ _ _ hrec
  | waiverDecided _ _ _ _ _ _ _ _ _ _ hrec | paid _ _ _ _ _ _ _ _ _ _ hrec
  | credited _ _ _ _ _ _ _ _ _ _ _ _ _ _ hrec | reversed _ _ _ _ _ _ _ _ _ _ _ hrec
  | dateOrdered _ _ _ _ _ _ _ _ hrec | published _ _ _ _ _ _ _ _ _ _ _ _ _ _ _ _ _ _ hrec
  | withheld _ _ _ _ _ _ _ _ hrec =>
    refine .inl ?_
    simpa [hrec.filing_eq] using hclosed

end Muefs
