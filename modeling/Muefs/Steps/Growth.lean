import Muefs.Steps.FileStep

/-!
# How a filing grows

* `FilingDocument.Grows` : the same stored file, at most retained, removed or withheld;
* `FileGrows` : what every change of a filing leaves alone: its number, filer, court and case type; its counters do not
  fall; its documents keep their contents; its transactions and copies are only added to;
* `FileStep.grows` : every step of a filing lets it grow.
-/

namespace Muefs
open RowLocks

/-! ## Documents -/

/-- The same stored file. -/
structure FilingDocument.Grows (d d' : FilingDocument) : Prop where
  id : d'.id = d.id
  documentTypeCode : d'.documentTypeCode = d.documentTypeCode
  title : d'.title = d.title
  fileKey : d'.fileKey = d.fileKey
  fileSizeBytes : d'.fileSizeBytes = d.fileSizeBytes
  sha256Hash : d'.sha256Hash = d.sha256Hash
  retained : d.retainedAt.isSome = true → d'.retainedAt.isSome = true
  removed : d.removedAt.isSome = true → d'.removedAt.isSome = true

namespace FilingDocument.Grows

variable {d d₁ d₂ d₃ : FilingDocument}

theorem refl (d : FilingDocument) : d.Grows d := ⟨rfl, rfl, rfl, rfl, rfl, rfl, fun h => h, fun h => h⟩

theorem trans (h : d₁.Grows d₂) (h' : d₂.Grows d₃) : d₁.Grows d₃ where
  id := h'.id.trans h.id
  documentTypeCode := h'.documentTypeCode.trans h.documentTypeCode
  title := h'.title.trans h.title
  fileKey := h'.fileKey.trans h.fileKey
  fileSizeBytes := h'.fileSizeBytes.trans h.fileSizeBytes
  sha256Hash := h'.sha256Hash.trans h.sha256Hash
  retained hr := h'.retained (h.retained hr)
  removed hr := h'.removed (h.removed hr)

theorem ite {c : Prop} [Decidable c] (h : d₁.Grows d₂) : d₁.Grows (if c then d₂ else d₁) := by
  split
  · exact h
  · exact .refl d₁

theorem fingerprint (h : d₁.Grows d₂) : d₂.fingerprint = d₁.fingerprint := by
  simp only [FilingDocument.fingerprint, h.id, h.sha256Hash, h.fileSizeBytes]

end FilingDocument.Grows

theorem FilingDocument.grows_retain (d : FilingDocument) (time : Instant) : d.Grows (d.retain time) := by
  unfold retain
  split
  · exact ⟨rfl, rfl, rfl, rfl, rfl, rfl, fun _ => rfl, fun h => h⟩
  · exact .refl d

/-! ## Filings -/

/-- What no change of a filing touches. -/
structure FilingEnvelope.Fixed (filing filing' : FilingEnvelope) : Prop where
  id : filing'.id = filing.id
  courtId : filing'.courtId = filing.courtId
  caseTypeId : filing'.caseTypeId = filing.caseTypeId
  filerId : filing'.filerId = filing.filerId
  creationKey : filing'.creationKey = filing.creationKey
  creationSha256 : filing'.creationSha256 = filing.creationSha256
  filingType : filing'.filingType = filing.filingType

/-- The counters do not fall. -/
structure FilingEnvelope.Counts (filing filing' : FilingEnvelope) : Prop where
  submissionCount : filing.submissionCount ≤ filing'.submissionCount
  feeVersion : filing.feeVersion ≤ filing'.feeVersion
  paymentVersion : filing.paymentVersion ≤ filing'.paymentVersion
  filingDateVersion : filing.filingDateVersion ≤ filing'.filingDateVersion

/-- The trace drew this document's numbers. -/
structure DrewDocument (tr : Trace) (d : FilingDocument) : Prop where
  id : ⟨.fresh, d.id⟩ ∈ tr
  key : ⟨.fresh, d.fileKey.uuid⟩ ∈ tr

/-- The trace drew this copy's numbers. -/
structure DrewCopy (tr : Trace) (c : DocumentPublicCopy) : Prop where
  id : ⟨.fresh, c.id⟩ ∈ tr
  key : ⟨.fresh, c.fileKey.uuid⟩ ∈ tr

/-- Documents keep their stored files; the others are new. -/
def DocumentsGrow (tr : Trace) (ds ds' : List FilingDocument) : Prop :=
  ∀ d' ∈ ds', (∃ d ∈ ds, d.Grows d') ∨ DrewDocument tr d'

/-- Payments keep their numbers; the others are new. -/
def PaymentsGrow (tr : Trace) (ps ps' : List Payment) : Prop :=
  ∀ p' ∈ ps', (∃ p ∈ ps, p'.id = p.id) ∨ ⟨.fresh, p'.id⟩ ∈ tr

/-- How a filing changes in a trace. -/
structure FileGrows (tr : Trace) (file file' : FilingFile) : Prop where
  fixed : file.filing.Fixed file'.filing
  counts : file.filing.Counts file'.filing
  documents : DocumentsGrow tr file.documents file'.documents
  transactions : ∃ ts, file'.transactions = file.transactions ++ ts ∧ ∀ t ∈ ts, ⟨.fresh, t.id⟩ ∈ tr
  copies : ∃ cs, file'.copies = file.copies ++ cs ∧ ∀ c ∈ cs, DrewCopy tr c
  payments : PaymentsGrow tr file.payments file'.payments

variable {tr : Trace} {file file₁ file₂ file₃ file' : FilingFile}

/-! ### Documents and payments -/

section Lists

variable {ds : List FilingDocument} {ps : List Payment}

theorem DocumentsGrow.refl (tr : Trace) (ds : List FilingDocument) : DocumentsGrow tr ds ds :=
  fun d hd => .inl ⟨d, hd, .refl d⟩

theorem DocumentsGrow.trans {ds₁ ds₂ ds₃ : List FilingDocument} (h : DocumentsGrow tr ds₁ ds₂)
    (h' : DocumentsGrow tr ds₂ ds₃) : DocumentsGrow tr ds₁ ds₃ := by
  intro d₃ hd₃
  rcases h' d₃ hd₃ with ⟨d₂, hd₂, hg⟩ | hnew
  · rcases h d₂ hd₂ with ⟨d₁, hd₁, hg'⟩ | hnew
    · exact .inl ⟨d₁, hd₁, hg'.trans hg⟩
    · exact .inr ⟨hg.id ▸ hnew.id, hg.fileKey ▸ hnew.key⟩
  · exact .inr hnew

theorem DocumentsGrow.map {step : FilingDocument → FilingDocument} (h : ∀ d, FilingDocument.Grows d (step d)) :
    DocumentsGrow tr ds (ds.map step) := by
  intro d' hd'
  obtain ⟨d, hd, rfl⟩ := List.mem_map.1 hd'
  exact .inl ⟨d, hd, h d⟩

theorem DocumentsGrow.retain (time : Instant) : DocumentsGrow tr ds (ds.map (FilingDocument.retain time)) :=
  .map fun d => d.grows_retain time

theorem DocumentsGrow.concat {d : FilingDocument} (h : NewDocument tr d) : DocumentsGrow tr ds (ds ++ [d]) := by
  intro d' hd'
  rcases List.mem_append.1 hd' with hd' | hd'
  · exact .inl ⟨d', hd', .refl d'⟩
  · cases List.mem_singleton.1 hd'
    exact .inr ⟨h.id_new, h.key_new⟩

theorem DocumentsGrow.filter {p : FilingDocument → Bool} : DocumentsGrow tr ds (ds.filter p) :=
  fun d hd => .inl ⟨d, List.mem_of_mem_filter hd, .refl d⟩

theorem PaymentsGrow.refl (tr : Trace) (ps : List Payment) : PaymentsGrow tr ps ps := fun p hp => .inl ⟨p, hp, rfl⟩

theorem PaymentsGrow.trans {ps₁ ps₂ ps₃ : List Payment} (h : PaymentsGrow tr ps₁ ps₂) (h' : PaymentsGrow tr ps₂ ps₃) :
    PaymentsGrow tr ps₁ ps₃ := by
  intro p₃ hp₃
  rcases h' p₃ hp₃ with ⟨p₂, hp₂, hid⟩ | hnew
  · rcases h p₂ hp₂ with ⟨p₁, hp₁, hid'⟩ | hnew
    · exact .inl ⟨p₁, hp₁, hid.trans hid'⟩
    · exact .inr (hid ▸ hnew)
  · exact .inr hnew

theorem PaymentsGrow.concat {p : Payment} (h : ⟨.fresh, p.id⟩ ∈ tr) : PaymentsGrow tr ps (ps ++ [p]) := by
  intro p' hp'
  rcases List.mem_append.1 hp' with hp' | hp'
  · exact .inl ⟨p', hp', rfl⟩
  · cases List.mem_singleton.1 hp'
    exact .inr h

theorem PaymentsGrow.map {step : Payment → Payment} (h : ∀ p, (step p).id = p.id) :
    PaymentsGrow tr ps (ps.map step) := by
  intro p' hp'
  obtain ⟨p, hp, rfl⟩ := List.mem_map.1 hp'
  exact .inl ⟨p, hp, h p⟩

end Lists

/-! ### Composition -/

theorem FilingEnvelope.Fixed.refl (filing : FilingEnvelope) : filing.Fixed filing := ⟨rfl, rfl, rfl, rfl, rfl, rfl, rfl⟩

theorem FilingEnvelope.Fixed.trans {a b c : FilingEnvelope} (h : a.Fixed b) (h' : b.Fixed c) : a.Fixed c where
  id := h'.id.trans h.id
  courtId := h'.courtId.trans h.courtId
  caseTypeId := h'.caseTypeId.trans h.caseTypeId
  filerId := h'.filerId.trans h.filerId
  creationKey := h'.creationKey.trans h.creationKey
  creationSha256 := h'.creationSha256.trans h.creationSha256
  filingType := h'.filingType.trans h.filingType

theorem FilingEnvelope.Counts.refl (filing : FilingEnvelope) : filing.Counts filing :=
  ⟨Nat.le_refl _, Nat.le_refl _, Nat.le_refl _, Nat.le_refl _⟩

theorem FilingEnvelope.Counts.trans {a b c : FilingEnvelope} (h : a.Counts b) (h' : b.Counts c) : a.Counts c where
  submissionCount := h.submissionCount.trans h'.submissionCount
  feeVersion := h.feeVersion.trans h'.feeVersion
  paymentVersion := h.paymentVersion.trans h'.paymentVersion
  filingDateVersion := h.filingDateVersion.trans h'.filingDateVersion

theorem FileGrows.of_parts {filing : FilingEnvelope} {documents : List FilingDocument} {uploads : List UploadRequest}
    {payments : List Payment} (hfixed : file.filing.Fixed filing) (hcounts : file.filing.Counts filing)
    (hdocs : DocumentsGrow tr file.documents documents) (hpays : PaymentsGrow tr file.payments payments) :
    FileGrows tr file ⟨filing, documents, uploads, file.transactions, payments, file.copies⟩ where
  fixed := hfixed
  counts := hcounts
  documents := hdocs
  transactions := ⟨[], by simp, by simp⟩
  copies := ⟨[], by simp, by simp⟩
  payments := hpays

theorem FileGrows.refl (tr : Trace) (file : FilingFile) : FileGrows tr file file :=
  .of_parts (.refl _) (.refl _) (.refl tr _) (.refl tr _)

theorem FileGrows.trans (h : FileGrows tr file₁ file₂) (h' : FileGrows tr file₂ file₃) : FileGrows tr file₁ file₃ where
  fixed := h.fixed.trans h'.fixed
  counts := h.counts.trans h'.counts
  documents := h.documents.trans h'.documents
  transactions := by
    obtain ⟨ts, hts, hnew⟩ := h.transactions
    obtain ⟨ts', hts', hnew'⟩ := h'.transactions
    refine ⟨ts ++ ts', by rw [hts', hts, List.append_assoc], fun t ht => ?_⟩
    exact (List.mem_append.1 ht).elim (hnew t) (hnew' t)
  copies := by
    obtain ⟨cs, hcs, hnew⟩ := h.copies
    obtain ⟨cs', hcs', hnew'⟩ := h'.copies
    refine ⟨cs ++ cs', by rw [hcs', hcs, List.append_assoc], fun c hc => ?_⟩
    exact (List.mem_append.1 hc).elim (hnew c) (hnew' c)
  payments := h.payments.trans h'.payments

theorem Recorded.grows {cfg : Settings} {event : EventType} {actorId : UserId} {key : Option Uuid} {details : Details}
    {t : FilingTransaction} (h : Recorded cfg tr file event actorId key details file' t) : FileGrows tr file file' where
  fixed := h.filing_eq ▸ .refl _
  counts := h.filing_eq ▸ .refl _
  documents := by
    rw [h.documents_eq]
    split
    · exact .retain _
    · exact .refl tr _
  transactions := ⟨[t], h.transactions_eq, by simpa using h.drew⟩
  copies := ⟨[], by simpa using h.copies_eq, by simp⟩
  payments := h.payments_eq ▸ .refl tr _

theorem Recorded.new {cfg : Settings} {event : EventType} {actorId : UserId} {key : Option Uuid} {details : Details}
    {t : FilingTransaction} (h : Recorded cfg tr file event actorId key details file' t) {P : FilingTransaction → Prop}
    (ht : P t) : ∀ u ∈ file'.transactions, u ∈ file.transactions ∨ P u := by
  intro u hu
  rw [h.transactions_eq] at hu
  rcases List.mem_append.1 hu with hu | hu
  · exact .inl hu
  · exact .inr (List.mem_singleton.1 hu ▸ ht)

theorem Recorded.unlike {cfg : Settings} {base : FilingFile} {event : EventType} {p : EventType → Bool}
    {actorId : UserId} {key : Option Uuid} {details : Details} {t : FilingTransaction}
    (h : Recorded cfg tr base event actorId key details file' t) (hbase : base.transactions = file.transactions)
    (hevent : p event = false) {P : FilingTransaction → Prop} :
    ∀ u ∈ file'.transactions, u ∈ file.transactions ∨ (p u.eventType = true → P u) := by
  rw [← hbase]
  refine h.new fun ht => ?_
  rw [h.event_eq, hevent] at ht
  cases ht

theorem Recorded.other {cfg : Settings} {base : FilingFile} {event e : EventType} {actorId : UserId} {key : Option Uuid}
    {details : Details} {t : FilingTransaction} (h : Recorded cfg tr base event actorId key details file' t)
    (hbase : base.transactions = file.transactions) (hevent : event ≠ e) {P : FilingTransaction → Prop} :
    ∀ u ∈ file'.transactions, u ∈ file.transactions ∨ (u.eventType = e → P u) := by
  simpa using h.unlike (p := (· == e)) hbase (by simpa using hevent) (P := P)

def FilingFile.events (file : FilingFile) (p : EventType → Bool) : List FilingTransaction :=
  file.transactions.filter fun t => p t.eventType

theorem FilingFile.mem_events {p : EventType → Bool} {t : FilingTransaction} :
    t ∈ file.events p ↔ t ∈ file.transactions ∧ p t.eventType = true := List.mem_filter

theorem FilingFile.events_congr (h : file'.transactions = file.transactions) (p : EventType → Bool) :
    file'.events p = file.events p := by
  rw [events, h]
  rfl

section Events

variable {cfg : Settings} {base : FilingFile} {event : EventType} {p : EventType → Bool} {actorId : UserId}
  {key : Option Uuid} {details : Details} {t : FilingTransaction}

theorem Recorded.events_concat (h : Recorded cfg tr base event actorId key details file' t) (hp : p event = true) :
    file'.events p = base.events p ++ [t] := by
  rw [FilingFile.events, h.transactions_eq, List.filter_append, List.filter_singleton, h.event_eq, hp]
  rfl

theorem Recorded.events_eq (h : Recorded cfg tr base event actorId key details file' t) (hp : p event = false) :
    file'.events p = base.events p := by
  rw [FilingFile.events, h.transactions_eq, List.filter_append, List.filter_singleton, h.event_eq, hp]
  exact List.append_nil _

end Events

section Dated

variable {cfg : Settings} {reviewerId : UserId} {receivedAt : Instant} {ordered : Bool} {dated : FilingFile}

theorem Dated.documents_eq (h : Dated cfg tr reviewerId receivedAt file ordered dated) :
    dated.documents = file.documents := by
  cases h with
  | ordered => rfl
  | kept => rfl
  | assessed calendars assessment hcal hassess previous _ t hrec => exact hrec.documents_eq

theorem Dated.payments_eq (h : Dated cfg tr reviewerId receivedAt file ordered dated) :
    dated.payments = file.payments := by
  cases h with
  | ordered => rfl
  | kept => rfl
  | assessed calendars assessment hcal hassess previous _ t hrec => exact hrec.payments_eq

theorem Dated.copies_eq (h : Dated cfg tr reviewerId receivedAt file ordered dated) : dated.copies = file.copies := by
  cases h with
  | ordered => rfl
  | kept => rfl
  | assessed calendars assessment hcal hassess previous _ t hrec => exact hrec.copies_eq

theorem Dated.uploads_eq (h : Dated cfg tr reviewerId receivedAt file ordered dated) :
    dated.uploads = file.uploads := by
  cases h with
  | ordered => rfl
  | kept => rfl
  | assessed calendars assessment hcal hassess previous _ t hrec => exact hrec.uploads_eq

theorem Dated.filing_eq (h : Dated cfg tr reviewerId receivedAt file ordered dated) :
    ∃ date basis, dated.filing = { file.filing with filingDate := date, filingDateBasis := basis } := by
  cases h with
  | ordered => exact ⟨_, _, rfl⟩
  | kept => exact ⟨_, _, rfl⟩
  | assessed calendars assessment hcal hassess previous _ t hrec => exact ⟨_, _, hrec.filing_eq⟩

theorem Dated.new (h : Dated cfg tr reviewerId receivedAt file ordered dated) {P : FilingTransaction → Prop}
    (hP : ∀ u, u.eventType = .filingDateAssessed → u.actorId = reviewerId → u.details.documents = none → P u) :
    ∀ u ∈ dated.transactions, u ∈ file.transactions ∨ P u := by
  cases h with
  | ordered => exact fun u hu => .inl hu
  | kept => exact fun u hu => .inl hu
  | assessed calendars assessment hcal hassess previous _ t hrec =>
      exact hrec.new (hP t hrec.event_eq hrec.actor_eq hrec.lists)

theorem Dated.unlike {base after : FilingFile} {event : EventType} {p : EventType → Bool} {actorId : UserId}
    {key : Option Uuid} {details : Details} {t : FilingTransaction}
    (h : Dated cfg tr reviewerId receivedAt base ordered dated)
    (hrec : Recorded cfg tr after event actorId key details file' t)
    (hafter : after.transactions = dated.transactions) (hbase : base.transactions = file.transactions)
    (hevent : p event = false) (hdate : p .filingDateAssessed = false) {P : FilingTransaction → Prop} :
    ∀ u ∈ file'.transactions, u ∈ file.transactions ∨ (p u.eventType = true → P u) := by
  intro u hu
  rcases hrec.unlike hafter hevent (P := P) u hu with hu | hu
  · rw [← hbase]
    refine h.new (P := fun u => p u.eventType = true → P u) (fun u hu _ _ ht => ?_) u hu
    rw [hu, hdate] at ht
    cases ht
  · exact .inr hu

theorem Dated.other {base after : FilingFile} {event e : EventType} {actorId : UserId} {key : Option Uuid}
    {details : Details} {t : FilingTransaction} (h : Dated cfg tr reviewerId receivedAt base ordered dated)
    (hrec : Recorded cfg tr after event actorId key details file' t) (hafter : after.transactions = dated.transactions)
    (hbase : base.transactions = file.transactions) (hevent : event ≠ e) (hdate : .filingDateAssessed ≠ e)
    {P : FilingTransaction → Prop} : ∀ u ∈ file'.transactions, u ∈ file.transactions ∨ (u.eventType = e → P u) := by
  simpa using h.unlike hrec (p := (· == e)) hafter hbase (by simpa using hevent) (by simpa using hdate) (P := P)

theorem Dated.events_eq (h : Dated cfg tr reviewerId receivedAt file ordered dated) {p : EventType → Bool}
    (hp : p .filingDateAssessed = false) : dated.events p = file.events p := by
  cases h with
  | ordered => rfl
  | kept => rfl
  | assessed calendars assessment hcal hassess previous _ t hrec => exact hrec.events_eq hp

end Dated

theorem Dated.grows {cfg : Settings} {reviewerId : UserId} {receivedAt : Instant} {ordered : Bool} {dated : FilingFile}
    (h : Dated cfg tr reviewerId receivedAt file ordered dated) : FileGrows tr file dated := by
  cases h with
  | ordered => exact .refl tr file
  | kept => exact .refl tr file
  | assessed calendars assessment hcal hassess previous _ t hrec =>
    refine .trans ?_ hrec.grows
    exact .of_parts ⟨rfl, rfl, rfl, rfl, rfl, rfl, rfl⟩ ⟨Nat.le_refl _, Nat.le_refl _, Nat.le_refl _, Nat.le_refl _⟩
      (.refl tr _) (.refl tr _)

/-! ## Steps -/

/-- **Every step of a filing lets it grow.** -/
theorem FileStep.grows {cfg : Settings} {r : Request} {db db' : Store} {f : FilingId}
    (h : FileStep cfg r db db' tr f file file') : FileGrows tr file file' := by
  have hle := Nat.le_refl
  have hsucc := Nat.le_succ
  cases h with
  | edited userId data hr h =>
    exact .of_parts ⟨rfl, rfl, rfl, rfl, rfl, rfl, rfl⟩ ⟨hle _, hle _, hle _, hle _⟩ (.refl tr _) (.refl tr _)
  | uploaded userId key form upload doc request hr h =>
    exact .of_parts ⟨rfl, rfl, rfl, rfl, rfl, rfl, rfl⟩ ⟨hle _, hsucc _, hle _, hle _⟩ (.concat h.new) (.refl tr _)
  | retired userId documentId doc time hr h hkeep =>
    exact .of_parts ⟨rfl, rfl, rfl, rfl, rfl, rfl, rfl⟩ ⟨hle _, hsucc _, hle _, hle _⟩
      (.map fun d => .ite ⟨rfl, rfl, rfl, rfl, rfl, rfl, fun h => h, fun _ => rfl⟩) (.refl tr _)
  | erased userId documentId doc hr h hkeep =>
    exact .of_parts ⟨rfl, rfl, rfl, rfl, rfl, rfl, rfl⟩ ⟨hle _, hsucc _, hle _, hle _⟩ .filter (.refl tr _)
  | feeReviewRequested userId data time t _ hr h hrec =>
    refine .trans ?_ hrec.grows
    exact .of_parts ⟨rfl, rfl, rfl, rfl, rfl, rfl, rfl⟩ ⟨hle _, hsucc _, hle _, hle _⟩ (.retain time) (.refl tr _)
  | feesAssessed userId data a time t saved hr h hrec =>
    have hsaved : FileGrows tr saved { saved with filing := { saved.filing with feeAssessmentId := some t.id } } :=
      .of_parts ⟨rfl, rfl, rfl, rfl, rfl, rfl, rfl⟩ ⟨hle _, hle _, hle _, hle _⟩ (.refl tr _) (.refl tr _)
    refine .trans ?_ (hrec.grows.trans hsaved)
    exact .of_parts ⟨rfl, rfl, rfl, rfl, rfl, rfl, rfl⟩ ⟨hle _, hsucc _, hle _, hle _⟩ (.retain time) (.refl tr _)
  | waiverReferred userId form time t _ hr haction h hrec =>
    refine .trans ?_ hrec.grows
    exact .of_parts ⟨rfl, rfl, rfl, rfl, rfl, rfl, rfl⟩ ⟨hle _, hsucc _, hle _, hle _⟩ (.refl tr _) (.refl tr _)
  | waiverDecided userId form time doc due t _ hr haction h hrec =>
    refine .trans ?_ hrec.grows
    exact .of_parts ⟨rfl, rfl, rfl, rfl, rfl, rfl, rfl⟩ ⟨hle _, hsucc _, hle _, hle _⟩ (.concat h.new) (.refl tr _)
  | paid userId data caseType payment snapshot t _ hr hf h hrec =>
    refine .trans ?_ hrec.grows
    exact .of_parts ⟨rfl, rfl, rfl, rfl, rfl, rfl, rfl⟩ ⟨hle _, hle _, hsucc _, hle _⟩ (.refl tr _) (.concat h.id_new)
  | credited userId key data account caseType basis id snapshot t _ hr h hid hamount hrec =>
    refine .trans ?_ hrec.grows
    exact .of_parts ⟨rfl, rfl, rfl, rfl, rfl, rfl, rfl⟩ ⟨hle _, hle _, hsucc _, hle _⟩ (.refl tr _) (.concat h.id_new)
  | reversed userId paymentId data payment snapshot t _ hr h hid hamount hrec =>
    refine .trans ?_ hrec.grows
    refine .of_parts ⟨rfl, rfl, rfl, rfl, rfl, rfl, rfl⟩ ⟨hle _, hle _, hsucc _, hle _⟩ (.refl tr _) (.map fun p => ?_)
    split <;> rfl
  | submitted userId key token seen caseType time date basis t _ hr h hdate hrec =>
    refine .trans ?_ hrec.grows
    exact .of_parts ⟨rfl, rfl, rfl, rfl, rfl, rfl, rfl⟩ ⟨hsucc _, hle _, hle _, hsucc _⟩ (.refl tr _) (.refl tr _)
  | accepted userId count time receivedAt seen order dated caseId cmsFilingId cmsCaseNumber t _ hr h hacc
      hreceived hdated
      hcase hrec =>
    have hreviewed : FileGrows tr file { file with filing := file.filing.reviewedBy userId time } :=
      .of_parts ⟨rfl, rfl, rfl, rfl, rfl, rfl, rfl⟩ ⟨hle _, hle _, hle _, hle _⟩ (.refl tr _) (.refl tr _)
    refine (hreviewed.trans hdated.grows).trans (.trans ?_ hrec.grows)
    exact .of_parts ⟨rfl, rfl, rfl, rfl, rfl, rfl, rfl⟩ ⟨hle _, hle _, hle _, hsucc _⟩ (.refl tr _) (.refl tr _)
  | cmsFailed userId count time receivedAt seen order dated error t _ hr h hacc hreceived hdated hrec =>
    have hreviewed : FileGrows tr file { file with filing := file.filing.reviewedBy userId time } :=
      .of_parts ⟨rfl, rfl, rfl, rfl, rfl, rfl, rfl⟩ ⟨hle _, hle _, hle _, hle _⟩ (.refl tr _) (.refl tr _)
    refine (hreviewed.trans hdated.grows).trans (.trans ?_ hrec.grows)
    exact .of_parts ⟨rfl, rfl, rfl, rfl, rfl, rfl, rfl⟩ ⟨hle _, hle _, hle _, hsucc _⟩ (.refl tr _) (.refl tr _)
  | declined userId count action time status event reason t _ hr h haction hrec =>
    refine .trans ?_ hrec.grows
    exact .of_parts ⟨rfl, rfl, rfl, rfl, rfl, rfl, rfl⟩ ⟨hle _, hle _, hle _, hsucc _⟩ (.refl tr _) (.refl tr _)
  | dateOrdered userId form doc change t _ hr h hrec =>
    refine .trans ?_ hrec.grows
    exact .of_parts ⟨rfl, rfl, rfl, rfl, rfl, rfl, rfl⟩ ⟨hle _, hle _, hle _, hsucc _⟩ (.concat h.new) (.refl tr _)
  | copyPrepared userId documentId title upload doc copy hr h hblock hid hkey hdoc =>
    exact { FileGrows.refl tr file with copies := ⟨[copy], rfl, by simpa using ⟨hid, hkey⟩⟩ }
  | published userId documentId data doc copy g probe rows t _ hr h hblock hindexed hprobe hrows hcopy hdoc hrec =>
    refine .trans ?_ hrec.grows
    exact .of_parts (.refl _) (.refl _)
      (.map fun d => .ite ⟨rfl, rfl, rfl, rfl, rfl, rfl, fun h => h, fun h => h⟩) (.refl tr _)
  | withheld userId documentId data doc t _ hr h hrec =>
    refine .trans ?_ hrec.grows
    exact .of_parts (.refl _) (.refl _)
      (.map fun d => .ite ⟨rfl, rfl, rfl, rfl, rfl, rfl, fun h => h, fun h => h⟩) (.refl tr _)

end Muefs
