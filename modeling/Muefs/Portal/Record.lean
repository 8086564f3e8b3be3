import Muefs.Model.Store

/-!
# The filing's record

* `recordTransaction` : append a transaction, retain what a receipt lists, and queue the filer's notice;
* `Recorded` : what it returns; `recordTransaction_meets` : it returns that and writes the notice only.
-/

namespace Muefs
open RowLocks

abbrev Trace := List (Entry View)

/-- Submissions and service records: the transactions that list a filing as a whole. -/
def EventType.isReceipt (event : EventType) : Bool := event == .submitted || event == .serviceRecorded

/-- `if doc.retained_at is None: doc.retained_at = now` -/
def FilingDocument.retain (time : Instant) (doc : FilingDocument) : FilingDocument :=
  if doc.isCurrent && doc.retainedAt.isNone then { doc with retainedAt := some time } else doc

/-- Retain the current documents. -/
def FilingFile.retain (file : FilingFile) (time : Instant) : FilingFile :=
  { file with documents := file.documents.map (FilingDocument.retain time) }

/-- Append a transaction. -/
def FilingFile.record (file : FilingFile) (transaction : FilingTransaction) : FilingFile :=
  { file with transactions := file.transactions ++ [transaction] }

section Fields

variable (file : FilingFile) (time : Instant) (t : FilingTransaction)

@[simp] theorem FilingFile.retain_filing : (file.retain time).filing = file.filing := rfl
@[simp] theorem FilingFile.retain_documents :
    (file.retain time).documents = file.documents.map (FilingDocument.retain time) := rfl
@[simp] theorem FilingFile.retain_transactions : (file.retain time).transactions = file.transactions := rfl
@[simp] theorem FilingFile.retain_payments : (file.retain time).payments = file.payments := rfl
@[simp] theorem FilingFile.retain_copies : (file.retain time).copies = file.copies := rfl
@[simp] theorem FilingFile.record_filing : (file.record t).filing = file.filing := rfl
@[simp] theorem FilingFile.record_documents : (file.record t).documents = file.documents := rfl
@[simp] theorem FilingFile.record_transactions : (file.record t).transactions = file.transactions ++ [t] := rfl
@[simp] theorem FilingFile.record_payments : (file.record t).payments = file.payments := rfl
@[simp] theorem FilingFile.record_copies : (file.record t).copies = file.copies := rfl

end Fields

/-- `[FilingDocumentResponse.model_validate(doc).model_dump(mode="json") for doc in filing.documents]` -/
def FilingFile.documentResponses (file : FilingFile) : List DocumentResponse :=
  file.currentDocuments.map FilingDocument.response

def Payment.snapshot (payment : Payment) : PaymentSnapshot where
  id := payment.id
  amountCents := payment.amountCents
  transactionRef := payment.transactionRef
  status := some payment.status
  isSimulated := payment.isSimulated
  externalReceipt := payment.externalReceipt

def FilingFeeState.snapshot (fees : FilingFeeState) : FeeAssessmentSnapshot where
  source := fees.source
  assessmentId := fees.assessmentId
  version := fees.version
  authorityReference := fees.authorityReference
  items := fees.items
  totalCents := fees.totalCents
  paidCents := fees.paidCents
  balanceDueCents := fees.balanceDueCents
  overpaidCents := fees.overpaidCents

/-- `db.get(Case, filing.case_id) if filing.case_id else None` -/
def lookCase : Option CaseId → Portal (Option CaseFile)
  | some id => look (.case id)
  | none => return none

/-- The details of a submission. -/
def receiptDetails (cfg : Settings) (file : FilingFile) (court : Option Court) : Portal Details := do
  let case ← lookCase file.filing.caseId
  let caseType ← look (.caseType file.filing.caseTypeId)
  return {
    documents := some file.documentResponses
    filingDateBasis := file.filing.filingDateBasis
    receipt := some {
      courtId := file.filing.courtId
      courtName := (court.map Court.name).getD s!"Court #{file.filing.courtId}"
      caseId := file.filing.caseId
      caseNumber := case.map (·.row.caseNumber)
      caseTitle := file.filing.caseTitle
      filingType := file.filing.filingType
      filingDescription := file.filing.filingDescription
      feeWaiverRequested := file.filing.feeWaiverRequested
      payments := file.payments.map Payment.snapshot
      feeAssessment := (feeState cfg file caseType none).snapshot } }

/-- `if reason: details = {**details, "reason": reason}`; an empty reason is not written. -/
def Details.because (details : Details) : Option String → Details
  | some text => if text = "" then details else { details with reason := some text }
  | none => details

theorem Details.because_eq (details : Details) (reason : Option String) :
    ∃ why, details.because reason = { details with reason := why } := by
  cases reason with
  | none => exact ⟨details.reason, rfl⟩
  | some text =>
    by_cases ht : text = ""
    · exact ⟨details.reason, by simp [because, ht]⟩
    · exact ⟨some text, by simp [because, ht]⟩

/-- The branches of `record_transaction` on the event: details, time, and the filing with what they retain. -/
def eventDetails (cfg : Settings) (file : FilingFile) (event : EventType) (court : Option Court) (time : Instant)
    (details : Details) : Portal (Details × Instant × FilingFile) :=
  if event.isReceipt = true then do
    let time := file.filing.submittedAt.getD time
    let details ← receiptDetails cfg file court
    return (details, time, file.retain time)
  else if event = .accepted then
    return ({ details with
      caseId := file.filing.caseId
      cmsCaseNumber := file.filing.cmsCaseNumber
      cmsFilingId := file.filing.cmsFilingId
      filingDateBasis := file.filing.filingDateBasis }, time, file)
  else return (details, time, file)

/-- `notify_filing_status_change` -/
def notifyFilingStatusChange (cfg : Settings) (filing : FilingEnvelope) (event : EventType) : Portal Unit := do
  let noticeId ← newId
  let user ← look (.user filing.filerId)
  let time ← now
  let messageId ← newId
  let notice ← ofExcept <|
    queueEmail cfg (noticeOf noticeId filing event) none (user.map Account.user) time messageId none none
  write (.notice noticeId) fun _ => some notice

/-- `record_transaction`. It answers with the filing as it is afterwards and the new transaction. -/
def recordTransaction (cfg : Settings) (file : FilingFile) (event : EventType) (actorId : UserId)
    (reason : Option String) (idempotencyKey : Option Uuid) (details : Details) :
    Portal (FilingFile × FilingTransaction) := do
  let actor ← look (.user actorId)
  let court ← look (.court file.filing.courtId)
  let time ← now
  let (details, time, file) ← eventDetails cfg file event court time (details.because reason)
  -- `uq_filing_submission_key`
  require (idempotencyKey = none ∨ ∀ t ∈ file.transactions, t.idempotencyKey ≠ idempotencyKey)
    (.integrity "uq_filing_submission_key")
  let id ← newId
  let transaction : FilingTransaction := {
    id
    submissionNumber := file.filing.submissionCount
    eventType := event
    actorId
    actorName := (actor.map (·.user.fullName)).getD s!"User #{actorId}"
    occurredAt := time
    details
    idempotencyKey }
  if event = .cmsFailed then return (file.record transaction, transaction)
  else do
    notifyFilingStatusChange cfg file.filing event
    return (file.record transaction, transaction)

/-! ## What it does -/

/-- A notice to the filer of this filing. -/
def IsNotice (filing : FilingEnvelope) : (g : Row) → View g → Prop
  | .notice id, v => ∃ notice, v = some notice ∧ notice.id = id ∧ notice.recipientId = filing.filerId ∧
    notice.filingEnvelopeId = some filing.id
  | _, _ => False

theorem IsNotice.congr {filing filing' : FilingEnvelope} (hid : filing.id = filing'.id)
    (hfiler : filing.filerId = filing'.filerId) : ∀ g v, IsNotice filing g v → IsNotice filing' g v := by
  intro g v h
  cases g with
  | notice id =>
    obtain ⟨notice, rfl, h₁, h₂, h₃⟩ := h
    exact ⟨notice, rfl, h₁, h₂.trans hfiler, h₃.trans (by rw [hid])⟩
  | _ => exact h.elim

/-- What `record_transaction` does to a filing. -/
structure Recorded (cfg : Settings) (tr : Trace) (file : FilingFile) (event : EventType) (actorId : UserId)
    (idempotencyKey : Option Uuid) (details : Details) (file' : FilingFile) (t : FilingTransaction) : Prop where
  file_eq : file' = (if event.isReceipt then file.retain t.occurredAt else file).record t
  drew : ⟨.fresh, t.id⟩ ∈ tr
  event_eq : t.eventType = event
  actor_eq : t.actorId = actorId
  number_eq : t.submissionNumber = file.filing.submissionCount
  key_eq : t.idempotencyKey = idempotencyKey
  key_new : idempotencyKey = none ∨ ∀ u ∈ file.transactions, u.idempotencyKey ≠ idempotencyKey
  lists : t.details.documents = if event.isReceipt then some file.documentResponses else details.documents
  kept : event.isReceipt = false → event ≠ .accepted → ∃ why, t.details = { details with reason := why }
  receipt : event.isReceipt = true → ∃ d, t.details.receipt = some d ∧ d.courtId = file.filing.courtId ∧
    d.caseId = file.filing.caseId ∧ d.filingType = file.filing.filingType

section Recorded

variable {cfg : Settings} {tr : Trace} {file file' : FilingFile} {event : EventType} {actorId : UserId}
  {idempotencyKey : Option Uuid} {details : Details} {t : FilingTransaction}

theorem Recorded.filing_eq (h : Recorded cfg tr file event actorId idempotencyKey details file' t) :
    file'.filing = file.filing := by
  rw [h.file_eq]
  split <;> rfl

theorem Recorded.documents_eq (h : Recorded cfg tr file event actorId idempotencyKey details file' t) :
    file'.documents = if event.isReceipt then file.documents.map (FilingDocument.retain t.occurredAt)
      else file.documents := by
  rw [h.file_eq]
  split <;> rfl

theorem Recorded.transactions_eq (h : Recorded cfg tr file event actorId idempotencyKey details file' t) :
    file'.transactions = file.transactions ++ [t] := by
  rw [h.file_eq]
  split <;> rfl

theorem Recorded.payments_eq (h : Recorded cfg tr file event actorId idempotencyKey details file' t) :
    file'.payments = file.payments := by
  rw [h.file_eq]
  split <;> rfl

theorem Recorded.copies_eq (h : Recorded cfg tr file event actorId idempotencyKey details file' t) :
    file'.copies = file.copies := by
  rw [h.file_eq]
  split <;> rfl

theorem Recorded.uploads_eq (h : Recorded cfg tr file event actorId idempotencyKey details file' t) :
    file'.uploads = file.uploads := by
  rw [h.file_eq]
  split <;> rfl

theorem Recorded.mono (h : Recorded cfg tr file event actorId idempotencyKey details file' t) {tr' : Trace}
    (htr : ∀ e ∈ tr, e.Heard → e ∈ tr') : Recorded cfg tr' file event actorId idempotencyKey details file' t :=
  { h with drew := htr _ h.drew trivial }

end Recorded

abbrev Quiet (tr : Trace) : Prop := Writes (fun _ _ => False) tr

theorem lookCase_meets (db : Store) (id : Option CaseId) :
    Meets db (lookCase id) fun tr _ => Quiet tr := by
  cases id <;> simp [lookCase, Writes]

theorem receiptDetails_meets (cfg : Settings) (db : Store) (file : FilingFile) (court : Option Court) :
    Meets db (receiptDetails cfg file court) fun tr details =>
      Quiet tr ∧ details.documents = some file.documentResponses ∧ ∃ d, details.receipt = some d ∧
        d.courtId = file.filing.courtId ∧ d.caseId = file.filing.caseId ∧ d.filingType = file.filing.filingType := by
  simp only [receiptDetails, meets_bind, meets_look, meets_pure]
  refine (lookCase_meets db _).mono fun tr _ htr _ => ?_
  simp [Writes, htr]

theorem eventDetails_meets (cfg : Settings) (db : Store) (file : FilingFile) (event : EventType)
    (court : Option Court) (time : Instant) (details : Details) :
    Meets db (eventDetails cfg file event court time details) fun tr r =>
      Quiet tr ∧ r.2.2 = (if event.isReceipt then file.retain r.2.1 else file) ∧
      r.1.documents = (if event.isReceipt then some file.documentResponses else details.documents) ∧
      (event.isReceipt = false → event ≠ .accepted → r.1 = details) ∧
      (event.isReceipt = true → ∃ d, r.1.receipt = some d ∧ d.courtId = file.filing.courtId ∧
        d.caseId = file.filing.caseId ∧ d.filingType = file.filing.filingType) := by
  simp only [eventDetails, meets_ite, meets_bind, meets_pure]
  refine ⟨fun hr => ?_, fun hr => ⟨fun ha => ?_, fun ha => ?_⟩⟩
  · refine (receiptDetails_meets cfg db file court).mono fun tr details htr => ?_
    simp [htr, hr]
  · subst ha
    simp [Writes, EventType.isReceipt]
  · simp [Writes, hr]

theorem notifyFilingStatusChange_meets (cfg : Settings) (db : Store) (filing : FilingEnvelope) (event : EventType) :
    Meets db (notifyFilingStatusChange cfg filing event) fun tr _ => Writes (IsNotice filing) tr := by
  simp only [notifyFilingStatusChange, meets_bind, meets_newId, meets_look, meets_now, meets_ofExcept, meets_write]
  intro noticeId user time messageId notice hq
  obtain ⟨hid, hto, hof⟩ := queueEmail_kept hq
  simp [Writes, IsNotice, hid, hto, hof, noticeOf]

theorem Quiet.writes {P : (g : Row) → View g → Prop} {tr : Trace} (h : Quiet tr) : Writes P tr :=
  h.mono fun _ _ hf => hf.elim

theorem Quiet.commit {tr : Trace} (h : Quiet tr) (db : Store) : commit tr db = db :=
  funext fun g => (Writes.commit h db g).resolve_right id

theorem recordTransaction_meets (cfg : Settings) (db : Store) (file : FilingFile) (event : EventType)
    (actorId : UserId) (reason : Option String) (idempotencyKey : Option Uuid) (details : Details) :
    Meets db (recordTransaction cfg file event actorId reason idempotencyKey details) fun tr r =>
      Writes (IsNotice file.filing) tr ∧ Recorded cfg tr file event actorId idempotencyKey details r.1 r.2 := by
  simp only [recordTransaction, meets_bind, meets_look, meets_now, meets_require, meets_newId, meets_ite, meets_pure]
  intro actor court time
  obtain ⟨why, hwhy⟩ := details.because_eq reason
  rw [hwhy]
  refine (eventDetails_meets cfg db file event court time _).mono ?_
  rintro tr ⟨d, time', file'⟩ ⟨hq, hfile, hdocs, hkept, hreceipt⟩ hkey id
  simp only at hfile hdocs hkept hreceipt hkey
  have hsame : file'.filing = file.filing ∧ file'.transactions = file.transactions := by
    rw [hfile]
    split <;> exact ⟨rfl, rfl⟩
  rw [hsame.1]
  have hrec : ∀ tr' : Trace, ⟨.fresh, id⟩ ∈ tr' → Recorded cfg tr' file event actorId idempotencyKey details
      (file'.record ⟨id, file.filing.submissionCount, event, actorId,
        (actor.map (·.user.fullName)).getD s!"User #{actorId}", time', d, idempotencyKey⟩)
      ⟨id, file.filing.submissionCount, event, actorId,
        (actor.map (·.user.fullName)).getD s!"User #{actorId}", time', d, idempotencyKey⟩ := by
    intro tr' hid
    exact {
      file_eq := by rw [hfile]
      drew := hid
      event_eq := rfl
      actor_eq := rfl
      number_eq := rfl
      key_eq := rfl
      key_new := by rwa [hsame.2] at hkey
      lists := hdocs
      kept := fun hr ha => ⟨why, hkept hr ha⟩
      receipt := hreceipt }
  refine ⟨fun _ => ⟨?_, hrec _ (by simp)⟩, fun _ => ?_⟩
  · simp [Writes, hq.writes]
  · refine (notifyFilingStatusChange_meets cfg db file.filing event).mono fun tr' _ htr' => ⟨?_, hrec _ (by simp)⟩
    simp [Writes, hq.writes, htr']

theorem recordTransaction_reason (cfg : Settings) (db : Store) (file : FilingFile) {event : EventType}
    (actorId : UserId) {text : String} (idempotencyKey : Option Uuid) (details : Details)
    (hr : event.isReceipt = false) (ha : event ≠ .accepted) (htext : text ≠ "") :
    Meets db (recordTransaction cfg file event actorId (some text) idempotencyKey details) fun _ r =>
      r.2.details.reason.isSome = true := by
  simp only [recordTransaction, eventDetails, hr, ha, Bool.false_eq_true, if_false, meets_bind, meets_look, meets_now,
    meets_require, meets_newId, meets_ite, meets_pure, Details.because, htext]
  intro actor court time hkey id
  refine ⟨fun _ => rfl, fun _ => ?_⟩
  exact (notifyFilingStatusChange_meets cfg db file.filing event).mono fun _ _ _ => rfl

end Muefs
