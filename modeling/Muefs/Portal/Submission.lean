import Muefs.Portal.Destination

/-!
# Checks and submission

* `verifyFilingDocuments` : read every stored document and compare it with its record;
* `validateFiling` : the documents that the court requires;
* `checkSubmission` : request key, token, status, fees and documents of a submission;
* `submitFiling` : check, verify, lock, check again and record.
-/

namespace Muefs
open RowLocks

/-! ## Stored documents -/

/-- The loop of `verify_filing_documents`. -/
def verifyDocuments : List FilingDocument → Portal Unit
  | [] => return ()
  | doc :: docs => do
    let stored ← look (.object doc.fileKey)
    let content ← expect stored (.document ("Stored document '" ++ doc.title ++ "' is unavailable. " ++
      "Retry when storage is available, or contact the court to restore the file."))
    require (Digest.of content = doc.sha256Hash ∧ content.length = doc.fileSizeBytes)
      (.document ("Stored document '" ++ doc.title ++ "' does not match its recorded fingerprint or size. " ++
        "Replace the draft attachment or contact the court to restore the original."))
    verifyDocuments docs

/-- `verify_filing_documents` -/
def verifyFilingDocuments (file : FilingFile) (courtOrder : Option FilingDocument) : Portal Unit := do
  require (file.currentDocuments ≠ []) (.document "The filing has no current documents to verify")
  verifyDocuments (file.currentDocuments ++ courtOrder.toList)

/-- The bytes of this document were read and matched in this trace. -/
def Verified (tr : Trace) (doc : FilingDocument) : Prop :=
  ∃ content : Content, ⟨.look (.object doc.fileKey), some content⟩ ∈ tr ∧
    Digest.of content = doc.sha256Hash ∧ content.length = doc.fileSizeBytes

theorem Verified.mono {tr tr' : Trace} {doc : FilingDocument} (h : Verified tr doc)
    (htr : ∀ e ∈ tr, e.Heard → e ∈ tr') : Verified tr' doc := by
  obtain ⟨content, hc, h⟩ := h
  exact ⟨content, htr _ hc trivial, h⟩

theorem verifyDocuments_meets (db : Store) (docs : List FilingDocument) :
    Meets db (verifyDocuments docs) fun tr _ => Quiet tr ∧ ∀ doc ∈ docs, Verified tr doc := by
  induction docs with
  | nil => simp [verifyDocuments, Writes]
  | cons doc docs ih =>
    simp only [verifyDocuments, meets_bind, meets_look, meets_expect, meets_require]
    rintro stored content rfl ⟨hhash, hsize⟩
    refine ih.mono ?_
    rintro tr _ ⟨hq, hv⟩
    refine ⟨by simp [Writes, hq], fun d hd => ?_⟩
    rcases List.mem_cons.1 hd with rfl | hd
    · exact ⟨content, by simp, hhash, hsize⟩
    · obtain ⟨c, hc, h⟩ := hv d hd
      exact ⟨c, by simp [hc], h⟩

theorem verifyFilingDocuments_meets (db : Store) (file : FilingFile) (courtOrder : Option FilingDocument) :
    Meets db (verifyFilingDocuments file courtOrder) fun tr _ => Quiet tr ∧ file.currentDocuments ≠ [] ∧
      ∀ doc ∈ file.currentDocuments ++ courtOrder.toList, Verified tr doc := by
  simp only [verifyFilingDocuments, meets_bind, meets_require]
  intro hne
  exact (verifyDocuments_meets db _).mono fun tr _ h => ⟨h.1, hne, h.2⟩

/-- The stored objects that this trace read are those of these documents. -/
def ReadsOnly (tr : Trace) (docs : List FilingDocument) : Prop :=
  ∀ key v, ⟨.look (.object key), v⟩ ∈ tr → ∃ doc ∈ docs, doc.fileKey = key

theorem ReadsOnly.append {tr tr' : Trace} {docs : List FilingDocument} (h : ReadsOnly tr docs)
    (h' : ReadsOnly tr' docs) : ReadsOnly (tr ++ tr') docs :=
  fun key v hv => (List.mem_append.1 hv).elim (h key v) (h' key v)

theorem ReadsOnly.mono {tr : Trace} {docs docs' : List FilingDocument} (h : ReadsOnly tr docs)
    (hdocs : ∀ doc ∈ docs, doc ∈ docs') : ReadsOnly tr docs' := fun key v hv => by
  obtain ⟨doc, hdoc, hkey⟩ := h key v hv
  exact ⟨doc, hdocs doc hdoc, hkey⟩

theorem verifyDocuments_reads (db : Store) (docs : List FilingDocument) :
    Meets db (verifyDocuments docs) fun tr _ => ReadsOnly tr docs := by
  induction docs with
  | nil => simp [verifyDocuments, ReadsOnly]
  | cons doc docs ih =>
    simp only [verifyDocuments, meets_bind, meets_look, meets_expect, meets_require]
    rintro stored content rfl _
    refine ih.mono fun tr _ h key v hv => ?_
    simp only [List.nil_append, List.singleton_append, List.mem_cons, Entry.mk.injEq] at hv
    rcases hv with ⟨hop, _⟩ | hv
    · cases hop
      exact ⟨doc, by simp, rfl⟩
    · obtain ⟨d, hd, hkey⟩ := h key v hv
      exact ⟨d, by simp [hd], hkey⟩

theorem verifyFilingDocuments_reads (db : Store) (file : FilingFile) (courtOrder : Option FilingDocument) :
    Meets db (verifyFilingDocuments file courtOrder) fun tr _ =>
      ReadsOnly tr (file.currentDocuments ++ courtOrder.toList) := by
  simp only [verifyFilingDocuments, meets_bind, meets_require]
  exact fun _ => verifyDocuments_reads db _

/-! ## Required documents -/

/-- `_SERVICE_PROOF_CODES` -/
def serviceProofCodes : List String := ["PROOF_SERVICE", "POS_ELECTRONIC", "CERT_SERVICE"]

/-- `_DISCOVERY_MOTION_CODES` -/
def discoveryMotionCodes : List String := ["MOT_COMPEL", "MOT_PROTECTIVE", "MOT_SANCTIONS"]

/-- `_is_motion_code` -/
def isMotionCode (cfg : Settings) (code : String) : Bool :=
  let c := cfg.upper code
  startsWith c "MOT_" ||
    ["MOTION", "BRIEF", "BRIEF_SUPPORT", "BRIEF_RESPONSE", "BRIEF_REPLY", "PROPOSED_ORDER", "NOT_HEARING",
      "NOTICE_HEARING", "DISC_CERT_GF"].contains c ||
    contains c "MOTION" || contains c "BRIEF"

/-- `_is_response_code` -/
def isResponseCode (cfg : Settings) (code : String) : Bool :=
  let c := cfg.upper code
  ["ANSWER", "REPLY", "RESPONSE_BRIEF", "BRIEF_RESPONSE", "BRIEF_REPLY"].contains c ||
    contains c "ANSWER" || contains c "REPLY"

/-- `requirements_for_filing_type` -/
def requirementsForFilingType (cfg : Settings) (requirements : List FilingRequirement) :
    FilingType → List FilingRequirement
  | .initial => requirements.filter fun r =>
    !(isMotionCode cfg r.documentTypeCode || isResponseCode cfg r.documentTypeCode ||
      serviceProofCodes.contains (cfg.upper r.documentTypeCode))
  | .subsequent | .motion => requirements.filter fun r => isMotionCode cfg r.documentTypeCode
  | _ => requirements

/-- A document type that opens a motion. -/
def isMotionType (code : String) : Bool := startsWith code "MOT_" || code == "MOTION"

/-- One required document is among the filed types, or need not be. -/
def requirementSatisfied (filed : List String) (code : String) : Bool :=
  filed.contains code || (isMotionType code && filed.any isMotionType) ||
    (code == "DISC_CERT_GF" && !filed.any discoveryMotionCodes.contains)

structure FilingValidationResult where
  isValid : Bool
  errors : List String
  missingRequiredDocuments : List String

/-- `validate_filing`; its warnings change nothing and are left out. -/
def validateFiling (cfg : Settings) (file : FilingFile) (requirements : List FilingRequirement) :
    FilingValidationResult :=
  let filing := file.filing
  let filed := file.currentDocuments.map FilingDocument.documentTypeCode
  let serviceOnly := filing.filingType == .serviceOnly
  let required := requirements.filter fun r => r.caseTypeId == some filing.caseTypeId && r.isRequired
  let required := requirementsForFilingType cfg required filing.filingType
  let required := if filing.filingType == .subsequent && !filed.any isMotionType then [] else required
  let errors :=
    (if file.currentDocuments.isEmpty then ["At least one document must be uploaded"] else []) ++
    if serviceOnly then
      if filing.caseId.isNone then ["Service-only filings must reference an existing case"] else []
    else if filing.caseTitle.all (· == "") && filing.caseId.isNone then
      ["Case title is required for new case filings"]
    else []
  let missing :=
    (if filing.waiverPending && !filed.contains "FEE_WAIVER" then
      ["Completed, signed Fee Waiver Request (MC 20), nonpublic"] else []) ++
    if serviceOnly then []
    else (required.filter fun r => !requirementSatisfied filed r.documentTypeCode).map fun r =>
      r.description ++ match r.mcrReference with
        | some text => if text = "" then "" else ". See " ++ text ++ "."
        | none => ""
  { isValid := errors.isEmpty && missing.isEmpty
    errors
    missingRequiredDocuments := missing }

/-- The text of the refusal of an incomplete filing. -/
def FilingValidationResult.refusal (result : FilingValidationResult) : String :=
  "Filing validation failed. " ++ " | ".intercalate (
    (if result.errors.isEmpty then [] else ["Errors: " ++ "; ".intercalate result.errors]) ++
    if result.missingRequiredDocuments.isEmpty then []
    else ["Missing documents: " ++ "; ".intercalate result.missingRequiredDocuments])

/-! ## Submission -/

/-- Draft or returned: the filer may still change the filing. -/
def FilingStatus.isOpen (status : FilingStatus) : Bool := status == .draft || status == .returned

/-- This request key has recorded a transaction. -/
def FilingFile.hasKey (file : FilingFile) (key : Option Uuid) : Bool :=
  key.isSome && file.transactions.any fun t => t.idempotencyKey == key

/-- The related rows as a further query finds them: unchanged under the envelope's lock, as of now without it. -/
def relatedRows (locked : Bool) (file : FilingFile) : Portal FilingFile :=
  if locked = true then return file
  else do
    let later ← look (.envelope file.filing.id)
    return match later with
      | some later => { later with filing := file.filing, documents := file.documents }
      | none => file

/-- `check_submission`. It answers whether this request is recorded already. -/
def checkSubmission (cfg : Settings) (locked : Bool) (file : FilingFile) (token : SubmissionToken)
    (key : Option Uuid) : Portal Bool := do
  let recorded ← relatedRows locked file
  if recorded.hasKey key = true then return true
  else do
    require (token = file.submissionToken) (.submission 409 ("This filing changed after you opened the review. " ++
      "Refresh the review and check the saved details and documents before submitting."))
    require (file.filing.status.isOpen = true) (.submission 400 "Only draft or returned filings can be submitted")
    let charged ← relatedRows locked file
    let caseType ← look (.caseType file.filing.caseTypeId)
    require ((feeState cfg charged caseType none).obligationMet = true)
      (.submission 402 "Payment required before submission")
    let requirements ← look (.requirements file.filing.courtId)
    require ((validateFiling cfg file requirements).isValid = true)
      (.submission 400 (validateFiling cfg file requirements).refusal)
    return false

/-- The filing date of a first submission. -/
def submittedDate (cfg : Settings) (filing : FilingEnvelope) (filedAt : Instant) :
    Portal (Option Date × Option DateBasis) :=
  if filing.filingType ≠ .serviceOnly ∧ filing.filingDate = none then do
    let calendars ← look (.calendars filing.courtId)
    let assessment ← ofExcept (filingDateForReceipt cfg calendars filedAt)
    return (assessment.filingDate, some (.calendar assessment))
  else return (filing.filingDate, filing.filingDateBasis)

/-- The envelope of a submission at `time`. -/
def FilingEnvelope.submittedNow (filing : FilingEnvelope) (time : Instant) (filingDate : Option Date)
    (basis : Option DateBasis) : FilingEnvelope :=
  { filing with
    filedAt := some ((filing.filedAt.or filing.submittedAt).getD time)
    submittedAt := some time
    reviewedAt := none
    reviewerId := none
    rejectionReason := none
    cmsError := none
    submissionCount := filing.submissionCount + 1
    filingDateVersion := filing.filingDateVersion + 1
    filingDate
    filingDateBasis := basis
    status := if filing.filingType = .serviceOnly then .served else .submitted }

/-- The event of a submission. -/
def FilingEnvelope.receiptEvent (filing : FilingEnvelope) : EventType :=
  if filing.filingType = .serviceOnly then .serviceRecorded else .submitted

theorem FilingEnvelope.receiptEvent_isReceipt (filing : FilingEnvelope) : filing.receiptEvent.isReceipt = true := by
  unfold receiptEvent
  split <;> rfl

/-- The part of `submit_filing` after its last check. -/
def recordSubmission (cfg : Settings) (filingId : FilingId) (file : FilingFile) (key : Option Uuid) :
    Portal FilingFile := do
  let time ← now
  let filedAt := (file.filing.filedAt.or file.filing.submittedAt).getD time
  let (filingDate, basis) ← submittedDate cfg file.filing filedAt
  let (saved, _) ← recordTransaction cfg { file with filing := file.filing.submittedNow time filingDate basis }
    file.filing.receiptEvent file.filing.filerId none key {}
  saveFiling filingId saved
  return saved

/-- How `submit_filing` ends, when it does not raise anything else. -/
inductive SubmitOutcome where
  /-- `SubmissionAlreadyRecordedError` -/
  | alreadyRecorded (file : FilingFile)
  | notSubmittable
  | submitted (file : FilingFile)

/-- The part of `submit_filing` that holds the envelope's lock. -/
def submitLocked (cfg : Settings) (account : Account) (filingId : FilingId) (key : Option Uuid)
    (token : SubmissionToken) (fingerprints : List Fingerprint) : Portal SubmitOutcome := do
  let row ← lockFiling filingId
  match row with
  | none => return .notSubmittable
  | some file => do
    let recorded ← checkSubmission cfg true file token key
    if recorded = true then return .alreadyRecorded file
    else if file.filing.status.isOpen = true then do
      let _ ← validateFilingDestination file.filing.destination (some ⟨file.filing.filerId, account⟩) true
      require (file.currentDocuments.map FilingDocument.fingerprint = fingerprints) (.document
        "Stored documents changed after integrity verification. Review the draft and try again.")
      let saved ← recordSubmission cfg filingId file key
      return .submitted saved
    else return .notSubmittable

/-- `submit_filing`. `account` is the filer's, locked by the endpoint. -/
def submitFiling (cfg : Settings) (account : Account) (filingId : FilingId) (key : Option Uuid)
    (token : SubmissionToken) : Portal SubmitOutcome := do
  let row ← getFiling filingId
  match row with
  | none => return .notSubmittable
  | some probe => do
    let recorded ← checkSubmission cfg false probe token key
    if recorded = true then return .alreadyRecorded probe
    else if probe.filing.status.isOpen = true then do
      let _ ← validateFilingDestination probe.filing.destination (some ⟨probe.filing.filerId, account⟩) false
      verifyFilingDocuments probe none
      submitLocked cfg account filingId key token (probe.currentDocuments.map FilingDocument.fingerprint)
    else return .notSubmittable

end Muefs
