import Muefs.Portal.Submission

/-!
# Clerk review

* `verifyReview` : read the filing and, to accept it, verify its stored documents; no locks;
* `recordReview` : lock the filing, compare it with what was verified, decide;
* `reviewFiling`, `batchReviewFilings` : the two endpoints;
* `caseNumberCode` : the case code of a new case.
-/

namespace Muefs
open RowLocks

/-! ## Case numbers -/

/-- `_CASE_CODES` -/
def caseCodes : List (String × String) := [
  ("CIV-GEN", "CZ"), ("CIV-TORT", "NO"), ("CIV-CONT", "CK"), ("CIV-PROP", "CH"), ("CIV-COND", "CC"),
  ("CIV-BUS", "CB"), ("CIV-GARN", "PS"), ("CIR-APP", "AV"), ("CIV-SUBP", "PZ"), ("LT-SP", "LT"), ("SM-CLM", "SC"),
  ("FAM-DIV", "DM"), ("FAM-CUST", "DC"), ("FAM-SUP", "DS"), ("FAM-PPO", "PP"), ("FAM-ADPT", "AD"),
  ("CR-FEL", "FH"), ("CR-MISD", "SM"), ("TR-CIV", "SI"), ("PR-EST", "DE"), ("PR-GRDN", "GA"), ("PR-CNSRV", "CA"),
  ("PR-TRUST", "TT"), ("PR-MI", "MI"), ("COC-TORT", "MZ"), ("COC-CONT", "MK"), ("COC-CONST", "MM"),
  ("COC-TAX", "MT"), ("COC-HWY", "MD"), ("COC-PROP", "MZ"), ("COC-APPREV", "MZ"), ("APP-CIV", "AV"),
  ("APP-CR", "AR"), ("APP-FAM", "AV")]

/-- `_DISTRICT_CASE_CODES` -/
def districtCaseCodes : List (String × String) := [
  ("CIV-GEN", "GC"), ("CIV-TORT", "GC"), ("CIV-CONT", "GC"), ("CIV-PROP", "GZ"), ("CIV-GARN", "GZ"),
  ("CIV-SUBP", "GZ"), ("CR-FEL", "FY")]

/-- `case_number_code` -/
def caseNumberCode (courtType : CourtType) (code : String) : String :=
  if courtType = .district ∨ courtType = .municipal then
    (districtCaseCodes.lookup code).getD ((caseCodes.lookup code).getD code)
  else (caseCodes.lookup code).getD code

/-- The number of the case that an acceptance opens. -/
def newCaseNumber (filing : FilingEnvelope) (receivedAt : Instant) (courtType : CourtType) (code : String) : String :=
  let year := (filing.filingDate.getD receivedAt.utcDate).year
  padded 4 year.toNat ++ "-" ++ padded 6 filing.id ++ "-" ++ caseNumberCode courtType code

/-! ## The case management system -/

structure CmsFilingResult where
  success : Bool
  cmsCaseNumber : Option String := none
  cmsFilingId : Option String := none
  errorMessage : Option String := none

/-- How the case management system answers a request for a case number and a filing. -/
abbrev Cms := String → FilingId → CmsFilingResult

/-- `submit_filing_to_cms` as it is shipped: a stub that never fails. -/
def submitFilingToCms (cfg : Settings) : Cms := fun caseNumber filingId => {
  success := true
  cmsCaseNumber := some caseNumber
  cmsFilingId := if cfg.allowDemoMode then some ("DEMO-" ++ toString filingId) else none }

/-! ## Before the lock -/

inductive ReviewAction where
  | accept
  | reject
  | return_
  deriving DecidableEq, Repr

/-- `ReviewEvidence` -/
structure ReviewEvidence where
  dateVersion : Nat
  orderedDate : Bool
  fingerprints : Option (List Fingerprint)
  deriving DecidableEq

def FilingStatus.inReview (status : FilingStatus) : Bool := status == .submitted || status == .underReview

def staleReview : Failure := .staleReview ("The filing was resubmitted after this review was opened. " ++
  "Close the review, refresh the queue and review the new submission before deciding.")

/-- The date rests on a court order. -/
def FilingEnvelope.hasOrderedDate (filing : FilingEnvelope) : Bool :=
  filing.filingDateBasis.any DateBasis.isCourtOrder

/-- `filing_date_basis["order_document_id"]` -/
def FilingEnvelope.orderDocumentId (filing : FilingEnvelope) : Option DocumentId :=
  filing.filingDateBasis.bind DateBasis.orderDocumentId

/-- The signed order behind the date, as `verify_review` selects it. -/
def FilingFile.retainedOrder (file : FilingFile) : Option FilingDocument :=
  file.documents.find? fun d => some d.id == file.filing.orderDocumentId
    && d.documentTypeCode == "FILING_DATE_ORDER" && d.retainedAt.isSome

/-- The document behind the date, as `record_review` selects it. -/
def FilingFile.orderDocument (file : FilingFile) : Option FilingDocument :=
  file.documents.find? fun d => some d.id == file.filing.orderDocumentId

/-- The order that an acceptance has to verify. -/
def reviewOrder (probe : FilingFile) : Portal (Option FilingDocument) :=
  if probe.filing.hasOrderedDate = true then do
    let rows ← look (.envelope probe.filing.id)
    let order := rows.bind fun rows => ({ rows with filing := probe.filing }).retainedOrder
    let order ← expect order (.dateUnavailable "The filing-date order requires court review")
    require (probe.filing.filingDate ≠ none) (.dateUnavailable "The filing-date order requires court review")
    return some order
  else return none

/-- What `verify_review` verifies for this action. -/
def reviewFingerprints (probe : FilingFile) (action : ReviewAction) : Portal (Option (List Fingerprint)) :=
  if action = .accept then do
    let order ← reviewOrder probe
    verifyFilingDocuments probe order
    return some ((probe.currentDocuments ++ order.toList).map FilingDocument.fingerprint)
  else return none

/-- `verify_review` -/
def verifyReview (filingId : FilingId) (action : ReviewAction) (expectedSubmissionCount : Nat) :
    Portal (Option ReviewEvidence) := do
  let row ← getFiling filingId
  match row with
  | none => return none
  | some probe => do
    require (probe.filing.submissionCount = expectedSubmissionCount) staleReview
    if probe.filing.status.inReview = true then do
      let fingerprints ← reviewFingerprints probe action
      return some {
        dateVersion := probe.filing.filingDateVersion
        orderedDate := probe.filing.hasOrderedDate
        fingerprints }
    else return none

/-! ## Under the lock -/

/-- What an acceptance compares with the evidence. -/
def FilingFile.reviewFingerprintsNow (file : FilingFile) (orderedDate : Bool) : List Fingerprint :=
  let order := if orderedDate then file.orderDocument else none
  (file.currentDocuments ++ order.toList).map FilingDocument.fingerprint

/-- The reviewer and the time of the review. -/
def FilingEnvelope.reviewedBy (filing : FilingEnvelope) (reviewerId : UserId) (time : Instant) : FilingEnvelope :=
  { filing with reviewerId := some reviewerId, reviewedAt := some time }

/-- The date that the calendars give for a review, recorded if it differs from the filing's. -/
def assessReviewDate (cfg : Settings) (file : FilingFile) (reviewerId : UserId) (orderedDate : Bool)
    (receivedAt : Instant) : Portal FilingFile :=
  if orderedDate = true then return file
  else do
    let calendars ← look (.calendars file.filing.courtId)
    let assessment ← ofExcept (filingDateForReceipt cfg calendars receivedAt)
    require (assessment.filingDate ≠ none ∨ cfg.allowDemoMode = true)
      (.dateUnavailable (assessment.error.getD "The court filing date is unresolved"))
    if file.filing.filingDateBasis = some (.calendar assessment) then return file
    else do
      let dated := { file with filing := { file.filing with
        filingDate := assessment.filingDate
        filingDateBasis := some (.calendar assessment) } }
      let (file, _) ← recordTransaction cfg dated .filingDateAssessed reviewerId none none {
        previousFilingDate := file.filing.filingDate
        filingDateBasis := some (.calendar assessment) }
      return file

/-- The case of an acceptance: the filing's own, or a new one that is not inserted yet. -/
def acceptanceCase (file : FilingFile) (case : Option CaseFile) (receivedAt : Instant) : Portal Case :=
  match case with
  | some case => return case.row
  | none => do
    let courtRow ← look (.court file.filing.courtId)
    let caseTypeRow ← look (.caseType file.filing.caseTypeId)
    let court ← expect courtRow (.value "No row was found when one was required")
    let caseType ← expect caseTypeRow (.value "No row was found when one was required")
    return {
      courtId := file.filing.courtId
      caseNumber := newCaseNumber file.filing receivedAt court.courtType caseType.code
      caseTypeId := file.filing.caseTypeId
      title := match file.filing.caseTitle with
        | some title => if title = "" then "Untitled Case" else title
        | none => "Untitled Case"
      filedDate := receivedAt
      filingDate := file.filing.filingDate }

/-- Insert the new case, under `uq_case_court_number`. -/
def openCase (filing : FilingEnvelope) (case : Case) : Portal (Option CaseId) :=
  match filing.caseId with
  | some id => return some id
  | none => do
    let id ← newId
    let taken ← lockUpdate (.caseNumber case.courtId case.caseNumber)
    require (taken = none) (.integrity "uq_case_court_number")
    write (.caseNumber case.courtId case.caseNumber) fun _ => some id
    write (.case id) fun _ => some { row := case }
    return some id

/-- How `record_review` ends. -/
inductive ReviewOutcome where
  | notInReview
  | cmsFailed (file : FilingFile) (detail : String)
  | decided (file : FilingFile)

/-- The acceptance branch of `record_review`, from the checks passed to its end. -/
def acceptFiling (cfg : Settings) (cms : Cms) (filingId : FilingId) (file : FilingFile) (case : Option CaseFile)
    (reviewerId : UserId) (reason : Option String) (orderedDate : Bool) : Portal ReviewOutcome := do
  let time ← now
  let file := { file with filing := file.filing.reviewedBy reviewerId time }
  let receivedAt ← expect (file.filing.filedAt.or file.filing.submittedAt)
    (.dateUnavailable "The filing has no recorded receipt time")
  let dated ← assessReviewDate cfg file reviewerId orderedDate receivedAt
  let file := { dated with filing := { dated.filing with
    filingDateVersion := dated.filing.filingDateVersion + 1
    status := .underReview } }
  let case ← acceptanceCase file case receivedAt
  let answer := cms case.caseNumber file.filing.id
  if answer.success = true then do
    let caseId ← openCase file.filing case
    let (saved, _) ← recordTransaction cfg { file with filing := { file.filing with
      caseId
      status := .accepted
      cmsFilingId := answer.cmsFilingId
      cmsCaseNumber := answer.cmsCaseNumber
      cmsError := none } } .accepted reviewerId reason none {}
    saveFiling filingId saved
    return .decided saved
  else do
    let error := match answer.errorMessage with
      | some text => if text = "" then "No reason was given" else text
      | none => "No reason was given"
    let (saved, _) ← recordTransaction cfg { file with filing := { file.filing with
      cmsError := some error
      cmsFilingId := none
      cmsCaseNumber := none } } .cmsFailed reviewerId (some error) none {}
    saveFiling filingId saved
    return .cmsFailed saved error

/-- The other two decisions of `record_review`. -/
def declineFiling (cfg : Settings) (filingId : FilingId) (file : FilingFile) (reviewerId : UserId)
    (status : FilingStatus) (event : EventType) (reason : Option String) : Portal ReviewOutcome := do
  let time ← now
  let filing := file.filing.reviewedBy reviewerId time
  let (saved, _) ← recordTransaction cfg { file with filing := { filing with
    filingDateVersion := filing.filingDateVersion + 1
    status
    rejectionReason := reason } } event reviewerId reason none {}
  saveFiling filingId saved
  return .decided saved

/-- `record_review` -/
def recordReview (cfg : Settings) (cms : Cms) (filingId : FilingId) (reviewerId : UserId) (action : ReviewAction)
    (reason : Option String) (expectedSubmissionCount : Nat) (evidence : ReviewEvidence) :
    Portal ReviewOutcome := do
  let row ← lockFiling filingId
  match row with
  | none => return .notInReview
  | some file => do
    require (file.filing.submissionCount = expectedSubmissionCount) staleReview
    if file.filing.status.inReview = true then
      match action with
      | .accept => do
        require (file.filing.filingDateVersion = evidence.dateVersion) (.staleReview
          ("The filing date changed while this review was in progress. Refresh the " ++
            "filing and review its date before deciding."))
        let case ← validateFilingDestination file.filing.destination none true
        require (evidence.fingerprints = some (file.reviewFingerprintsNow evidence.orderedDate)) (.document
          "Stored documents changed after integrity verification. Open the filing again.")
        acceptFiling cfg cms filingId file case reviewerId reason evidence.orderedDate
      | .reject => declineFiling cfg filingId file reviewerId .rejected .rejected reason
      | .return_ => declineFiling cfg filingId file reviewerId .returned .returned reason
    else return .notInReview

/-! ## Endpoints -/

/-- `_require_independent_reviewer`, with the reviewer's account locked -/
def requireIndependentReviewer (userId : UserId) (account : Account) (filing : FilingEnvelope) : Portal Unit := do
  require (account.isCourtStaff filing.courtId = true) (.http 403 "Not authorized as clerk for this court")
  require (filing.filerId ≠ userId) (.http 403 "Another court reviewer must decide your own filing")

/-- `ClerkReviewRequest` -/
structure ClerkReviewRequest where
  action : ReviewAction
  expectedSubmissionCount : Nat
  reason : Option String

/-- `data.reason.strip() if data.reason else None` -/
def ClerkReviewRequest.stripped (data : ClerkReviewRequest) : Option String :=
  (data.reason.filter (· ≠ "")).map strip

/-- `POST /clerk/filings/{filing_id}/review` -/
def reviewFiling (cfg : Settings) (cms : Cms) (userId : UserId) (filingId : FilingId) (data : ClerkReviewRequest) :
    Portal Response := do
  require (data.action = .accept ∨ data.stripped.any (· ≠ "") = true)
    (.http 400 "Reason is required for reject/return actions")
  let account ← lockCurrentUser userId
  let row ← getFiling filingId
  let check ← expect row (.http 404 "Filing not found")
  requireIndependentReviewer userId account check.filing
  let evidence ← verifyReview filingId data.action data.expectedSubmissionCount
  let evidence ← expect evidence (.http 400 "This filing is not awaiting review")
  let outcome ← recordReview cfg cms filingId userId data.action data.stripped data.expectedSubmissionCount evidence
  match outcome with
  | .notInReview => .raise (.http 400 "This filing is not awaiting review")
  | .cmsFailed _ detail =>
    return .cmsFailed ("The submission to the case management system failed: " ++ detail)
  | .decided file => return .filing file

/-- `BatchReviewItem` -/
structure BatchReviewItem where
  filingId : FilingId
  expectedSubmissionCount : Nat
  deriving DecidableEq

/-- `BatchReviewRequest`: each filing once. -/
structure BatchReviewRequest where
  filings : List BatchReviewItem
  unique : (filings.map BatchReviewItem.filingId).Nodup

/-- `_batch_failure` -/
def batchFailure : Failure → String
  | .destination _ detail | .staleReview detail | .dateUnavailable detail | .document detail | .http _ detail => detail
  | _ => "Could not accept this filing. Open it for review."

def batchCmsFailure : String :=
  "The submission to the case management system failed. " ++ "Open this filing to see its history."

def notAwaitingReview : String := "The filing is no longer awaiting review. Refresh the queue."

/-- What a batch has come to: accepted, failed, and why. -/
structure BatchResult where
  succeeded : List FilingId := []
  failed : List FilingId := []
  errors : List (FilingId × String) := []

def BatchResult.fail (result : BatchResult) (id : FilingId) (text : String) : BatchResult :=
  { result with failed := result.failed ++ [id], errors := result.errors ++ [(id, text)] }

def BatchResult.succeed (result : BatchResult) (id : FilingId) : BatchResult :=
  { result with succeeded := result.succeeded ++ [id] }

/-- The check of one filing in a batch. -/
def verifyBatchItem (userId : UserId) (account : Account) (item : BatchReviewItem) :
    Portal (Option ReviewEvidence) := do
  let row ← getFiling item.filingId
  match row with
  | none => return none
  | some check => do
    requireIndependentReviewer userId account check.filing
    verifyReview item.filingId .accept item.expectedSubmissionCount

/-- The first loop of `batch_review_filings`. -/
def verifyBatch (userId : UserId) (account : Account) :
    List BatchReviewItem → List (BatchReviewItem × ReviewEvidence) → BatchResult →
    Portal (List (BatchReviewItem × ReviewEvidence) × BatchResult)
  | [], verified, result => return (verified, result)
  | item :: items, verified, result => do
    let checked ← Txn.savepoint (verifyBatchItem userId account item)
    match checked with
    | .ok (some evidence) => verifyBatch userId account items (verified ++ [(item, evidence)]) result
    | .ok none => verifyBatch userId account items verified (result.fail item.filingId notAwaitingReview)
    | .error e => verifyBatch userId account items verified (result.fail item.filingId (batchFailure e))

/-- `lock_filings` -/
def lockFilings : List FilingId → Portal Unit
  | [] => return ()
  | id :: ids => do
    let _ ← lockFiling id
    lockFilings ids

/-- The second loop of `batch_review_filings`. -/
def recordBatch (cfg : Settings) (cms : Cms) (userId : UserId) :
    List (BatchReviewItem × ReviewEvidence) → BatchResult → Portal BatchResult
  | [], result => return result
  | (item, evidence) :: rest, result => do
    let outcome ← Txn.savepoint
      (recordReview cfg cms item.filingId userId .accept none item.expectedSubmissionCount evidence)
    match outcome with
    | .ok (.decided _) => recordBatch cfg cms userId rest (result.succeed item.filingId)
    | .ok (.cmsFailed _ _) => recordBatch cfg cms userId rest (result.fail item.filingId batchCmsFailure)
    | .ok .notInReview => recordBatch cfg cms userId rest (result.fail item.filingId notAwaitingReview)
    | .error e => recordBatch cfg cms userId rest (result.fail item.filingId (batchFailure e))

/-- `POST /clerk/queue/batch-review` -/
def batchReviewFilings (cfg : Settings) (cms : Cms) (userId : UserId) (data : BatchReviewRequest) :
    Portal Response := do
  let account ← lockCurrentUser userId
  let items := data.filings.mergeSort fun a b => a.filingId ≤ b.filingId
  let (verified, result) ← verifyBatch userId account items [] {}
  lockFilings (verified.map fun v => v.1.filingId)
  let result ← recordBatch cfg cms userId verified result
  return .batch result.succeeded (result.failed.mergeSort fun a b => a ≤ b) result.errors

end Muefs
