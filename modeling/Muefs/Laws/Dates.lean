import Muefs.Steps.Asks
import Muefs.Steps.Batch
import Muefs.Steps.Documents

/-!
# Filing dates

* `DateChange`, `FileStep.dates` : what a step does to the receipt time and the filing date;
* `FilingFile.DatesSound`, `Run.datesSound` : the receipt time is set with the first submission, the
  date is its basis's;
* `Run.date_kept` : the date of an unchanged version; `Run.accepted_unmoved` : what was verified is what is decided;
* `recordReview_stale` : a review fails as stale where the date moved; `Run.order_stale`, `Run.batch_order_stale` : so
  do the endpoints, whatever came between;
* `DateRules`, `Run.dateRules` : the rules for each step; `Run.filing_dates` : the law.
-/

namespace Muefs
open RowLocks

variable {cfg : Settings} {r : Request} {db db' : Store} {tr : Trace} {f : FilingId} {file file' : FilingFile}

/-! ## What a step does -/

/-- Receipt time, date and basis are as before. -/
structure SameDates (filing filing' : FilingEnvelope) : Prop where
  filedAt : filing'.filedAt = filing.filedAt
  submittedAt : filing'.submittedAt = filing.submittedAt
  date : filing'.filingDate = filing.filingDate
  basis : filing'.filingDateBasis = filing.filingDateBasis

/-- What a review records about the date of a filing. -/
structure ReviewDates (cfg : Settings) (db : Store) (tr : Trace) (f : FilingId) (file file' : FilingFile)
    (seen : FilingFile) : Prop where
  acceptable : ∃ order, Acceptable db tr f file seen order
  filedAt : file'.filing.filedAt = file.filing.filedAt
  submittedAt : file'.filing.submittedAt = file.filing.submittedAt
  version : file'.filing.filingDateVersion = file.filing.filingDateVersion + 1
  ordered : seen.filing.hasOrderedDate = true → SameDates file.filing file'.filing
  assessed : seen.filing.hasOrderedDate = false → ∃ receivedAt calendars assessment,
    file.filing.filedAt.or file.filing.submittedAt = some receivedAt ∧ Scheduled tr file.filing calendars ∧
    filingDateForReceipt cfg calendars receivedAt = .ok assessment ∧
    file'.filing.filingDateBasis = some (.calendar assessment) ∧
    (file'.filing.filingDate = assessment.filingDate ∨ SameDates file.filing file'.filing)

/-- What a step does to the receipt time and the filing date. -/
inductive DateChange (cfg : Settings) (r : Request) (db : Store) (tr : Trace) (f : FilingId) (file file' : FilingFile) :
    Prop where
  | same (h : SameDates file.filing file'.filing)
      (hcount : file'.filing.submissionCount = file.filing.submissionCount)
  | submitted (userId : UserId) (key : Option Uuid) (token : SubmissionToken) (time : Instant) (date : Option Date)
      (basis : Option DateBasis) (hr : r = .submitFiling userId f key token)
      (hdate : SubmittedDate cfg tr file.filing ((file.filing.filedAt.or file.filing.submittedAt).getD time) date basis)
      (hfiling : file'.filing = file.filing.submittedNow time date basis)
  | reviewed (userId : UserId) (count : Nat) (seen : FilingFile) (hr : Reviews f userId count .accept r)
      (h : ReviewDates cfg db tr f file file' seen)
      (hcount : file'.filing.submissionCount = file.filing.submissionCount)
  | ordered (userId : UserId) (form : DateOrderForm) (id : DocumentId) (hr : r = .recordFilingDateOrder userId f form)
      (hfiling : file'.filing = { file.filing with
        filingDate := some form.filingDate
        filingDateBasis := some (orderBasis file.filing form id)
        filingDateVersion := file.filing.filingDateVersion + 1 })

theorem Recorded.sameDates {base : FilingFile} {event : EventType} {actorId : UserId} {key : Option Uuid}
    {details : Details} {t : FilingTransaction} (h : Recorded cfg tr base event actorId key details file' t)
    (hbase : SameDates file.filing base.filing) (hcount : base.filing.submissionCount = file.filing.submissionCount) :
    DateChange cfg r db tr f file file' := by
  refine .same ?_ ?_
  · rw [h.filing_eq]
    exact hbase
  · rw [h.filing_eq]
    exact hcount

theorem Dated.reviewDates {userId : UserId} {time receivedAt : Instant} {seen dated : FilingFile}
    {order : Option FilingDocument} (hacc : Acceptable db tr f file seen order)
    (hreceived : file.filing.filedAt.or file.filing.submittedAt = some receivedAt)
    (hdated : Dated cfg tr userId receivedAt { file with filing := file.filing.reviewedBy userId time }
      seen.filing.hasOrderedDate dated)
    (hsame : SameDates dated.filing file'.filing)
    (hversion : file'.filing.filingDateVersion = dated.filing.filingDateVersion + 1) :
    ReviewDates cfg db tr f file file' seen := by
  obtain ⟨date, basis, hfiling⟩ := hdated.filing_eq
  refine ⟨⟨order, hacc⟩, ?_, ?_, ?_, fun ho => ?_, fun ho => ?_⟩
  · rw [hsame.filedAt, hfiling]
    rfl
  · rw [hsame.submittedAt, hfiling]
    rfl
  · rw [hversion, hfiling]
    rfl
  · rw [ho] at hdated
    cases hdated with
    | ordered => exact ⟨hsame.filedAt, hsame.submittedAt, hsame.date, hsame.basis⟩
  · rw [ho] at hdated
    cases hdated with
    | kept calendars assessment hcal hassess hkept =>
      exact ⟨receivedAt, calendars, assessment, hreceived, hcal, hassess, hsame.basis.trans hkept,
        .inr ⟨hsame.filedAt, hsame.submittedAt, hsame.date, hsame.basis⟩⟩
    | assessed calendars assessment hcal hassess previous _ t hrec =>
      refine ⟨receivedAt, calendars, assessment, hreceived, hcal, hassess, ?_, .inl ?_⟩
      · rw [hsame.basis, hrec.filing_eq]
      · rw [hsame.date, hrec.filing_eq]

/-- **What a step does to the dates.** -/
theorem FileStep.dates (h : FileStep cfg r db db' tr f file file') : DateChange cfg r db tr f file file' := by
  cases h with
  | edited => exact .same ⟨rfl, rfl, rfl, rfl⟩ rfl
  | uploaded => exact .same ⟨rfl, rfl, rfl, rfl⟩ rfl
  | retired => exact .same ⟨rfl, rfl, rfl, rfl⟩ rfl
  | erased => exact .same ⟨rfl, rfl, rfl, rfl⟩ rfl
  | copyPrepared => exact .same ⟨rfl, rfl, rfl, rfl⟩ rfl
  | feesAssessed userId data a time t saved hr h hrec =>
    have hfiling := hrec.filing_eq
    refine .same ⟨?_, ?_, ?_, ?_⟩ ?_ <;> simp only [hfiling] <;> rfl
  | submitted userId key token seen caseType time date basis t _ hr h hdate hrec =>
    exact .submitted userId key token time date basis hr hdate hrec.filing_eq
  | accepted userId count time receivedAt seen order dated caseId a b t _ hr h hacc hreceived hdated hcase hrec =>
    have hfiling := hrec.filing_eq
    refine .reviewed userId count seen hr (hdated.reviewDates hacc hreceived ⟨?_, ?_, ?_, ?_⟩ ?_) ?_
    · rw [hfiling]
    · rw [hfiling]
    · rw [hfiling]
    · rw [hfiling]
    · rw [hfiling]
    · obtain ⟨_, _, hd⟩ := hdated.filing_eq
      rw [hfiling, hd]
      rfl
  | cmsFailed userId count time receivedAt seen order dated error t _ hr h hacc hreceived hdated hrec =>
    have hfiling := hrec.filing_eq
    refine .reviewed userId count seen hr (hdated.reviewDates hacc hreceived ⟨?_, ?_, ?_, ?_⟩ ?_) ?_
    · rw [hfiling]
    · rw [hfiling]
    · rw [hfiling]
    · rw [hfiling]
    · rw [hfiling]
    · obtain ⟨_, _, hd⟩ := hdated.filing_eq
      rw [hfiling, hd]
      rfl
  | dateOrdered userId form doc change t _ hr h hrec => exact .ordered userId form doc.id hr hrec.filing_eq
  | paid _ _ _ _ _ _ _ _ _ _ hrec | credited _ _ _ _ _ _ _ _ _ _ _ _ _ _ hrec | reversed _ _ _ _ _ _ _ _ _ _ _ hrec
  | feeReviewRequested _ _ _ _ _ _ _ hrec | waiverReferred _ _ _ _ _ _ _ _ hrec
  | waiverDecided _ _ _ _ _ _ _ _ _ _ hrec | declined _ _ _ _ _ _ _ _ _ _ _ _ hrec
  | published _ _ _ _ _ _ _ _ _ _ _ _ _ _ _ _ _ _ hrec | withheld _ _ _ _ _ _ _ _ hrec =>
    exact hrec.sameDates ⟨rfl, rfl, rfl, rfl⟩ rfl

/-! ## Receipt time and date -/

def DateBasis.date : DateBasis → Option Date
  | .calendar assessment => assessment.filingDate
  | .courtOrder date _ _ _ _ => some date

/-- Receipt and submission times are set with the first submission, and the date is the one its basis gives. -/
structure FilingFile.DatesSound (file : FilingFile) : Prop where
  filedAt : file.filing.filedAt.isSome = true ↔ 0 < file.filing.submissionCount
  submittedAt : file.filing.submittedAt.isSome = true ↔ 0 < file.filing.submissionCount
  date : file.filing.filingDate = file.filing.filingDateBasis.bind DateBasis.date

theorem SameDates.datesSound (h : SameDates file.filing file'.filing)
    (hcount : file'.filing.submissionCount = file.filing.submissionCount) (hI : file.DatesSound) :
      file'.DatesSound where
  filedAt := by rw [h.filedAt, hcount]; exact hI.filedAt
  submittedAt := by rw [h.submittedAt, hcount]; exact hI.submittedAt
  date := by rw [h.date, h.basis]; exact hI.date

theorem SubmittedDate.date_eq {filing : FilingEnvelope} {filedAt : Instant} {date : Option Date}
    {basis : Option DateBasis} (h : SubmittedDate cfg tr filing filedAt date basis)
    (hdate : filing.filingDate = filing.filingDateBasis.bind DateBasis.date) : date = basis.bind DateBasis.date := by
  cases h with
  | assessed => rfl
  | kept => exact hdate

theorem DateChange.datesSound (h : DateChange cfg r db tr f file file') (hI : file.DatesSound) : file'.DatesSound := by
  cases h with
  | same h hcount => exact h.datesSound hcount hI
  | submitted userId key token time date basis hr hdate hfiling =>
    refine ⟨?_, ?_, ?_⟩ <;> rw [hfiling]
    · simp [FilingEnvelope.submittedNow]
    · simp [FilingEnvelope.submittedNow]
    · exact hdate.date_eq hI.date
  | reviewed userId count seen hr h hcount =>
    refine ⟨?_, ?_, ?_⟩
    · rw [h.filedAt, hcount]
      exact hI.filedAt
    · rw [h.submittedAt, hcount]
      exact hI.submittedAt
    · cases ho : seen.filing.hasOrderedDate with
      | true =>
        rw [(h.ordered ho).date, (h.ordered ho).basis]
        exact hI.date
      | false =>
        obtain ⟨receivedAt, calendars, assessment, _, _, _, hbasis, hdate | hsame⟩ := h.assessed ho
        · rw [hbasis, hdate]
          rfl
        · rw [hsame.date, hsame.basis]
          exact hI.date
  | ordered userId form id hr hfiling =>
    refine ⟨?_, ?_, ?_⟩ <;> rw [hfiling]
    · exact hI.filedAt
    · exact hI.submittedAt
    · rfl

variable {w₀ w w' : PortalWorld}

/-- **Every filing has the date that its basis gives.** -/
theorem Run.datesSound (h : Run cfg w₀ w) : ∀ f file, w.db (.envelope f) = some file → file.DatesSound := by
  refine h.file_invariant ?_ ?_
  · intro w sid s a f userId data key file' _ _ hnew
    rw [hnew.file_eq]
    exact ⟨by simp [newEnvelope], by simp [newEnvelope], rfl⟩
  · intro w sid s a f file file' _ _ _ hI hstep
    exact hstep.dates.datesSound hI

theorem FilingFile.DatesSound.received (h : file.DatesSound) {receivedAt : Instant}
    (hreceived : file.filing.filedAt.or file.filing.submittedAt = some receivedAt) :
    file.filing.filedAt = some receivedAt := by
  cases hfiled : file.filing.filedAt with
  | some t =>
    rw [hfiled] at hreceived
    exact hreceived
  | none =>
    rw [hfiled, Option.none_or] at hreceived
    have hcount := h.submittedAt.1 (by rw [hreceived]; rfl)
    have hsome := h.filedAt.2 hcount
    rw [hfiled] at hsome
    cases hsome

theorem DateChange.filedAt_kept (h : DateChange cfg r db tr f file file') {t : Instant}
    (ht : file.filing.filedAt = some t) : file'.filing.filedAt = some t := by
  cases h with
  | same h => exact h.filedAt.trans ht
  | submitted userId key token time date basis hr hdate hfiling =>
    rw [hfiling]
    simp [FilingEnvelope.submittedNow, ht]
  | reviewed userId count seen hr h => exact h.filedAt.trans ht
  | ordered userId form id hr hfiling =>
    rw [hfiling]
    exact ht

theorem Run.filedAt_kept (h : Run cfg w₀ w) (hs : Steps (portal cfg) w w') (hfile : w.db (.envelope f) = some file)
    (hfile' : w'.db (.envelope f) = some file') {t : Instant} (ht : file.filing.filedAt = some t) :
    file'.filing.filedAt = some t := by
  obtain ⟨file₁, hfile₁, hI⟩ := h.file_since (I := fun file => file.filing.filedAt = some t) hfile ht
    (fun _ _ _ _ _ _ _ _ _ _ hI hstep => hstep.dates.filedAt_kept hI) hs
  cases hfile'.symm.trans hfile₁
  exact hI

/-! ## Versions of the date -/

theorem DateChange.same_version (h : DateChange cfg r db tr f file file')
    (hv : file'.filing.filingDateVersion = file.filing.filingDateVersion) : SameDates file.filing file'.filing := by
  cases h with
  | same h => exact h
  | submitted userId key token time date basis hr hdate hfiling =>
    rw [hfiling] at hv
    exact absurd hv (Nat.succ_ne_self _)
  | reviewed userId count seen hr h => exact absurd (h.version.symm.trans hv) (Nat.succ_ne_self _)
  | ordered userId form id hr hfiling =>
    rw [hfiling] at hv
    exact absurd hv (Nat.succ_ne_self _)

/-- **A date does not move under one version.** -/
theorem Run.date_kept (h : Run cfg w₀ w) (hs : Steps (portal cfg) w w') (hfile : w.db (.envelope f) = some file)
    (hfile' : w'.db (.envelope f) = some file')
    (hv : file'.filing.filingDateVersion = file.filing.filingDateVersion) : SameDates file.filing file'.filing := by
  have hsince := h.file_since hfile
    (I := fun file₁ => file.filing.filingDateVersion ≤ file₁.filing.filingDateVersion ∧
      (file₁.filing.filingDateVersion = file.filing.filingDateVersion → SameDates file.filing file₁.filing))
    ⟨Nat.le_refl _, fun _ => ⟨rfl, rfl, rfl, rfl⟩⟩ (fun w₁ sid s a file₁ file₂ _ _ _ _ ⟨hle, hI⟩ hstep => ?_) hs
  · obtain ⟨file₁, hfile₁, _, hI⟩ := hsince
    cases hfile'.symm.trans hfile₁
    exact hI hv
  · have hstep_le := hstep.grows.counts.filingDateVersion
    refine ⟨hle.trans hstep_le, fun hsame => ?_⟩
    have h₁ := hI (by omega)
    have h₂ := hstep.dates.same_version (by omega)
    exact ⟨h₂.filedAt.trans h₁.filedAt, h₂.submittedAt.trans h₁.submittedAt, h₂.date.trans h₁.date,
      h₂.basis.trans h₁.basis⟩

/-- **What an acceptance verified has the date that the acceptance finds under its lock,** and no step of the filing in
between moved the version. -/
theorem Run.accepted_unmoved (h : Run cfg w₀ w) {sid : Nat} {s : Session View Failure Response Request}
    (hs : w.sessions sid = some s) (hfile : w.db (.envelope f) = some file) {seen : FilingFile}
    {order : Option FilingDocument} (hacc : Acceptable db s.trace f file seen order) :
    SameDates seen.filing file.filing ∧ ∃ w₁ rows,
      AnsweredIn (portal cfg) w₀ w sid s ⟨.look (.envelope f), some rows⟩ w₁ ∧
      rows.filing.filingDateVersion = file.filing.filingDateVersion := by
  obtain ⟨rows, hseen, hrows⟩ := hacc.envelope
  obtain ⟨w₁, hans⟩ := h.steps.answered_at h.start.idle hs hseen
  have hv : file.filing.filingDateVersion = rows.filing.filingDateVersion := by
    rw [hrows]
    exact hacc.version
  have hsame := Run.date_kept ⟨h.start, hans.reached⟩ hans.later hans.look hfile hv
  rw [hrows] at hsame
  exact ⟨hsame, w₁, rows, hans, hv.symm⟩

/-! ## Date orders beside a review -/

theorem FileStep.ordered_version (h : FileStep cfg r db db' tr f file file') {userId : UserId} {form : DateOrderForm}
    (hr : r = .recordFilingDateOrder userId f form) :
    file'.filing.filingDateVersion = file.filing.filingDateVersion + 1 := by
  cases h with
  | dateOrdered _ _ doc change t _ _ h hrec => rw [hrec.filing_eq]
  | edited _ _ hr' | uploaded _ _ _ _ _ _ hr' | retired _ _ _ _ hr' | erased _ _ _ hr' | copyPrepared _ _ _ _ _ _ hr'
  | feesAssessed _ _ _ _ _ _ hr' | paid _ _ _ _ _ _ _ hr' | credited _ _ _ _ _ _ _ _ _ _ hr'
  | reversed _ _ _ _ _ _ _ hr' | feeReviewRequested _ _ _ _ _ hr' | waiverReferred _ _ _ _ _ hr'
  | waiverDecided _ _ _ _ _ _ _ hr' | submitted _ _ _ _ _ _ _ _ _ _ hr' | published _ _ _ _ _ _ _ _ _ _ hr'
  | withheld _ _ _ _ _ _ hr' => cases hr.symm.trans hr'
  | accepted _ _ _ _ _ _ _ _ _ _ _ _ hr' | cmsFailed _ _ _ _ _ _ _ _ _ _ hr' | declined _ _ _ _ _ _ _ _ _ hr' =>
    rcases hr'.request with ⟨_, _, hr', _⟩ | ⟨_, _, hr', _⟩ <;> cases hr.symm.trans hr'

/-- A date order on the filing is recorded in this step. -/
structure DateOrder (cfg : Settings) (w w' : PortalWorld) (f : FilingId) : Prop where
  commits : ∃ sid s a userId form, Commits (portal cfg) w sid s a ∧ w' = w.committed sid s a ∧
    s.request = .recordFilingDateOrder userId f form
  recorded : w'.db (.envelope f) ≠ w.db (.envelope f)

/-- A date order on the filing was recorded between these worlds. -/
def OrderedSince (cfg : Settings) (w w' : PortalWorld) (f : FilingId) : Prop :=
  ∃ w₁ w₂, Steps (portal cfg) w w₁ ∧ DateOrder cfg w₁ w₂ f ∧ Steps (portal cfg) w₂ w'

theorem DateOrder.step (h : DateOrder cfg w w' f) : Step (portal cfg) w w' := by
  obtain ⟨⟨sid, s, a, _, _, hc, rfl, _⟩, _⟩ := h
  exact .commit sid s a hc

theorem Run.dateOrder_version (h : Run cfg w₀ w) (ho : DateOrder cfg w w' f) :
    ∃ file file', w.db (.envelope f) = some file ∧ w'.db (.envelope f) = some file' ∧
      file'.filing.filingDateVersion = file.filing.filingDateVersion + 1 := by
  obtain ⟨⟨sid, s, a, userId, form, hc, rfl, hr⟩, hmoved⟩ := ho
  rcases h.changes hc (.envelope f) with heq | ⟨file', hfile', ⟨_, _, _, hnew⟩ | ⟨file, hfile, hstep⟩⟩
  · exact absurd heq hmoved
  · exact absurd (hr.symm.trans hnew.request) (by simp)
  · exact ⟨file, file', hfile, hfile', hstep.ordered_version hr⟩

theorem Run.ordered_version (h : Run cfg w₀ w) (ho : OrderedSince cfg w w' f) (hfile : w.db (.envelope f) = some file)
    (hfile' : w'.db (.envelope f) = some file') :
    file.filing.filingDateVersion < file'.filing.filingDateVersion := by
  obtain ⟨w₁, w₂, hs₁, hord, hs₂⟩ := ho
  have h₁ := h.trans hs₁
  obtain ⟨file₁, file₂, hfile₁, hfile₂, hv⟩ := h₁.dateOrder_version hord
  have hbefore := (h.grew_to hs₁ hfile hfile₁).counts.filingDateVersion
  have hafter := ((h₁.tail hord.step).grew_to hs₂ hfile₂ hfile').counts.filingDateVersion
  omega

/-! ### What a review does with a date that moved -/

variable {userId : UserId} {cms : Cms} {evidence : ReviewEvidence}

/-- The failures of a review whose filing was submitted again, or whose date moved. -/
def StaleText (text : String) : Prop :=
  Failure.staleReview text = staleReview ∨
    text = "The filing date changed while this review was in progress. Refresh the " ++
      "filing and review its date before deciding."

/-- What is left of a review after its lock: it is stale, or its filing does not await review. -/
def Outdated (row : Option FilingFile) (q : Portal ReviewOutcome) : Prop :=
  (q = .done .notInReview ∧ ∀ file, row = some file → file.filing.status.inReview = false) ∨
    ∃ text, StaleText text ∧ q = .raise (.staleReview text)

/-- **A review fails as stale where the date moved.** -/
theorem recordReview_stale (cfg : Settings) (cms : Cms) (f : FilingId) (userId : UserId) (reason : Option String)
    (count : Nat) (evidence : ReviewEvidence) : ∃ next : Option FilingFile → Portal ReviewOutcome,
    recordReview cfg cms f userId .accept reason count evidence = .ask (.lock .update (.envelope f)) next ∧
    ∀ row, (∀ file, row = some file → file.filing.filingDateVersion ≠ evidence.dateVersion) →
      Outdated row (next row) := by
  refine ⟨_, rfl, fun row hmoved => ?_⟩
  cases row with
  | none => exact .inl ⟨rfl, by simp⟩
  | some file =>
    by_cases hcount : file.filing.submissionCount = count
    · by_cases hin : file.filing.status.inReview = true
      · refine .inr ⟨_, .inr rfl, ?_⟩
        simp [bind, Txn.bind, Txn.require, hcount, hin, hmoved file rfl]
      · refine .inl ⟨?_, fun _ heq => ?_⟩
        · simp [bind, Txn.bind, Txn.require, hcount, hin]
          rfl
        · cases heq
          simpa using hin
    · refine .inr ⟨_, .inl rfl, ?_⟩
      simp only [bind, Txn.bind, Txn.require, hcount, if_false]
      rfl

/-! ### One review -/

/-- `review_filing` up to the end of `verify_review`. -/
def reviewVerified (userId : UserId) (filingId : FilingId) (data : ClerkReviewRequest) : Portal ReviewEvidence := do
  require (data.action = .accept ∨ data.stripped.any (· ≠ "") = true)
    (.http 400 "Reason is required for reject/return actions")
  let account ← lockCurrentUser userId
  let row ← getFiling filingId
  let check ← expect row (.http 404 "Filing not found")
  requireIndependentReviewer userId account check.filing
  let evidence ← verifyReview filingId data.action data.expectedSubmissionCount
  expect evidence (.http 400 "This filing is not awaiting review")

/-- `review_filing` from `record_review` on. -/
def reviewRecorded (cfg : Settings) (cms : Cms) (userId : UserId) (filingId : FilingId) (data : ClerkReviewRequest)
    (evidence : ReviewEvidence) : Portal Response := do
  let outcome ← recordReview cfg cms filingId userId data.action data.stripped data.expectedSubmissionCount evidence
  match outcome with
  | .notInReview => .raise (.http 400 "This filing is not awaiting review")
  | .cmsFailed _ detail =>
    return .cmsFailed ("The submission to the case management system failed: " ++ detail)
  | .decided file => return .filing file

theorem reviewFiling_eq (data : ClerkReviewRequest) : reviewFiling cfg cms userId f data =
    reviewVerified userId f data >>= reviewRecorded cfg cms userId f data := by
  simp only [reviewFiling, reviewVerified, bind_assoc]
  rfl

theorem reviewVerified_meets {data : ClerkReviewRequest} (haccept : data.action = .accept) :
    Meets db (reviewVerified userId f data) fun tr evidence =>
      ∃ seen order, Evidence tr f evidence seen order := by
  simp only [reviewVerified, meets_bind, meets_require, meets_expect]
  refine fun _ => lockCurrentUser_meets.mono fun tr₁ account _ => getFiling_meets.mono fun tr₂ row _ check _ => ?_
  refine requireIndependentReviewer_meets.mono fun tr₃ _ _ => verifyReview_meets.mono fun tr₄ found hfound => ?_
  intro evidence hev
  obtain ⟨seen, order, h⟩ := hfound.2 evidence hev haccept
  exact ⟨seen, order, h.mono fun e he _ => by simp [he]⟩

theorem reviewRecorded_stale {data : ClerkReviewRequest} (haccept : data.action = .accept) {tr : Trace}
    {q : Portal Response} (hq : (reviewRecorded cfg cms userId f data evidence).After tr q)
    (hmoved : ∀ row, ⟨.lock .update (.envelope f), row⟩ ∈ tr → ∀ file, row = some file →
      file.filing.filingDateVersion ≠ evidence.dateVersion) :
    (tr = [] ∧ ∃ next, q = .ask (.lock .update (.envelope f)) next) ∨
      ∃ row, tr = [⟨.lock .update (.envelope f), row⟩] ∧
        ((q = .raise (.http 400 "This filing is not awaiting review") ∧
            ∀ file, row = some file → file.filing.status.inReview = false) ∨
          ∃ text, StaleText text ∧ q = .raise (.staleReview text)) := by
  obtain ⟨next, heq, hnext⟩ :=
    recordReview_stale cfg cms f userId data.stripped data.expectedSubmissionCount evidence
  rw [reviewRecorded, haccept, heq] at hq
  rcases Txn.after_ask.1 hq with ⟨rfl, rfl⟩ | ⟨row, rest, rfl, hrest⟩
  · exact .inl ⟨rfl, _, rfl⟩
  · refine .inr ⟨row, ?_⟩
    rcases hnext row (hmoved row List.mem_cons_self) with ⟨hdone, hout⟩ | ⟨text, htext, hraise⟩
    · simp only [hdone, Txn.bind] at hrest
      obtain ⟨rfl, rfl⟩ := Txn.after_raise.1 hrest
      exact ⟨rfl, .inl ⟨rfl, hout⟩⟩
    · simp only [hraise, Txn.bind] at hrest
      obtain ⟨rfl, rfl⟩ := Txn.after_raise.1 hrest
      exact ⟨rfl, .inr ⟨text, htext, rfl⟩⟩

theorem Run.verified_at (h : Run cfg w₀ w) {sid : Nat} {s : Session View Failure Response Request}
    (hs : w.sessions sid = some s) {tr : Trace} (htr : ∀ e ∈ tr, e.Heard → e ∈ s.trace) {seen : FilingFile}
    {order : Option FilingDocument} (hev : Evidence tr f evidence seen order) :
    ∃ w₁ rows, Run cfg w₀ w₁ ∧ Steps (portal cfg) w₁ w ∧ Seen s.trace f rows ∧ w₁.db (.envelope f) = some rows ∧
      rows.filing.filingDateVersion = evidence.dateVersion := by
  obtain ⟨hex, rfl⟩ := hev
  obtain ⟨rows, hseen, hrows⟩ := hex.envelope
  have hseen' : Seen s.trace f rows := htr _ hseen trivial
  obtain ⟨w₁, h₁, hs₁, hval⟩ := h.seen hs hseen'
  exact ⟨w₁, rows, h₁, hs₁, hseen', hval, by rw [hrows]⟩

theorem Run.moved_since {w₁ : PortalWorld} (h₁ : Run cfg w₀ w₁) (ho : OrderedSince cfg w₁ w f)
    (hs : Steps (portal cfg) w w') (hfile : w₁.db (.envelope f) = some file)
    (hfile' : w'.db (.envelope f) = some file') :
    file'.filing.filingDateVersion ≠ file.filing.filingDateVersion := by
  obtain ⟨wa, wb, hsa, hord, hsb⟩ := ho
  have hord' : OrderedSince cfg w₁ w' f := ⟨wa, wb, hsa, hord, hsb.trans hs⟩
  have hlt := h₁.ordered_version hord' hfile hfile'
  omega

/-- Some world of the run finds the filing not awaiting review. -/
def DecidedSince (cfg : Settings) (w w' : PortalWorld) (f : FilingId) : Prop :=
  ∃ w₁, Steps (portal cfg) w w₁ ∧ Steps (portal cfg) w₁ w' ∧
    ∀ file, w₁.db (.envelope f) = some file → file.filing.status.inReview = false

/-- How a review fails whose filing's date moved: as stale, or because the filing was decided as well. -/
inductive OutdatedFailure (cfg : Settings) (w w' : PortalWorld) (f : FilingId) : Failure → Prop where
  | stale (text : String) (h : StaleText text) : OutdatedFailure cfg w w' f (.staleReview text)
  | decided (h : DecidedSince cfg w w' f) :
      OutdatedFailure cfg w w' f (.http 400 "This filing is not awaiting review")

theorem Run.order_rest {w₁ : PortalWorld} (h₁ : Run cfg w₀ w₁)
    (hord : OrderedSince cfg w₁ w f) (hfile : w₁.db (.envelope f) = some file)
    (hversion : file.filing.filingDateVersion = evidence.dateVersion) {data : ClerkReviewRequest}
    (haccept : data.action = .accept) {sid : Nat} {s : Session View Failure Response Request}
    (hs : w.sessions sid = some s) (hreq : s.request = .reviewFiling userId f data cms)
    (hverified : (reviewVerified userId f data).Ends s.trace evidence) (hs' : Steps (portal cfg) w w') :
    ∃ s', w'.sessions sid = some s' ∧ s'.request = s.request ∧
      ∀ q, ((portal cfg).program s'.request).After s'.trace q →
        (∃ next, q = .ask (.lock .update (.envelope f)) next) ∨
          ∃ x, OutdatedFailure cfg w w' f x ∧ q = .raise x := by
  obtain ⟨s', new, hfound, hsame, htrace, hnew⟩ := Steps.later hs' hs
  refine ⟨s', hfound, hsame, fun q hq => ?_⟩
  have hprogram : (portal cfg).program s'.request =
      reviewVerified userId f data >>= reviewRecorded cfg cms userId f data := by
    rw [hsame, hreq]
    exact reviewFiling_eq data
  rw [hprogram, htrace] at hq
  obtain ⟨r, hr, hrest⟩ := Txn.after_append.1 hq
  have hat : r = reviewRecorded cfg cms userId f data evidence :=
    hr.unique (hverified.then (reviewRecorded cfg cms userId f data))
  rw [hat] at hrest
  have hread : ∀ row, ⟨.lock .update (.envelope f), row⟩ ∈ new → ∃ w₂, Steps (portal cfg) w w₂ ∧
      Steps (portal cfg) w₂ w' ∧ row = w₂.db (.envelope f) := by
    intro row hrow
    obtain ⟨w₂, ha, hb, _, hval, _⟩ := hnew _ hrow
    exact ⟨w₂, ha, hb, hval⟩
  have hmoved : ∀ row, ⟨.lock .update (.envelope f), row⟩ ∈ new → ∀ file', row = some file' →
      file'.filing.filingDateVersion ≠ evidence.dateVersion := by
    intro row hrow file' heq
    obtain ⟨w₂, ha, _, hval⟩ := hread row hrow
    rw [← hversion]
    exact h₁.moved_since hord ha hfile (hval.symm.trans heq)
  rcases reviewRecorded_stale haccept hrest hmoved with ⟨_, next, hq⟩ | ⟨row, htr, ⟨hq, hout⟩ | ⟨text, htext, hq⟩⟩
  · exact .inl ⟨next, hq⟩
  · obtain ⟨w₂, ha, hb, hval⟩ := hread row (htr ▸ List.mem_singleton_self _)
    exact .inr ⟨_, .decided ⟨w₂, ha, hb, fun file' hfile' => hout file' (hval.trans hfile')⟩, hq⟩
  · exact .inr ⟨_, .stale text htext, hq⟩

/-- A review that was overtaken by a date order: it has not committed, fails as outdated, and changes nothing. -/
structure Overtaken (cfg : Settings) (w w' : PortalWorld) (f : FilingId) (sid : Nat)
    (s' : Session View Failure Response Request) : Prop where
  found : w'.sessions sid = some s'
  uncommitted : ∀ a, s'.status ≠ .committed a
  failed : ∀ x, s'.status = .failed x → OutdatedFailure cfg w w' f x
  still : ∀ w'', Step (portal cfg) w' w'' → w''.sessions sid ≠ w'.sessions sid → w''.db = w'.db

/-- **A review whose filing's date was ordered after it was verified is overtaken.** -/
theorem Run.order_stale (h : Run cfg w₀ w) {sid : Nat} {s : Session View Failure Response Request}
    (hs : w.sessions sid = some s) {data : ClerkReviewRequest} (hreq : s.request = .reviewFiling userId f data cms)
    (haccept : data.action = .accept) (hrun : s.status = .running)
    (hverified : (reviewVerified userId f data).Ends s.trace evidence) :
    ∃ w₁ seen, Steps (portal cfg) w₁ w ∧ Seen s.trace f seen ∧ w₁.db (.envelope f) = some seen ∧
      (OrderedSince cfg w₁ w f → ∀ w', Steps (portal cfg) w w' → ∃ s', Overtaken cfg w w' f sid s') := by
  have hcurrent := h.guarded.current _ _ hs hrun
  obtain ⟨seen, order, hev⟩ := reviewVerified_meets haccept _ _ hverified hcurrent
  obtain ⟨w₁, rows, h₁, hs₁, hseen, hval, hversion⟩ := h.verified_at hs (fun _ he _ => he) hev
  refine ⟨w₁, rows, hs₁, hseen, hval, fun hord w' hs' => ?_⟩
  have hrest := fun w' (hs' : Steps (portal cfg) w w') =>
    h₁.order_rest hord hval hversion haccept hs hreq hverified hs'
  have hnever : ∀ w', Steps (portal cfg) w w' → ∀ s' a, w'.sessions sid = some s' →
      ¬ ((portal cfg).program s'.request).Ends s'.trace a := by
    intro w' hs' s' a hfound hends
    obtain ⟨s₂, hfound₂, _, hq⟩ := hrest w' hs'
    cases hfound.symm.trans hfound₂
    rcases hq _ hends with ⟨_, hq⟩ | ⟨_, _, hq⟩ <;> cases hq
  obtain ⟨s', hfound, hsame, hq⟩ := hrest w' hs'
  have hpath := (h.trans hs').guarded.path sid s' hfound
  refine ⟨s', hfound, fun a ha => ?_, fun x hx => ?_, fun w'' hstep hmoved => ?_⟩
  · rw [OnPath, ha] at hpath
    exact hnever w' hs' s' a hfound hpath
  · rw [OnPath, hx] at hpath
    rcases hq _ hpath with ⟨_, hq⟩ | ⟨y, hy, hq⟩
    · cases hq
    · cases hq
      exact hy
  · obtain ⟨s'', hfound'', hsame'', _⟩ := hstep.session_next hfound
    have hstill : ((portal cfg).program s''.request).Asks Op.Still := by
      rw [hsame'', hsame, hreq]
      exact reviewFiling_still userId f cms data
    rcases hstep.still hfound'' hmoved hstill with hdb | ⟨s₀, a, hc, _⟩
    · exact hdb
    · exact absurd hc.ends (hnever w' hs' s₀ a hc.found)

/-! ### A batch -/

/-- How a batch reports a filing whose date moved. -/
def OutdatedText (text : String) : Prop := StaleText text ∨ text = notAwaitingReview

/-- The batch reports this filing as failed because it is outdated. -/
def BatchResult.Outdated (result : BatchResult) (f : FilingId) : Prop :=
  f ∈ result.failed ∧ ∃ text, OutdatedText text ∧ (f, text) ∈ result.errors

theorem BatchResult.outdated_fail {result : BatchResult} {text : String} (h : OutdatedText text) :
    (result.fail f text).Outdated f :=
  ⟨List.mem_append_right _ List.mem_cons_self, text, h, List.mem_append_right _ List.mem_cons_self⟩

theorem BatchResult.Outdated.fail {result : BatchResult} (h : result.Outdated f) (g : FilingId) (text : String) :
    (result.fail g text).Outdated f :=
  ⟨List.mem_append_left _ h.1, h.2.imp fun _ ht => ⟨ht.1, List.mem_append_left _ ht.2⟩⟩

theorem BatchResult.Outdated.succeed {result : BatchResult} (h : result.Outdated f) (g : FilingId) :
    (result.succeed g).Outdated f := h

theorem recordBatch_outdated {items : List (BatchReviewItem × ReviewEvidence)} {result out : BatchResult} {tr : Trace}
    (h : (recordBatch cfg cms userId items result).Ends tr out) (hout : result.Outdated f) : out.Outdated f := by
  induction items generalizing result tr with
  | nil =>
    obtain ⟨_, rfl⟩ := Txn.ends_done.1 h
    exact hout
  | cons v items ih =>
    obtain ⟨tr₁, tr₂, outcome, rfl, _, hrest⟩ := Txn.ends_bind.1 h
    rcases outcome with x | (_ | _ | _)
    · exact ih hrest (hout.fail _ _)
    · exact ih hrest (hout.fail _ _)
    · exact ih hrest (hout.fail _ _)
    · exact ih hrest (hout.succeed _)

theorem recordBatch_stale {items : List (BatchReviewItem × ReviewEvidence)} {result out : BatchResult} {tr : Trace}
    {v : BatchReviewItem × ReviewEvidence} (h : (recordBatch cfg cms userId items result).Ends tr out) (hv : v ∈ items)
    (hmoved : ∀ row, ⟨.tryLock .update (.envelope v.1.filingId), row⟩ ∈ tr → ∀ file, row = some file →
      file.filing.filingDateVersion ≠ v.2.dateVersion) : out.Outdated v.1.filingId := by
  induction items generalizing result tr with
  | nil => exact absurd hv (by simp)
  | cons v' items ih =>
    obtain ⟨tr₁, tr₂, outcome, rfl, hitem, hrest⟩ := Txn.ends_bind.1 h
    rcases List.mem_cons.1 hv with rfl | hv
    · obtain ⟨next, heq, hnext⟩ := recordReview_stale cfg cms v.1.filingId userId none v.1.expectedSubmissionCount v.2
      rw [heq] at hitem
      obtain ⟨row, rest, rfl, hnested⟩ := Txn.ends_ask.1 hitem
      rcases hnext row (hmoved row (by simp)) with ⟨hdone, _⟩ | ⟨text, htext, hraise⟩
      · rw [hdone] at hnested
        obtain ⟨rfl, _⟩ := ends_settle hnested
        exact recordBatch_outdated hrest (BatchResult.outdated_fail (.inr rfl))
      · rw [hraise] at hnested
        obtain ⟨_, rest, rfl, hd⟩ := Txn.ends_ask.1 hnested
        obtain ⟨rfl, rfl⟩ := Txn.ends_done.1 hd
        exact recordBatch_outdated hrest (BatchResult.outdated_fail (.inl htext))
    · have hrest' := fun result' (hrest : (recordBatch cfg cms userId items result').Ends tr₂ out) =>
        ih hrest hv fun row hrow => hmoved row (List.mem_append_right _ hrow)
      rcases outcome with x | (_ | _ | _) <;> exact hrest' _ hrest

theorem OutdatedText.ne_cmsFailure {text : String} (h : OutdatedText text) : text ≠ batchCmsFailure := by
  rintro rfl
  rcases h with (h | h) | h
  · exact absurd (Failure.staleReview.inj h) (by decide)
  · exact absurd h (by decide)
  · exact absurd h (by decide)

theorem BatchResult.Outdated.not_reports {result : BatchResult} (h : result.Outdated f) (hexp : result.Explained)
    (hnodup : result.reported.Nodup) : ¬ result.Reports f := by
  obtain ⟨hfailed, text, htext, herror⟩ := h
  have hsplit := List.nodup_append.1 hnodup
  rintro (hsucc | hcms)
  · exact hsplit.2.2 f hsucc f hfailed rfl
  · have hnodup' : (result.errors.map Prod.fst).Nodup := by
      rw [hexp]
      exact hsplit.2.1
    have heq := List.inj_on_of_nodup_map hnodup' herror hcms rfl
    exact htext.ne_cmsFailure (congrArg Prod.snd heq)

theorem BatchResult.Outdated.answered {result result' : BatchResult} (h : result.Outdated f)
    (heq : Response.batch result.succeeded (result.failed.mergeSort fun a b => a ≤ b) result.errors =
      .batch result'.succeeded (result'.failed.mergeSort fun a b => a ≤ b) result'.errors) : result'.Outdated f := by
  obtain ⟨_, hfailed, herrors⟩ := Response.batch.inj heq
  have hmem : ∀ l : List FilingId, f ∈ l.mergeSort (fun a b => a ≤ b) ↔ f ∈ l := fun _ => List.mem_mergeSort
  constructor
  · rw [← hmem, ← hfailed, hmem]
    exact h.1
  · rw [← herrors]
    exact h.2

theorem lockFilings_locks {ids : List FilingId} {tr : Trace} (h : (lockFilings ids).Ends tr ()) {id : FilingId}
    (hid : id ∈ ids) : ∃ row, ⟨.lock .update (.envelope id), row⟩ ∈ tr := by
  induction ids generalizing tr with
  | nil => exact absurd hid (by simp)
  | cons id' ids ih =>
    obtain ⟨row, rest, rfl, hrest⟩ := Txn.ends_ask.1 h
    rcases List.mem_cons.1 hid with rfl | hid
    · exact ⟨row, List.mem_cons_self⟩
    · exact (ih hrest hid).imp fun _ => List.mem_cons_of_mem _

theorem batchVerified_meets {data : BatchReviewRequest} :
    Meets db (batchVerified userId data) fun tr out =>
      ∀ v ∈ out.1, ∃ seen order, Evidence tr v.1.filingId v.2 seen order := by
  simp only [batchVerified, meets_bind]
  refine lockCurrentUser_meets.mono ?_
  rintro tr₁ account ⟨_, hactive⟩
  refine (verifyBatch_meets hactive).mono ?_
  rintro tr₂ ⟨verified, result⟩ ⟨_, new, hnew, _, hwar⟩ v hv
  simp only [List.nil_append] at hnew
  obtain ⟨seen, order, h⟩ := (hwar v (hnew ▸ hv)).2 rfl
  exact ⟨seen, order, h.mono fun e he _ => List.mem_append_right _ he⟩

/-- What a batch has done when it ends that had verified this item, and had not locked its filing, in an
earlier world. -/
theorem Run.batch_rest {w₁ : PortalWorld} (h₁ : Run cfg w₀ w₁) (hord : OrderedSince cfg w₁ w f)
    (hfile : w₁.db (.envelope f) = some file) {v : BatchReviewItem × ReviewEvidence} (hf : v.1.filingId = f)
    (hversion : file.filing.filingDateVersion = v.2.dateVersion) {data : BatchReviewRequest} {sid : Nat}
    {s : Session View Failure Response Request} (hs : w.sessions sid = some s)
    (hreq : s.request = .batchReviewFilings userId data cms) {tr₁ tr₂ : Trace}
    {verified : List (BatchReviewItem × ReviewEvidence) × BatchResult} (htrace : s.trace = tr₁ ++ tr₂)
    (hverified : (batchVerified userId data).Ends tr₁ verified) (hv : v ∈ verified.1)
    (hunlocked : ∀ row, ⟨.lock .update (.envelope f), row⟩ ∉ tr₂) (hs' : Steps (portal cfg) w w')
    {s' : Session View Failure Response Request} {a : Response} (hc : Commits (portal cfg) w' sid s' a) :
    s'.request = s.request ∧ ∃ result : BatchResult,
      a = .batch result.succeeded (result.failed.mergeSort fun a b => a ≤ b) result.errors ∧ result.Outdated f := by
  obtain ⟨s₂, new, hfound, hsame, htrace', hnew⟩ := Steps.later hs' hs
  cases hfound.symm.trans hc.found
  have hends : (batchVerified userId data >>= batchRecorded cfg cms userId).Ends s'.trace a := by
    rw [← batchReviewFilings_eq]
    have hprogram : (portal cfg).program s'.request = batchReviewFilings cfg cms userId data := by
      rw [hsame, hreq]
      rfl
    exact hprogram ▸ hc.ends
  rw [htrace', htrace, List.append_assoc] at hends
  obtain ⟨r, hr, hrest⟩ := Txn.after_append.1 hends
  rw [hr.unique (hverified.then _)] at hrest
  obtain ⟨trl, trb, _, hsplit, hlock, hloop⟩ := Txn.ends_bind.1 hrest
  obtain ⟨tro, _, result, rfl, hrecord, hdone⟩ := Txn.ends_bind.1 hloop
  obtain ⟨rfl, rfl⟩ := Txn.ends_done.1 hdone
  refine ⟨hsame, result, rfl, ?_⟩
  obtain ⟨row, hrow⟩ := lockFilings_locks hlock (List.mem_map_of_mem (f := fun v => v.1.filingId) hv)
  rw [hf] at hrow
  have hpart : ∀ e ∈ tro, e ∈ new := by
    rcases List.append_eq_append_iff.1 hsplit with ⟨_, _, hnew'⟩ | ⟨_, htr₂, _⟩
    · intro e he
      rw [hnew']
      simp [he]
    · exact absurd (htr₂ ▸ List.mem_append_left _ hrow) (hunlocked row)
  rw [← hf]
  refine recordBatch_stale hrecord hv fun row hrow file' heq => ?_
  obtain ⟨w₂, ha, _, _, hval, _⟩ := hnew _ (hpart _ hrow)
  rw [← hversion]
  refine h₁.moved_since hord ha hfile ?_
  rw [← hf]
  exact hval.symm.trans heq

/-- **An item of a batch whose filing's date was ordered after it was verified is reported as outdated, and the batch
leaves its filing alone.** -/
theorem Run.batch_order_stale (h : Run cfg w₀ w) {sid : Nat} {s : Session View Failure Response Request}
    (hs : w.sessions sid = some s) {data : BatchReviewRequest} (hreq : s.request = .batchReviewFilings userId data cms)
    (hrun : s.status = .running) {tr₁ tr₂ : Trace} {verified : List (BatchReviewItem × ReviewEvidence) × BatchResult}
    (htrace : s.trace = tr₁ ++ tr₂) (hverified : (batchVerified userId data).Ends tr₁ verified)
    {v : BatchReviewItem × ReviewEvidence} (hv : v ∈ verified.1) (hf : v.1.filingId = f)
    (hunlocked : ∀ row, ⟨.lock .update (.envelope f), row⟩ ∉ tr₂) :
    ∃ w₁ seen, Steps (portal cfg) w₁ w ∧ Seen s.trace f seen ∧ w₁.db (.envelope f) = some seen ∧
      (OrderedSince cfg w₁ w f → ∀ w', Steps (portal cfg) w w' → ∀ s' a, Commits (portal cfg) w' sid s' a →
        (∃ result : BatchResult,
          a = .batch result.succeeded (result.failed.mergeSort fun a b => a ≤ b) result.errors ∧ result.Outdated f) ∧
        (w'.committed sid s' a).db (.envelope f) = w'.db (.envelope f)) := by
  have hcurrent := (current_append.1 (htrace ▸ h.guarded.current _ _ hs hrun)).1
  obtain ⟨seen, order, hev⟩ := batchVerified_meets _ _ hverified hcurrent v hv
  obtain ⟨w₁, rows, h₁, hs₁, hseen, hval, hversion⟩ :=
    h.verified_at hs (fun e he _ => htrace ▸ List.mem_append_left _ he) hev
  rw [hf] at hseen hval
  refine ⟨w₁, rows, hs₁, hseen, hval, fun hord w' hs' s' a hc => ?_⟩
  obtain ⟨hsame, result, ha, hout⟩ :=
    h₁.batch_rest hord hval hf hversion hs hreq htrace hverified hv hunlocked hs' hc
  refine ⟨⟨result, ha, hout⟩, ?_⟩
  have hprogram : (portal cfg).program s'.request = batchReviewFilings cfg cms userId data := by
    rw [hsame, hreq]
    rfl
  have hends := hprogram ▸ hc.ends
  obtain ⟨result₁, ha₁, hexp, _, hnodup⟩ := batchReviewFilings_accounts hends
  obtain ⟨result₂, ids, ha₂, hchanges⟩ :=
    batchReviewFilings_meets _ _ hends ((h.trans hs').guarded.current _ _ hc.found hc.running)
  rcases hchanges w'.db (.envelope f) with heq | ⟨g, _, file, file', _, hrep, hg⟩
  · exact heq
  · obtain ⟨rfl, _⟩ := hg
    obtain ⟨hsucceeded, _, herrors⟩ := Response.batch.inj (ha₁.symm.trans ha₂)
    refine absurd ?_ ((hout.answered (ha.symm.trans ha₁)).not_reports hexp hnodup)
    rw [BatchResult.Reports, hsucceeded, herrors]
    exact hrep

/-! ## The law -/

/-- **An acceptance has no date order between what it verified and its commit.** -/
theorem Run.accepted_unordered (h : Run cfg w₀ w) {sid : Nat} {s : Session View Failure Response Request}
    (hs : w.sessions sid = some s) (hfile : w.db (.envelope f) = some file) {seen : FilingFile}
    {order : Option FilingDocument} (hacc : Acceptable db s.trace f file seen order) :
    ∃ w₁ rows, AnsweredIn (portal cfg) w₀ w sid s ⟨.look (.envelope f), some rows⟩ w₁ ∧ ¬ OrderedSince cfg w₁ w f := by
  obtain ⟨_, w₁, rows, hans, hversion⟩ := h.accepted_unmoved hs hfile hacc
  refine ⟨w₁, rows, hans, fun hord => ?_⟩
  have hlt := Run.ordered_version ⟨h.start, hans.reached⟩ hord hans.look hfile
  omega

theorem FileStep.accepted_dates (h : FileStep cfg r db db' tr f file file') (hnot : file.filing.status ≠ .accepted)
    (haccepted : file'.filing.status = .accepted) :
    (∃ userId count, Reviews f userId count .accept r) ∧ ∃ seen, ReviewDates cfg db tr f file file' seen := by
  cases h with
  | accepted userId count time receivedAt seen order dated caseId a b t _ hr h hacc hreceived hdated hcase hrec =>
    have hfiling := hrec.filing_eq
    refine ⟨⟨userId, count, hr⟩, seen, hdated.reviewDates hacc hreceived ⟨?_, ?_, ?_, ?_⟩ ?_⟩
    · rw [hfiling]
    · rw [hfiling]
    · rw [hfiling]
    · rw [hfiling]
    · rw [hfiling]
  | submitted userId key token seen caseType time date basis t _ hr h hdate hrec =>
    rw [hrec.filing_eq] at haccepted
    simp only [FilingEnvelope.submittedNow] at haccepted
    split at haccepted <;> cases haccepted
  | cmsFailed _ _ _ _ _ _ _ _ _ _ _ _ _ _ _ hrec =>
    rw [hrec.filing_eq] at haccepted
    cases haccepted
  | declined userId count action time status event reason t _ hr h haction hrec =>
    rw [hrec.filing_eq] at haccepted
    rcases haction with ⟨_, rfl, _⟩ | ⟨_, rfl, _⟩ <;> cases haccepted
  | edited | uploaded | retired | erased | copyPrepared => exact absurd haccepted hnot
  | feesAssessed userId data a time t saved hr h hrec =>
    have hfiling := hrec.filing_eq
    simp only [hfiling] at haccepted
    exact absurd haccepted hnot
  | paid _ _ _ _ _ _ _ _ _ _ hrec | credited _ _ _ _ _ _ _ _ _ _ _ _ _ _ hrec | reversed _ _ _ _ _ _ _ _ _ _ _ hrec
  | feeReviewRequested _ _ _ _ _ _ _ hrec | waiverReferred _ _ _ _ _ _ _ _ hrec
  | waiverDecided _ _ _ _ _ _ _ _ _ _ hrec | dateOrdered _ _ _ _ _ _ _ _ hrec
  | published _ _ _ _ _ _ _ _ _ _ _ _ _ _ _ _ _ _ hrec | withheld _ _ _ _ _ _ _ _ hrec =>
    rw [hrec.filing_eq] at haccepted
    exact absurd haccepted hnot

/-- The session `sid` accepts the filing with this commit. -/
structure AcceptedBy (cfg : Settings) (w w' : PortalWorld) (f : FilingId) (sid : Nat)
    (s : Session View Failure Response Request) (a : Response) : Prop where
  commits : Commits (portal cfg) w sid s a
  after : w' = w.committed sid s a
  reviews : ∃ userId count, Reviews f userId count .accept s.request

/-- The rules for the date of a filing in one step of a run. -/
structure DateRules (cfg : Settings) (w₀ w w' : PortalWorld) (f : FilingId) (file file' : FilingFile) : Prop where
  /-- An acceptance without an ordered date finds the date that the calendars give that it read, those
  of that moment. -/
  accepted : file.filing.status ≠ .accepted → file'.filing.status = .accepted → file.filing.hasOrderedDate = false →
    ∃ filedAt sid s a calendars w₁ assessment, file'.filing.filedAt = some filedAt ∧ AcceptedBy cfg w w' f sid s a ∧
      AnsweredIn (portal cfg) w₀ w sid s ⟨.look (.calendars file.filing.courtId), calendars⟩ w₁ ∧
      w₁.db (.calendars file.filing.courtId) = calendars ∧ assessDate cfg calendars filedAt = .ok assessment ∧
      file'.filing.filingDate = assessment.filingDate
  /-- A submission keeps a date that is set. -/
  resubmitted : file'.filing.submissionCount ≠ file.filing.submissionCount → file.filing.filingDate ≠ none →
    file'.filing.filingDate = file.filing.filingDate
  /-- Only an order changes an ordered date. -/
  ordered : file.filing.hasOrderedDate = true → DateOrder cfg w w' f ∨
    (file'.filing.filingDate = file.filing.filingDate ∧ file'.filing.filingDateBasis = file.filing.filingDateBasis)
  /-- An acceptance has no order after the read of the filing that it verified. -/
  unordered : file.filing.status ≠ .accepted → file'.filing.status = .accepted →
    ∃ sid s a w₁ seen, AcceptedBy cfg w w' f sid s a ∧
      AnsweredIn (portal cfg) w₀ w sid s ⟨.look (.envelope f), some seen⟩ w₁ ∧ ¬ OrderedSince cfg w₁ w f

theorem DateRules.refl (w₀ w w' : PortalWorld) (f : FilingId) (file : FilingFile) :
    DateRules cfg w₀ w w' f file file where
  accepted hnot h := absurd h hnot
  resubmitted h := absurd rfl h
  ordered _ := .inr ⟨rfl, rfl⟩
  unordered hnot h := absurd h hnot

theorem FilingEnvelope.hasOrderedDate_congr {filing filing' : FilingEnvelope}
    (h : filing'.filingDateBasis = filing.filingDateBasis) : filing'.hasOrderedDate = filing.hasOrderedDate := by
  rw [hasOrderedDate, hasOrderedDate, h]

theorem FilingFile.DatesSound.ordered_date (h : file.DatesSound) (ho : file.filing.hasOrderedDate = true) :
    file.filing.filingDate ≠ none := by
  rw [h.date]
  cases hb : file.filing.filingDateBasis with
  | none => simp [FilingEnvelope.hasOrderedDate, hb] at ho
  | some basis =>
    cases basis with
    | calendar assessment => simp [FilingEnvelope.hasOrderedDate, hb, DateBasis.isCourtOrder] at ho
    | courtOrder => simp [DateBasis.date]

/-- **Every step keeps to the rules for dates.** -/
theorem Run.dateRules (h : Run cfg w₀ w) (hs : Step (portal cfg) w w') (hfile : w.db (.envelope f) = some file)
    (hfile' : w'.db (.envelope f) = some file') : DateRules cfg w₀ w w' f file file' := by
  cases h.envelope_change hs f with
  | same heq =>
    cases hfile'.symm.trans (heq.trans hfile)
    exact .refl w₀ w w' f file
  | created sid s a userId data key _ hc _ _ hnew => exact absurd (h.created_none hc hnew) (by simp [hfile])
  | step sid s a file₁ file₂ hc hw' hfile₁ hfile₂ hstep =>
    cases hfile.symm.trans hfile₁
    cases hfile'.symm.trans hfile₂
    have hsound := h.datesSound f file hfile
    constructor
    · intro hnot haccepted hunordered
      obtain ⟨hreviews, seen, hdates⟩ := hstep.accepted_dates hnot haccepted
      obtain ⟨order, hacc⟩ := hdates.acceptable
      obtain ⟨hsame, _⟩ := h.accepted_unmoved hc.found hfile hacc
      have hseen : seen.filing.hasOrderedDate = false :=
        (FilingEnvelope.hasOrderedDate_congr hsame.basis).symm.trans hunordered
      obtain ⟨receivedAt, calendars, assessment, hreceived, hcal, hassess, hbasis, _⟩ := hdates.assessed hseen
      obtain ⟨w₁, hans⟩ := h.steps.answered_at h.start.idle hc.found hcal
      refine ⟨receivedAt, sid, s, a, calendars, w₁, assessment, ?_, ⟨hc, hw', hreviews⟩, hans, hans.look,
        filingDateForReceipt_ok hassess, ?_⟩
      · rw [hdates.filedAt]
        exact hsound.received hreceived
      · rw [(hstep.dates.datesSound hsound).date, hbasis]
        rfl
    · intro hcount hdate
      cases hstep.dates with
      | same _ hcount' => exact absurd hcount' hcount
      | submitted userId key token time date basis hr hdate' hfiling =>
        rw [hfiling]
        cases hdate' with
        | assessed _ _ _ _ hnone => exact absurd hnone hdate
        | kept => rfl
      | reviewed _ _ _ _ _ hcount' => exact absurd hcount' hcount
      | ordered userId form id hr hfiling =>
        rw [hfiling] at hcount
        exact absurd rfl hcount
    · intro ho
      cases hstep.dates with
      | same hsame => exact .inr ⟨hsame.date, hsame.basis⟩
      | submitted userId key token time date basis hr hdate' hfiling =>
        rw [hfiling]
        cases hdate' with
        | assessed _ _ _ _ hnone => exact absurd hnone (hsound.ordered_date ho)
        | kept => exact .inr ⟨rfl, rfl⟩
      | reviewed userId count seen hr hdates _ =>
        obtain ⟨order, hacc⟩ := hdates.acceptable
        obtain ⟨hsame, _⟩ := h.accepted_unmoved hc.found hfile hacc
        have hsame' := hdates.ordered ((FilingEnvelope.hasOrderedDate_congr hsame.basis).symm.trans ho)
        exact .inr ⟨hsame'.date, hsame'.basis⟩
      | ordered userId form id hr hfiling =>
        refine .inl ⟨⟨sid, s, a, userId, form, hc, hw', hr⟩, ?_⟩
        rw [hfile, hfile']
        intro heq
        cases heq
        have hv : file.filing.filingDateVersion = file.filing.filingDateVersion + 1 := by
          conv_lhs => rw [hfiling]
        omega
    · intro hnot haccepted
      obtain ⟨hreviews, seen, hdates⟩ := hstep.accepted_dates hnot haccepted
      obtain ⟨order, hacc⟩ := hdates.acceptable
      obtain ⟨w₁, rows, hans, hnone⟩ := h.accepted_unordered hc.found hfile hacc
      exact ⟨sid, s, a, w₁, rows, ⟨hc, hw', hreviews⟩, hans, hnone⟩

theorem Run.opened_date (h : Run cfg w₀ w) (hs : Step (portal cfg) w w') {id : CaseId} {c : CaseFile}
    (hnone : w.db (.case id) = none) (hsome : w'.db (.case id) = some c) : ∃ f file file',
      w.db (.envelope f) = some file ∧ w'.db (.envelope f) = some file' ∧ file.filing.caseId = none ∧
      file'.filing.caseId = some id ∧ file'.filing.status = .accepted ∧
      c.row.filingDate = file'.filing.filingDate := by
  rcases Run.step_cases hs with heq | ⟨sid, s, a, hc, rfl⟩
  · rw [heq (.case id) rfl, hnone] at hsome
    cases hsome
  · rcases h.changes hc (.case id) with heq | ⟨c', hc', ⟨c₀, hc₀, _⟩ | ⟨f, file, file', _, hfile, hno, hfile',
      hid, hst, hd⟩⟩
    · cases hsome.symm.trans (heq.trans hnone)
    · rw [hnone] at hc₀
      cases hc₀
    · cases hsome.symm.trans hc'
      exact ⟨f, file, file', hfile, hfile', hno, hid, hst, hd.1⟩

/-- **Receipt times are set once, with the first submission; every step keeps to the rules for dates; a case opens with
the date of its filing; and a review, alone or in a batch, that has verified a filing whose date is then ordered fails
as outdated and changes nothing.** -/
theorem Run.filing_dates (h : Run cfg w₀ w) :
    (∀ f file, w.db (.envelope f) = some file →
      (file.filing.filedAt.isSome = true ↔ 0 < file.filing.submissionCount) ∧
      (∀ w' file' t, Steps (portal cfg) w w' → w'.db (.envelope f) = some file' → file.filing.filedAt = some t →
        file'.filing.filedAt = some t) ∧
      ∀ w' file', Step (portal cfg) w w' → w'.db (.envelope f) = some file' → DateRules cfg w₀ w w' f file file') ∧
    (∀ w' id c, Step (portal cfg) w w' → w.db (.case id) = none → w'.db (.case id) = some c → ∃ f file file',
      w.db (.envelope f) = some file ∧ w'.db (.envelope f) = some file' ∧ file.filing.caseId = none ∧
      file'.filing.caseId = some id ∧ file'.filing.status = .accepted ∧ c.row.filingDate = file'.filing.filingDate) ∧
    (∀ sid s userId f data cms evidence, w.sessions sid = some s → s.request = .reviewFiling userId f data cms →
      data.action = .accept → s.status = .running → (reviewVerified userId f data).Ends s.trace evidence →
      ∃ w₁ seen, Steps (portal cfg) w₁ w ∧ Seen s.trace f seen ∧ w₁.db (.envelope f) = some seen ∧
        (OrderedSince cfg w₁ w f → ∀ w', Steps (portal cfg) w w' → ∃ s', Overtaken cfg w w' f sid s')) ∧
    (∀ sid s userId data cms tr₁ tr₂ verified v, w.sessions sid = some s →
      s.request = .batchReviewFilings userId data cms → s.status = .running → s.trace = tr₁ ++ tr₂ →
      (batchVerified userId data).Ends tr₁ verified → v ∈ verified.1 →
      (∀ row, ⟨.lock .update (.envelope v.1.filingId), row⟩ ∉ tr₂) →
      ∃ w₁ seen, Steps (portal cfg) w₁ w ∧ Seen s.trace v.1.filingId seen ∧
        w₁.db (.envelope v.1.filingId) = some seen ∧
        (OrderedSince cfg w₁ w v.1.filingId → ∀ w', Steps (portal cfg) w w' → ∀ s' a,
          Commits (portal cfg) w' sid s' a →
          (∃ result : BatchResult, a = .batch result.succeeded (result.failed.mergeSort fun a b =>
          a ≤ b) result.errors ∧
            result.Outdated v.1.filingId) ∧
          (w'.committed sid s' a).db (.envelope v.1.filingId) = w'.db (.envelope v.1.filingId))) := by
  refine ⟨fun f file hfile => ⟨?_, ?_, ?_⟩, ?_, ?_, ?_⟩
  · exact (h.datesSound f file hfile).filedAt
  · exact fun w' file' t hs hfile' ht => h.filedAt_kept hs hfile hfile' ht
  · exact fun w' file' hs hfile' => h.dateRules hs hfile hfile'
  · exact fun w' id c hs hnone hsome => h.opened_date hs hnone hsome
  · exact fun sid s userId f data cms evidence hs hreq haccept hrun hverified =>
      h.order_stale hs hreq haccept hrun hverified
  · exact fun sid s userId data cms tr₁ tr₂ verified v hs hreq hrun htrace hverified hv hunlocked =>
      h.batch_order_stale hs hreq hrun htrace hverified hv rfl hunlocked

def smallAcceptance : Request := .reviewFiling 2 10 ⟨.accept, 1, none⟩ (submitFilingToCms .demo)

/-- The accepted filing keeps the time of its receipt and has the date that the calendars give for it, as the acceptance
reads them; the filing that it read has no order since. -/
theorem Run.filing_dates_accepted : ∃ w file file', Run .demo smallWorld w ∧ w.db (.envelope 10) = some file ∧
    acceptedWorld.db (.envelope 10) = some file' ∧ file'.filing.filedAt = some 4000 ∧ file'.filing.filingDate = some 0 ∧
    (∃ sid s a calendars w₁ assessment, AcceptedBy .demo w acceptedWorld 10 sid s a ∧
      AnsweredIn (portal .demo) smallWorld w sid s ⟨.look (.calendars 1), calendars⟩ w₁ ∧
      assessDate .demo calendars 4000 = .ok assessment ∧ assessment.filingDate = some 0) ∧
    ∃ sid s a w₁ seen, AcceptedBy .demo w acceptedWorld 10 sid s a ∧
      AnsweredIn (portal .demo) smallWorld w sid s ⟨.look (.envelope 10), some seen⟩ w₁ ∧
      ¬ OrderedSince .demo w₁ w 10 := by
  have hsound : (((portal .demo).program smallAcceptance).alone (portal .demo).row 5000 submittedWorld.db
      submittedWorld.next).sound = true := by decide +kernel
  have hanswer : (((portal .demo).program smallAcceptance).alone (portal .demo).row 5000 submittedWorld.db
      submittedWorld.next).result.isOk = true := by decide +kernel
  obtain ⟨w, s, a, hrun, hc, hserve, _, hrows⟩ := submittedWorld_run.served submittedWorld_calm hsound hanswer
  have hafter : acceptedWorld = w.committed 4 s a := by
    rw [acceptedWorld, World.serveAll, World.serveAll]
    exact hserve
  have hfile : (submittedWorld.db (.envelope 10)).any (fun file => file.filing.filedAt == some 4000 &&
      file.filing.status == .submitted && file.filing.courtId == 1 && !file.filing.hasOrderedDate) = true := by
    decide +kernel
  have hfile' : (acceptedWorld.db (.envelope 10)).any (fun file => file.filing.status == .accepted &&
      file.filing.filingDate == some 0) = true := by
    decide +kernel
  obtain ⟨file, hfile, hshape⟩ := (Option.any_eq_true _ _).1 hfile
  obtain ⟨file', hfile', hshape'⟩ := (Option.any_eq_true _ _).1 hfile'
  simp only [Bool.and_eq_true, beq_iff_eq, Bool.not_eq_true'] at hshape hshape'
  obtain ⟨⟨⟨hfiled, hstatus⟩, hcourt⟩, hordered⟩ := hshape
  rw [← hrows (.envelope 10) rfl] at hfile
  have hstep : Step (portal .demo) w acceptedWorld := hafter ▸ .commit 4 s a hc
  obtain ⟨_, hkept, hrules⟩ := (Run.filing_dates hrun).1 10 file hfile
  have hdates := hrules acceptedWorld file' hstep hfile'
  have hnot : file.filing.status ≠ .accepted := by simp [hstatus]
  have hfiled' := hkept acceptedWorld file' 4000 (.single hstep) hfile' hfiled
  obtain ⟨filedAt, sid, s₁, a₁, calendars, w₁, assessment, hreceived, hby, hans, _, hassess, hdate⟩ :=
    hdates.accepted hnot hshape'.1 hordered
  rw [hcourt] at hans
  rw [hfiled'] at hreceived
  cases hreceived
  exact ⟨w, file, file', hrun, hfile, hfile', hfiled', hshape'.2,
    ⟨sid, s₁, a₁, calendars, w₁, assessment, hby, hans, hassess, hdate.symm.trans hshape'.2⟩,
    hdates.unordered hnot hshape'.1⟩

end Muefs
