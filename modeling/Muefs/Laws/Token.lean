import Muefs.Steps.Persistence

/-!
# What the submission token binds

* `FeesKept`, `FileStep.feesKept` : a step that leaves the fee version alone leaves alone what prices a filing, except
  that an edit may drop a pending fee review;
* `DropsReview`, `Mindful` : the edits that do so on a filing which the demonstration table prices, and
  steps without them;
* `Reviewed` : what the filer reviews; `Run.token_binds` : equal tokens show equal reviews, over steps
  without such edits;
* `token_unbound` : with such an edit they need not.
-/

namespace Muefs
open RowLocks

variable {cfg : Settings} {r : Request} {db db' : Store} {tr : Trace} {f : FilingId} {file file' : FilingFile}

/-! ## What prices a filing -/

/-- The demonstration table gives this filing a price, unless a fee review is pending. -/
def DemoPriced (cfg : Settings) (filing : FilingEnvelope) (caseType : Option CaseType) : Prop :=
  cfg.allowDemoMode = true ∧ filing.feeAssessmentId = none ∧
    ∃ c, caseType = some c ∧ (filing.filingType = .initial ∨ c.filingFeeCents = 0)

/-- Everything that the price depends on, but for the fee version and the pending review. -/
structure FeesKept (file file' : FilingFile) : Prop where
  granted : file'.filing.feeWaiverGranted = file.filing.feeWaiverGranted
  due : file'.filing.feeWaiverAmountDueCents = file.filing.feeWaiverAmountDueCents
  referredAt : file'.filing.feeWaiverReferredAt = file.filing.feeWaiverReferredAt
  decidedAt : file'.filing.feeWaiverDecidedAt = file.filing.feeWaiverDecidedAt
  assessmentId : file'.filing.feeAssessmentId = file.filing.feeAssessmentId
  assessment : file'.assessment = file.assessment

theorem FeesKept.refl (file : FilingFile) : FeesKept file file := ⟨rfl, rfl, rfl, rfl, rfl, rfl⟩

theorem FeesKept.trans {file₁ file₂ file₃ : FilingFile} (h : FeesKept file₁ file₂) (h' : FeesKept file₂ file₃) :
    FeesKept file₁ file₃ where
  granted := h'.granted.trans h.granted
  due := h'.due.trans h.due
  referredAt := h'.referredAt.trans h.referredAt
  decidedAt := h'.decidedAt.trans h.decidedAt
  assessmentId := h'.assessmentId.trans h.assessmentId
  assessment := h'.assessment.trans h.assessment

theorem assessment_append (ts : List FilingTransaction) (h : file'.transactions = file.transactions ++ ts)
    (hid : file'.filing.feeAssessmentId = file.filing.feeAssessmentId) (hts : ∀ t ∈ ts, t.eventType ≠ .feeAssessed) :
    file'.assessment = file.assessment := by
  unfold FilingFile.assessment
  rw [hid, h]
  cases file.filing.feeAssessmentId with
  | none => rfl
  | some id =>
    have hnone : ts.find? (fun t => t.id == id && t.eventType == .feeAssessed) = none := by
      rw [List.find?_eq_none]
      intro t ht
      simp [hts t ht]
    simp only [List.find?_append, hnone, Option.or_none]

theorem Recorded.assessment_eq {base : FilingFile} {event : EventType} {actorId : UserId} {key : Option Uuid}
    {details : Details} {t : FilingTransaction} (h : Recorded cfg tr base event actorId key details file' t)
    (hbase : base.transactions = file.transactions) (hid : base.filing.feeAssessmentId = file.filing.feeAssessmentId)
    (hevent : event ≠ .feeAssessed) : file'.assessment = file.assessment := by
  refine assessment_append [t] (by rw [h.transactions_eq, hbase]) (by rw [h.filing_eq, hid]) ?_
  simpa [h.event_eq] using hevent

/-- The review that is pending stays so, or an edit turned a waiver request on. -/
def ReviewKept (r : Request) (f : FilingId) (file file' : FilingFile) : Prop :=
  file'.filing.feeReviewRequestedAt = file.filing.feeReviewRequestedAt ∨
    ∃ userId data, r = .updateFiling userId f data ∧ data.feeWaiverRequested = some true ∧
      file'.filing.feeReviewRequestedAt = none

theorem Recorded.feesKept {base : FilingFile} {event : EventType} {actorId : UserId} {key : Option Uuid}
    {details : Details} {t : FilingTransaction} (h : Recorded cfg tr base event actorId key details file' t)
    (hevent : event ≠ .feeAssessed) (hbase : base.transactions = file.transactions)
    (hkept : base.filing.feeWaiverGranted = file.filing.feeWaiverGranted ∧
      base.filing.feeWaiverAmountDueCents = file.filing.feeWaiverAmountDueCents ∧
      base.filing.feeWaiverReferredAt = file.filing.feeWaiverReferredAt ∧
      base.filing.feeWaiverDecidedAt = file.filing.feeWaiverDecidedAt ∧
      base.filing.feeAssessmentId = file.filing.feeAssessmentId ∧
      base.filing.feeReviewRequestedAt = file.filing.feeReviewRequestedAt) :
    FeesKept file file' ∧ ReviewKept r f file file' := by
  obtain ⟨h₁, h₂, h₃, h₄, h₅, h₆⟩ := hkept
  have hfiling := h.filing_eq
  exact ⟨⟨by rw [hfiling, h₁], by rw [hfiling, h₂], by rw [hfiling, h₃], by rw [hfiling, h₄], by rw [hfiling, h₅],
    h.assessment_eq hbase h₅ hevent⟩, .inl (by rw [hfiling, h₆])⟩

theorem Dated.feesKept {reviewerId : UserId} {receivedAt : Instant} {ordered : Bool} {dated : FilingFile}
    (h : Dated cfg tr reviewerId receivedAt file ordered dated) : FeesKept file dated ∧ ReviewKept r f file dated := by
  cases h with
  | ordered => exact ⟨.refl _, .inl rfl⟩
  | kept => exact ⟨.refl _, .inl rfl⟩
  | assessed calendars assessment hcal hassess previous _ t hrec =>
    exact hrec.feesKept (by decide) rfl ⟨rfl, rfl, rfl, rfl, rfl, rfl⟩

theorem Dated.feesKept_recorded {reviewerId : UserId} {receivedAt : Instant} {ordered : Bool}
    {base dated after : FilingFile} {event : EventType} {actorId : UserId} {key : Option Uuid} {details : Details}
    {t : FilingTransaction} (h : Dated cfg tr reviewerId receivedAt base ordered dated)
    (hbase : FeesKept file base ∧ base.filing.feeReviewRequestedAt = file.filing.feeReviewRequestedAt)
    (hrec : Recorded cfg tr after event actorId key details file' t) (hevent : event ≠ .feeAssessed)
    (hafter : after.transactions = dated.transactions)
    (hkept : after.filing.feeWaiverGranted = dated.filing.feeWaiverGranted ∧
      after.filing.feeWaiverAmountDueCents = dated.filing.feeWaiverAmountDueCents ∧
      after.filing.feeWaiverReferredAt = dated.filing.feeWaiverReferredAt ∧
      after.filing.feeWaiverDecidedAt = dated.filing.feeWaiverDecidedAt ∧
      after.filing.feeAssessmentId = dated.filing.feeAssessmentId ∧
      after.filing.feeReviewRequestedAt = dated.filing.feeReviewRequestedAt) :
    FeesKept file file' ∧ ReviewKept r f file file' := by
  obtain ⟨date, basis, hdate⟩ := h.filing_eq
  obtain ⟨hkept₁, _⟩ := h.feesKept (r := r) (f := f)
  obtain ⟨hkept₂, _⟩ := hrec.feesKept (r := r) (f := f) hevent hafter hkept
  refine ⟨(hbase.1.trans hkept₁).trans hkept₂, .inl ?_⟩
  rw [hrec.filing_eq, hkept.2.2.2.2.2, hdate]
  exact hbase.2

/-- **A step that leaves the fee version alone leaves alone what prices the filing.** -/
theorem FileStep.feesKept (h : FileStep cfg r db db' tr f file file')
    (hsame : file'.filing.feeVersion = file.filing.feeVersion) :
    FeesKept file file' ∧ ReviewKept r f file file' := by
  cases h with
  | edited userId data hr h =>
    refine ⟨⟨rfl, rfl, rfl, rfl, rfl, rfl⟩, ?_⟩
    by_cases hask : data.feeWaiverRequested = some true
    · exact .inr ⟨userId, data, hr, hask, if_pos hask⟩
    · exact .inl (if_neg hask)
  | uploaded => exact absurd hsame (Nat.succ_ne_self _)
  | retired => exact absurd hsame (Nat.succ_ne_self _)
  | erased => exact absurd hsame (Nat.succ_ne_self _)
  | feeReviewRequested userId data time t _ hr h hrec =>
    rw [hrec.filing_eq] at hsame
    exact absurd hsame (Nat.succ_ne_self _)
  | feesAssessed userId data a time t saved hr h hrec =>
    rw [hrec.filing_eq] at hsame
    exact absurd hsame (Nat.succ_ne_self _)
  | waiverReferred userId form time t _ hr haction h hrec =>
    rw [hrec.filing_eq] at hsame
    exact absurd hsame (Nat.succ_ne_self _)
  | waiverDecided userId form time doc due t _ hr haction h hrec =>
    rw [hrec.filing_eq] at hsame
    exact absurd hsame (Nat.succ_ne_self _)
  | submitted userId key token seen caseType time date basis t _ hr h hdate hrec =>
    refine hrec.feesKept ?_ rfl ⟨rfl, rfl, rfl, rfl, rfl, rfl⟩
    unfold FilingEnvelope.receiptEvent
    split <;> simp
  | accepted userId count time receivedAt seen order dated caseId a b t _ hr h hacc hreceived hdated hcase hrec =>
    exact hdated.feesKept_recorded ⟨⟨rfl, rfl, rfl, rfl, rfl, rfl⟩, rfl⟩ hrec (by decide) rfl
      ⟨rfl, rfl, rfl, rfl, rfl, rfl⟩
  | cmsFailed userId count time receivedAt seen order dated error t _ hr h hacc hreceived hdated hrec =>
    exact hdated.feesKept_recorded ⟨⟨rfl, rfl, rfl, rfl, rfl, rfl⟩, rfl⟩ hrec (by decide) rfl
      ⟨rfl, rfl, rfl, rfl, rfl, rfl⟩
  | declined userId count action time status event reason t _ hr h haction hrec =>
    refine hrec.feesKept ?_ rfl ⟨rfl, rfl, rfl, rfl, rfl, rfl⟩
    obtain ⟨_, _, rfl⟩ | ⟨_, _, rfl⟩ := haction <;> decide
  | copyPrepared => exact ⟨⟨rfl, rfl, rfl, rfl, rfl, rfl⟩, .inl rfl⟩
  | paid _ _ _ _ _ _ _ _ _ _ hrec | credited _ _ _ _ _ _ _ _ _ _ _ _ _ _ hrec
  | reversed _ _ _ _ _ _ _ _ _ _ _ hrec | dateOrdered _ _ _ _ _ _ _ _ hrec
  | published _ _ _ _ _ _ _ _ _ _ _ _ _ _ _ _ _ _ hrec | withheld _ _ _ _ _ _ _ _ hrec =>
    exact hrec.feesKept (by decide) rfl ⟨rfl, rfl, rfl, rfl, rfl, rfl⟩

/-- **A step that leaves the payment version alone leaves the payments alone.** -/
theorem FileStep.paymentsKept (h : FileStep cfg r db db' tr f file file')
    (hsame : file'.filing.paymentVersion = file.filing.paymentVersion) : file'.payments = file.payments := by
  cases h with
  | edited | uploaded | retired | erased | copyPrepared => rfl
  | paid userId data caseType payment snapshot t _ hr hf h hrec =>
    rw [hrec.filing_eq] at hsame
    exact absurd hsame (Nat.succ_ne_self _)
  | credited userId key data account caseType basis id snapshot t _ hr h hid hamount hrec =>
    rw [hrec.filing_eq] at hsame
    exact absurd hsame (Nat.succ_ne_self _)
  | reversed userId paymentId data payment snapshot t _ hr h hid hamount hrec =>
    rw [hrec.filing_eq] at hsame
    exact absurd hsame (Nat.succ_ne_self _)
  | accepted userId count time receivedAt seen order dated caseId a b t _ hr h hacc hreceived hdated hcase hrec =>
    exact hrec.payments_eq.trans hdated.payments_eq
  | cmsFailed userId count time receivedAt seen order dated error t _ hr h hacc hreceived hdated hrec =>
    exact hrec.payments_eq.trans hdated.payments_eq
  | feesAssessed _ _ _ _ _ _ _ _ hrec | feeReviewRequested _ _ _ _ _ _ _ hrec | waiverReferred _ _ _ _ _ _ _ _ hrec
  | waiverDecided _ _ _ _ _ _ _ _ _ _ hrec | submitted _ _ _ _ _ _ _ _ _ _ _ _ _ hrec
  | declined _ _ _ _ _ _ _ _ _ _ _ _ hrec | dateOrdered _ _ _ _ _ _ _ _ hrec
  | published _ _ _ _ _ _ _ _ _ _ _ _ _ _ _ _ _ _ hrec | withheld _ _ _ _ _ _ _ _ hrec => exact hrec.payments_eq

/-! ## The fee state -/

/-- The branch of `pricing` that looks at the demonstration table. -/
def demoPricing (cfg : Settings) (filing : FilingEnvelope) (caseType : Option CaseType) : Pricing :=
  if filing.feeAssessmentId = none ∧ cfg.allowDemoMode = true ∧ filing.feeReviewRequestedAt = none then
    match caseType with
    | some caseType =>
      if filing.filingType = .initial ∨ caseType.filingFeeCents = 0 then {
        source := .demo
        totalCents := some caseType.filingFeeCents
        items := [{
          feeType := "demo_example"
          amountCents := caseType.filingFeeCents
          description := "Synthetic example amount, not court assessed" }] }
      else { source := .unassessed }
    | none => { source := .unassessed }
  else { source := .unassessed }

theorem pricing_demo (cfg : Settings) (file : FilingFile) (caseType : Option CaseType) :
    pricing cfg file caseType =
      if file.filing.filingType = .serviceOnly then { source := .serviceOnly, totalCents := some 0 }
      else if file.filing.feeWaiverGranted = some true then { source := .waiver, totalCents := some 0 }
      else
        match file.filing.feeWaiverGranted, file.filing.feeWaiverAmountDueCents with
        | some false, some due => {
            source := .waiver
            totalCents := some due
            items := [{
              feeType := "waiver_decision"
              amountCents := due
              description := "Amount due under the signed fee waiver decision" }] }
        | _, _ =>
          match file.assessment.bind fun t => t.details.assessment with
          | some assessment => if file.assessmentStale then { source := .unassessed } else assessment.pricing
          | none => demoPricing cfg file.filing caseType := rfl

theorem demoPricing_of_not_demoPriced {filing : FilingEnvelope} {caseType : Option CaseType}
    (h : ¬ DemoPriced cfg filing caseType) : demoPricing cfg filing caseType = { source := .unassessed } := by
  unfold demoPricing
  split_ifs with hdemo
  · cases caseType with
    | none => rfl
    | some c => exact if_neg fun hpriced => h ⟨hdemo.2.1, hdemo.1, c, rfl, hpriced⟩
  · rfl

theorem DemoPriced.congr {filing filing' : FilingEnvelope} {caseType caseType' : Option CaseType}
    (h : DemoPriced cfg filing caseType) (hid : filing'.feeAssessmentId = filing.feeAssessmentId)
    (htype : filing'.filingType = filing.filingType)
    (hfee : caseType'.map CaseType.filingFeeCents = caseType.map CaseType.filingFeeCents) :
    DemoPriced cfg filing' caseType' := by
  obtain ⟨hdemo, hnone, c, rfl, htable⟩ := h
  obtain ⟨c', hc', hfee'⟩ := Option.map_eq_some_iff.1 hfee
  refine ⟨hdemo, hid.trans hnone, c', hc', ?_⟩
  rwa [htype, hfee']

theorem demoPricing_congr {filing filing' : FilingEnvelope} {caseType caseType' : Option CaseType}
    (hid : filing'.feeAssessmentId = filing.feeAssessmentId) (htype : filing'.filingType = filing.filingType)
    (hfee : caseType'.map CaseType.filingFeeCents = caseType.map CaseType.filingFeeCents)
    (hreview : filing'.feeReviewRequestedAt = filing.feeReviewRequestedAt ∨ ¬ DemoPriced cfg filing caseType) :
    demoPricing cfg filing' caseType' = demoPricing cfg filing caseType := by
  rcases hreview with hreview | hreview
  · unfold demoPricing
    rw [hid, htype, hreview]
    cases caseType <;> cases caseType' <;> simp_all
  · rw [demoPricing_of_not_demoPriced hreview]
    exact demoPricing_of_not_demoPriced fun hpriced => hreview (hpriced.congr hid.symm htype.symm hfee.symm)

theorem pricing_congr {caseType caseType' : Option CaseType} (h : FeesKept file file')
    (htype : file'.filing.filingType = file.filing.filingType)
    (hversion : file'.filing.feeVersion = file.filing.feeVersion)
    (hfee : caseType'.map CaseType.filingFeeCents = caseType.map CaseType.filingFeeCents)
    (hreview : file'.filing.feeReviewRequestedAt = file.filing.feeReviewRequestedAt ∨
      ¬ DemoPriced cfg file.filing caseType) :
    pricing cfg file' caseType' = pricing cfg file caseType := by
  have hstale : file'.assessmentStale = file.assessmentStale := by
    unfold FilingFile.assessmentStale
    rw [h.assessmentId, h.assessment, hversion]
  rw [pricing_demo, pricing_demo, h.granted, h.due, h.assessment, htype, hstale,
    demoPricing_congr h.assessmentId htype hfee hreview]

/-- What the fee state comes to. -/
structure FeeResult where
  source : FeeSource
  totalCents : Option Cents
  paidCents : Cents
  balanceDueCents : Option Cents
  obligationMet : Bool
  deriving DecidableEq

def FilingFeeState.result (fees : FilingFeeState) : FeeResult where
  source := fees.source
  totalCents := fees.totalCents
  paidCents := fees.paidCents
  balanceDueCents := fees.balanceDueCents
  obligationMet := fees.obligationMet

theorem feeState_result_congr {caseType caseType' : Option CaseType} (viewer viewer' : Option Viewer)
    (hprice : pricing cfg file' caseType' = pricing cfg file caseType)
    (hpaid : paidCents cfg file' = paidCents cfg file)
    (hwaiver : file'.filing.waiverPending = file.filing.waiverPending) :
    (feeState cfg file' caseType' viewer').result = (feeState cfg file caseType viewer).result := by
  simp only [feeState, FilingFeeState.result, hprice, hpaid, hwaiver]

variable {w₀ w w' : PortalWorld}

/-- A price that a session found for a filing is the price that its commit leaves, if it leaves what
prices the filing. -/
theorem Run.pricing_now (h : Run cfg w₀ w) {sid : Nat} {s : Session View Failure Response Request} {a : Response}
    (hc : Commits (portal cfg) w sid s a) {caseType : Option CaseType} (hpriced : Priced s.trace file.filing caseType)
    (hstep : FileStep cfg s.request w.db (commit s.trace w.db) s.trace f file file')
    (hversion : file'.filing.feeVersion = file.filing.feeVersion)
    (hreview : file'.filing.feeReviewRequestedAt = file.filing.feeReviewRequestedAt) :
    pricing cfg file' ((w.committed sid s a).db (.caseType file'.filing.caseTypeId)) = pricing cfg file caseType := by
  obtain ⟨w₁, hs₁, hs₁', hprice⟩ := h.steps.looked_at h.start.idle hc.found hpriced
  have h₁ : Run cfg w₀ w₁ := ⟨h.start, hs₁⟩
  have hfee := h₁.fee_fixed (hs₁'.tail (.commit sid s a hc)) file.filing.caseTypeId
  have hfixed := hstep.grows.fixed
  refine pricing_congr (hstep.feesKept hversion).1 hfixed.filingType hversion ?_ (.inl hreview)
  rw [hfixed.caseTypeId, hfee, ← hprice]

/-! ## The law -/

/-- An edit turns the waiver request on while a fee review is pending that keeps the demonstration price away. -/
structure DropsReview (cfg : Settings) (db : Store) (file : FilingFile) (data : FilingEnvelopeUpdate) : Prop where
  asks : data.feeWaiverRequested = some true
  pending : file.filing.feeReviewRequestedAt ≠ none
  priced : DemoPriced cfg file.filing (db (.caseType file.filing.caseTypeId))

/-- A step that is no such edit of this filing. -/
def Mindful (cfg : Settings) (f : FilingId) (w w' : PortalWorld) : Prop :=
  Step (portal cfg) w w' ∧ ∀ sid s a userId data file, Commits (portal cfg) w sid s a → w' = w.committed sid s a →
    s.request = .updateFiling userId f data → w.db (.envelope f) = some file → ¬ DropsReview cfg w.db file data

/-- The state of the fee waiver. -/
structure WaiverState where
  requested : Bool
  reason : Option String
  granted : Option Bool
  amountDueCents : Option Cents
  referredAt : Option Instant
  decidedAt : Option Instant
  deriving DecidableEq

def FilingEnvelope.waiverState (filing : FilingEnvelope) : WaiverState where
  requested := filing.feeWaiverRequested
  reason := filing.feeWaiverReason
  granted := filing.feeWaiverGranted
  amountDueCents := filing.feeWaiverAmountDueCents
  referredAt := filing.feeWaiverReferredAt
  decidedAt := filing.feeWaiverDecidedAt

/-- The filer reviews the same in both stores: documents, waiver and fees. -/
structure SameReview (cfg : Settings) (db db' : Store) (file file' : FilingFile) : Prop where
  documents : file'.currentDocuments.map FilingDocument.values = file.currentDocuments.map FilingDocument.values
  waiver : file'.filing.waiverState = file.filing.waiverState
  fees : ∀ viewer viewer', (feeState cfg file' (db' (.caseType file'.filing.caseTypeId)) viewer').result =
    (feeState cfg file (db (.caseType file.filing.caseTypeId)) viewer).result

/-- What equal versions say of a filing in an earlier and a later world. -/
structure Unchanged (cfg : Settings) (file file' : FilingFile) (caseType : Option CaseType) : Prop where
  fixed : file.filing.Fixed file'.filing
  counts : file.filing.Counts file'.filing
  fees : file'.filing.feeVersion = file.filing.feeVersion → FeesKept file file' ∧
    (file'.filing.feeReviewRequestedAt = file.filing.feeReviewRequestedAt ∨ ¬ DemoPriced cfg file.filing caseType)
  payments : file'.filing.paymentVersion = file.filing.paymentVersion → file'.payments = file.payments

theorem Run.unchanged (h : Run cfg w₀ w) (hs : Relation.ReflTransGen (Mindful cfg f) w w')
    (hfile : w.db (.envelope f) = some file) :
    ∃ file', w'.db (.envelope f) = some file' ∧
      Unchanged cfg file file' (w.db (.caseType file.filing.caseTypeId)) := by
  refine h.file_along (fun _ _ hstep => hstep.1) hfile ⟨.refl _, .refl _, fun _ => ⟨.refl _, .inl rfl⟩, fun _ => rfl⟩
    ?_ hs
  intro w₁ sid s a file₁ file₂ hrun hsteps hmindful hc hfile₁ hI hstep
  have hgrows := hstep.grows
  refine ⟨hI.fixed.trans hgrows.fixed, hI.counts.trans hgrows.counts, fun hsame => ?_, fun hsame => ?_⟩
  · have hlow := hI.counts.feeVersion
    have hhigh := hgrows.counts.feeVersion
    obtain ⟨hkept₁, hreview₁⟩ := hI.fees (by omega)
    obtain ⟨hkept₂, hreview₂⟩ := hstep.feesKept (by omega)
    refine ⟨hkept₁.trans hkept₂, ?_⟩
    rcases hreview₁ with hreview₁ | hfree
    · rcases hreview₂ with hreview₂ | ⟨userId, data, hr, hask, hdropped⟩
      · exact .inl (hreview₂.trans hreview₁)
      · by_cases hpending : file₁.filing.feeReviewRequestedAt = none
        · exact .inl (hdropped.trans (hpending.symm.trans hreview₁))
        · refine .inr fun hpriced => hmindful.2 sid s a userId data file₁ hc rfl hr hfile₁ ⟨hask, hpending, ?_⟩
          rw [hI.fixed.caseTypeId]
          exact hpriced.congr hkept₁.assessmentId hI.fixed.filingType (h.fee_fixed hsteps file.filing.caseTypeId)
    · exact .inr hfree
  · have hlow := hI.counts.paymentVersion
    have hhigh := hgrows.counts.paymentVersion
    exact (hstep.paymentsKept (by omega)).trans (hI.payments (by omega))

/-- **Equal submission tokens show equal reviews,** over any steps that do not drop a pending fee review. -/
theorem Run.token_binds (h : Run cfg w₀ w) (hs : Relation.ReflTransGen (Mindful cfg f) w w')
    (hfile : w.db (.envelope f) = some file) (hfile' : w'.db (.envelope f) = some file')
    (htoken : file'.submissionToken = file.submissionToken) : SameReview cfg w.db w'.db file file' := by
  obtain ⟨file₁, hfile₁, hI⟩ := h.unchanged hs hfile
  cases hfile'.symm.trans hfile₁
  simp only [FilingFile.submissionToken, Digest.of_inj, SubmissionValues.mk.injEq] at htoken
  obtain ⟨_, _, _, _, _, hversion, _, hpayments, hrequested, hgranted, hreason, hdue, hdocuments⟩ := htoken
  obtain ⟨hkept, hreview⟩ := hI.fees hversion
  have hfee := h.fee_fixed (Relation.ReflTransGen.mono (fun _ _ hstep => hstep.1) _ _ hs) file.filing.caseTypeId
  refine ⟨hdocuments, ?_, fun viewer viewer' => ?_⟩
  · simp only [FilingEnvelope.waiverState, hrequested, hreason, hgranted, hdue, hkept.referredAt, hkept.decidedAt]
  · rw [hI.fixed.caseTypeId]
    refine feeState_result_congr viewer viewer' (pricing_congr hkept hI.fixed.filingType hversion hfee hreview) ?_ ?_
    · unfold paidCents
      rw [hI.payments hpayments, hI.fixed.filerId]
    · unfold FilingEnvelope.waiverPending
      rw [hrequested, hgranted]

theorem mindful_of_not_demo (hdemo : cfg.allowDemoMode = false) (hs : Step (portal cfg) w w') : Mindful cfg f w w' :=
  ⟨hs, fun _ _ _ _ _ _ _ _ _ _ hdrops => by simp [hdrops.priced.1] at hdemo⟩

/-- An edit of the waiver request of the filing with the fee review. -/
def waiverEdit (from_ to_ : Bool) : Request := .updateFiling 1 10 {
  expectedDetailsToken := some (.of {
    id := 10, status := .draft, submissionCount := 0, caseTitle := some "C v D", filingDescription := none
    feeWaiverRequested := from_, feeWaiverReason := none })
  feeWaiverRequested := some to_
  loaded := by simp }

def waiverEdits : List (Instant × Request) := [(4000, waiverEdit false true), (5000, waiverEdit true false)]

/-- The world after the fee review was requested, and the one after the two edits. -/
def reviewedWorld (cfg : Settings) : PortalWorld := smallWorld.serveAll (portal cfg) 0 feeReviewRequests
def editedWorld (cfg : Settings) : PortalWorld := (reviewedWorld cfg).serveAll (portal cfg) 3 waiverEdits

abbrev filingTen (w : PortalWorld) : Option FilingFile := w.db (.envelope 10)

def sourceTen (cfg : Settings) (w : PortalWorld) : Option FeeSource :=
  (filingTen w).map fun file => (feeState cfg file (w.db (.caseType file.filing.caseTypeId)) none).source

def plainSettings : Settings := { Settings.demo with allowDemoMode := false }

/-- Outside demonstrations the two edits bring back the token, and with it the review. -/
theorem Run.token_binds_waiverEdits : ∃ w w' file file', Run plainSettings smallWorld w ∧
    filingTen w = some file ∧ filingTen w' = some file' ∧ file'.submissionToken = file.submissionToken ∧
      SameReview plainSettings w.db w'.db file file' := by
  have hrun : Run plainSettings smallWorld (reviewedWorld plainSettings) :=
    .serveAll smallWorld_initial (by decide +kernel)
  have hsteps : Steps (portal plainSettings) (reviewedWorld plainSettings) (editedWorld plainSettings) :=
    Run.serveMore smallWorld_initial (by decide +kernel)
  have htoken : (filingTen (reviewedWorld plainSettings)).any (fun file =>
      (filingTen (editedWorld plainSettings)).any fun file' => file'.submissionToken =
      file.submissionToken) = true := by
    decide +kernel
  obtain ⟨file, hfile, htoken⟩ := (Option.any_eq_true _ _).1 htoken
  obtain ⟨file', hfile', htoken⟩ := (Option.any_eq_true _ _).1 htoken
  have htoken := of_decide_eq_true htoken
  exact ⟨_, _, file, file', hrun, hfile, hfile', htoken, Run.token_binds hrun
    (Relation.ReflTransGen.mono (fun _ _ => mindful_of_not_demo rfl) _ _ hsteps) hfile hfile' htoken⟩

/-- **In a demonstration the two edits bring back the token but not the fees:** the review that was pending is gone, and
the table sets a price. -/
theorem token_unbound : ∃ w w' file file', Run .demo smallWorld w ∧ Steps (portal .demo) w w' ∧
    filingTen w = some file ∧ filingTen w' = some file' ∧ file'.submissionToken = file.submissionToken ∧
      sourceTen .demo w = some .unassessed ∧ sourceTen .demo w' = some .demo ∧
      ¬ SameReview .demo w.db w'.db file file' := by
  have hrun : Run .demo smallWorld (reviewedWorld .demo) :=
    .serveAll smallWorld_initial (by decide +kernel)
  have hsteps : Steps (portal .demo) (reviewedWorld .demo) (editedWorld .demo) :=
    Run.serveMore smallWorld_initial (by decide +kernel)
  have htoken : (filingTen (reviewedWorld .demo)).any (fun file =>
      (filingTen (editedWorld .demo)).any fun file' => file'.submissionToken = file.submissionToken) = true := by
    decide +kernel
  obtain ⟨file, hfile, htoken⟩ := (Option.any_eq_true _ _).1 htoken
  obtain ⟨file', hfile', htoken⟩ := (Option.any_eq_true _ _).1 htoken
  have hbefore : sourceTen .demo (reviewedWorld .demo) = some .unassessed := by
    decide +kernel
  have hafter : sourceTen .demo (editedWorld .demo) = some .demo := by
    decide +kernel
  refine ⟨_, _, file, file', hrun, hsteps, hfile, hfile', of_decide_eq_true htoken, hbefore, hafter, fun hsame => ?_⟩
  have hfees := congrArg FeeResult.source (hsame.fees none none)
  simp only [sourceTen, filingTen, hfile, Option.map_some, Option.some.injEq] at hbefore
  simp only [sourceTen, filingTen, hfile', Option.map_some, Option.some.injEq] at hafter
  exact absurd (hafter.symm.trans (hfees.trans hbefore)) (by decide)

end Muefs
