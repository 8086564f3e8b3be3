import Muefs.Laws.Integrity

/-!
# Court assessments

* `FilingFile.assessments` : the assessments on record;
* `FeeChange`, `FileStep.fees` : what a step does to the fee version, the documents and the assessments;
* `FilingFile.FeesSound`, `Run.feesSound` : an assessment of the current version lists the current documents;
* `Request.changesFees`, `Run.version_kept` : what happened while the fee version stayed;
* `Run.assessed` : the law.
-/

namespace Muefs
open RowLocks

variable {cfg : Settings} {r : Request} {db db' : Store} {tr : Trace} {f : FilingId} {file file' : FilingFile}

/-! ## Assessments -/

def FilingFile.assessments (file : FilingFile) : List FilingTransaction := file.events (· == .feeAssessed)

theorem FilingFile.assessment_eq (file : FilingFile) :
    file.assessment = file.filing.feeAssessmentId.bind fun id => file.assessments.find? (·.id == id) := by
  unfold assessment
  cases file.filing.feeAssessmentId with
  | none => rfl
  | some id =>
    change _ = (file.transactions.filter fun t => t.eventType == .feeAssessed).find? (·.id == id)
    rw [List.find?_filter]
    refine congrArg (List.find? · file.transactions) (funext fun t => ?_)
    rw [Bool.eq_iff_iff]
    simp [and_comm]

/-- The assessment lists the current documents. -/
def FilingFile.Lists (file : FilingFile) (t : FilingTransaction) : Prop :=
  ∃ rs, t.details.documents = some rs ∧ rs.map DocumentResponse.fingerprint = file.fingerprints

/-- What a step does to fees: nothing, a new version, or a new assessment of the version that it makes. -/
inductive FeeChange (tr : Trace) (file file' : FilingFile) : Prop where
  | same (hversion : file'.filing.feeVersion = file.filing.feeVersion)
      (hid : file'.filing.feeAssessmentId = file.filing.feeAssessmentId)
      (hassessments : file'.assessments = file.assessments) (hdocs : file'.fingerprints = file.fingerprints)
  | raised (hversion : file'.filing.feeVersion = file.filing.feeVersion + 1)
      (hid : file'.filing.feeAssessmentId = file.filing.feeAssessmentId)
      (hassessments : file'.assessments = file.assessments)
  | assessed (t : FilingTransaction) (a : AssessmentDetails)
      (hversion : file'.filing.feeVersion = file.filing.feeVersion + 1)
      (hid : file'.filing.feeAssessmentId = some t.id) (hassessments : file'.assessments = file.assessments ++ [t])
      (ha : t.details.assessment = some a) (hcurrent : a.filingVersion = file'.filing.feeVersion)
      (hlists : file'.Lists t) (hdrew : ⟨.fresh, t.id⟩ ∈ tr)

theorem Recorded.feesSame {base : FilingFile} {event : EventType} {actorId : UserId} {key : Option Uuid}
    {details : Details} {t : FilingTransaction} (h : Recorded cfg tr base event actorId key details file' t)
    (hbase : FeeChange tr file base) (hevent : (event == .feeAssessed) = false) : FeeChange tr file file' := by
  have hassessments : file'.assessments = base.assessments := h.events_eq hevent
  cases hbase with
  | same hversion hid hsame hdocs =>
    refine .same ?_ ?_ (hassessments.trans hsame) (h.fingerprints_eq.trans hdocs)
    · rw [h.filing_eq, hversion]
    · rw [h.filing_eq, hid]
  | raised hversion hid hsame =>
    refine .raised ?_ ?_ (hassessments.trans hsame)
    · rw [h.filing_eq, hversion]
    · rw [h.filing_eq, hid]
  | assessed t a hversion hid hsame ha hcurrent hlists hdrew =>
    refine .assessed t a ?_ ?_ (hassessments.trans hsame) ha ?_ ?_ hdrew
    · rw [h.filing_eq, hversion]
    · rw [h.filing_eq, hid]
    · rw [h.filing_eq, hcurrent]
    · obtain ⟨rs, hrs, hfp⟩ := hlists
      exact ⟨rs, hrs, hfp.trans h.fingerprints_eq.symm⟩

/-- **What a step does to fees.** -/
theorem FileStep.fees (h : FileStep cfg r db db' tr f file file') : FeeChange tr file file' := by
  cases h with
  | edited => exact .same rfl rfl rfl rfl
  | copyPrepared => exact .same rfl rfl rfl rfl
  | uploaded => exact .raised rfl rfl rfl
  | retired => exact .raised rfl rfl rfl
  | erased => exact .raised rfl rfl rfl
  | feeReviewRequested userId data time t _ hr h hrec => exact hrec.feesSame (.raised rfl rfl rfl) rfl
  | feesAssessed userId data a time t saved hr h hrec =>
    have hfiling := hrec.filing_eq
    have hdocs : saved.fingerprints = file.fingerprints := hrec.fingerprints_eq.trans (fingerprints_retain time _)
    obtain ⟨why, hdetails⟩ := hrec.kept rfl (by decide)
    have hassessments : saved.assessments = file.assessments ++ [t] := hrec.events_concat (p := (· == .feeAssessed)) rfl
    refine .assessed t a ?_ rfl hassessments (by rw [hdetails]) ?_ ?_ hrec.drew
    · simp only [hfiling]; rfl
    · simp only [hfiling, h.version]; rfl
    · exact ⟨file.documentResponses, by rw [hdetails], (file.documentResponses_fingerprint).trans hdocs.symm⟩
  | waiverReferred userId form time t _ hr haction h hrec => exact hrec.feesSame (.raised rfl rfl rfl) rfl
  | waiverDecided userId form time doc due t _ hr haction h hrec =>
    refine hrec.feesSame (.raised rfl rfl rfl) ?_
    cases form.action <;> rfl
  | submitted userId key token seen caseType time date basis t _ hr h hdate hrec =>
    refine hrec.feesSame (.same rfl rfl rfl rfl) ?_
    unfold FilingEnvelope.receiptEvent
    split <;> rfl
  | accepted userId count time receivedAt seen order dated caseId a b t _ hr h hacc hreceived hdated hcase hrec =>
    obtain ⟨date, basis, hd⟩ := hdated.filing_eq
    refine hrec.feesSame (.same ?_ ?_ (hdated.events_eq (p := (· == .feeAssessed)) rfl) ?_) rfl
    · simp only [hd]; rfl
    · simp only [hd]; rfl
    · simp only [FilingFile.fingerprints, FilingFile.currentDocuments, hdated.documents_eq]
  | cmsFailed userId count time receivedAt seen order dated error t _ hr h hacc hreceived hdated hrec =>
    obtain ⟨date, basis, hd⟩ := hdated.filing_eq
    refine hrec.feesSame (.same ?_ ?_ (hdated.events_eq (p := (· == .feeAssessed)) rfl) ?_) rfl
    · simp only [hd]; rfl
    · simp only [hd]; rfl
    · simp only [FilingFile.fingerprints, FilingFile.currentDocuments, hdated.documents_eq]
  | declined userId count action time status event reason t _ hr h haction hrec =>
    refine hrec.feesSame (.same rfl rfl rfl rfl) ?_
    obtain ⟨_, _, rfl⟩ | ⟨_, _, rfl⟩ := haction <;> rfl
  | dateOrdered userId form doc change t _ hr h hrec =>
    refine hrec.feesSame (.same rfl rfl rfl ?_) rfl
    exact congrArg (List.map FilingDocument.fingerprint) (fingerprints_court (by rw [h.type_eq]; decide))
  | published userId documentId data doc copy g probe rows t _ hr h hblock hindexed hprobe hrows hcopy hdoc hrec =>
    exact hrec.feesSame (.same rfl rfl rfl (file.setAccess_fingerprints _ _ _)) rfl
  | withheld userId documentId data doc t _ hr h hrec =>
    exact hrec.feesSame (.same rfl rfl rfl (file.setAccess_fingerprints _ _ _)) rfl
  | paid _ _ _ _ _ _ _ _ _ _ hrec | credited _ _ _ _ _ _ _ _ _ _ _ _ _ _ hrec | reversed _ _ _ _ _ _ _ _ _ _ _ hrec =>
    exact hrec.feesSame (.same rfl rfl rfl rfl) rfl

/-! ## Every filing -/

/-- No assessment is of a later version, and the one that the filing refers to, if it is of the current version, lists
the current documents. -/
structure FilingFile.FeesSound (file : FilingFile) : Prop where
  versions : ∀ t ∈ file.assessments, ∃ a, t.details.assessment = some a ∧ a.filingVersion ≤ file.filing.feeVersion
  lists : ∀ t a, file.assessment = some t → t.details.assessment = some a → a.filingVersion = file.filing.feeVersion →
    file.Lists t

theorem FilingFile.assessment_mem {t : FilingTransaction} (h : file.assessment = some t) : t ∈ file.assessments := by
  rw [FilingFile.assessment_eq, Option.bind_eq_some_iff] at h
  obtain ⟨id, _, hfind⟩ := h
  exact List.mem_of_find?_eq_some hfind

theorem FeeChange.sound (h : FeeChange tr file file') (hnew : ∀ t ∈ file.transactions, ⟨.fresh, t.id⟩ ∉ tr)
    (hI : file.FeesSound) : file'.FeesSound := by
  cases h with
  | same hversion hid hassessments hdocs =>
    have hsame : file'.assessment = file.assessment := by
      rw [FilingFile.assessment_eq, hid, hassessments, ← FilingFile.assessment_eq]
    refine ⟨?_, fun t a ht ha hv => ?_⟩
    · rw [hassessments, hversion]
      exact hI.versions
    · obtain ⟨rs, hrs, hfp⟩ := hI.lists t a (hsame ▸ ht) ha (hv.trans hversion)
      exact ⟨rs, hrs, hfp.trans hdocs.symm⟩
  | raised hversion hid hassessments =>
    refine ⟨fun t ht => ?_, fun t a ht ha hv => ?_⟩
    · obtain ⟨a, ha, hle⟩ := hI.versions t (hassessments ▸ ht)
      exact ⟨a, ha, by omega⟩
    · obtain ⟨a', ha', hle⟩ := hI.versions t (hassessments ▸ FilingFile.assessment_mem ht)
      cases ha.symm.trans ha'
      omega
  | assessed u b hversion hid hassessments hb hcurrent hlists hdrew =>
    refine ⟨fun t ht => ?_, fun t a ht _ _ => ?_⟩
    · rw [hassessments] at ht
      rcases List.mem_append.1 ht with ht | ht
      · obtain ⟨a, ha, hle⟩ := hI.versions t ht
        exact ⟨a, ha, by omega⟩
      · cases List.mem_singleton.1 ht
        exact ⟨b, hb, hcurrent.le⟩
    · have hold : file.assessments.find? (·.id == u.id) = none := by
        rw [List.find?_eq_none]
        intro v hv heq
        refine hnew v (FilingFile.mem_events.1 hv).1 ?_
        rwa [eq_of_beq heq]
      have hfind : file'.assessment = some u := by
        rw [FilingFile.assessment_eq, hid, hassessments]
        simp [List.find?_append, hold]
      cases hfind.symm.trans ht
      exact hlists

variable {w₀ w w' : PortalWorld}

/-- **An assessment of the current version lists the current documents.** -/
theorem Run.feesSound (h : Run cfg w₀ w) : ∀ f file, w.db (.envelope f) = some file → file.FeesSound := by
  refine h.file_invariant ?_ ?_
  · intro w sid s a f userId data key file' _ _ hnew
    rw [hnew.file_eq]
    refine ⟨fun t ht => ?_, fun t a ht => ?_⟩
    · cases ht
    · cases ht
  · intro w sid s a f file file' hrun hc hfile hI hstep
    exact hstep.fees.sound (fun t ht => hrun.not_drawn hc hfile (.transaction t ht rfl)) hI

/-! ## While the fee version stays -/

/-- An upload, a removal, a request for a fee review, an assessment, or a referral or decision of a waiver, of this
filing. -/
def Request.changesFees (f : FilingId) : Request → Bool
  | .uploadDocument _ g _ _ _ | .removeDocument _ g _ | .requestFeeReview _ g _ | .assessFees _ g _
  | .decideFeeWaiver _ g _ => g == f
  | _ => false

theorem Reviews.keepsFees {userId : UserId} {count : Nat} {action : ReviewAction}
    (h : Reviews f userId count action r) :
    r.changesFees f = false := by
  cases h <;> rfl

theorem FileStep.raised (h : FileStep cfg r db db' tr f file file') (hr : r.changesFees f = true) :
    file'.filing.feeVersion = file.filing.feeVersion + 1 := by
  cases h with
  | uploaded | retired | erased => rfl
  | feeReviewRequested userId data time t _ hr' h hrec => rw [hrec.filing_eq]; rfl
  | feesAssessed userId data a time t saved hr' h hrec =>
    have hfiling := hrec.filing_eq
    simp only [hfiling]
    rfl
  | waiverReferred userId form time t _ hr' haction h hrec => rw [hrec.filing_eq]
  | waiverDecided userId form time doc due t _ hr' haction h hrec => rw [hrec.filing_eq]
  | edited userId data hr' | paid userId data caseType payment snapshot t _ hr'
  | credited userId key data account caseType basis id snapshot t _ hr'
  | reversed userId paymentId data payment snapshot t _ hr'
  | submitted userId key token seen caseType time date basis t _ hr' | dateOrdered userId form doc change t _ hr'
  | copyPrepared userId documentId title upload doc copy hr'
  | published userId documentId data doc copy g probe rows t _ hr' | withheld userId documentId data doc t _ hr' =>
    subst hr'
    cases hr
  | accepted userId count time receivedAt seen order dated caseId a b t _ hr' => simp [hr'.keepsFees] at hr
  | cmsFailed userId count time receivedAt seen order dated error t _ hr' => simp [hr'.keepsFees] at hr
  | declined userId count action time status event reason t _ hr' => simp [hr'.keepsFees] at hr

/-- **While the fee version of a filing stays, none of these requests changes it.** -/
theorem Run.version_kept (h : Run cfg w₀ w) {sid : Nat} {s : Session View Failure Response Request} {a : Response}
    (hc : Commits (portal cfg) w sid s a) (hr : s.request.changesFees f = true) (hfile : w.db (.envelope f) = some file)
    (hs : Steps (portal cfg) (w.committed sid s a) w') (hfile' : w'.db (.envelope f) = some file')
    (hversion : file'.filing.feeVersion = file.filing.feeVersion) :
    (w.committed sid s a).db (.envelope f) = w.db (.envelope f) := by
  rcases h.changes hc (.envelope f) with heq | ⟨file₁, hfile₁, ⟨userId, data, key, hnew⟩ | ⟨file₀, hfile₀, hstep⟩⟩
  · exact heq
  · exact absurd (h.created_none hc hnew) (by simp [hfile])
  · cases hfile.symm.trans hfile₀
    have hraised := hstep.raised hr
    have hlater := ((h.tail (.commit sid s a hc)).grew_to hs hfile₁ hfile').counts.feeVersion
    omega

/-- The assessment that a fee state relies on: recorded for the current documents, by a commit since which no upload,
removal, fee review, assessment, referral or waiver decision has changed the filing. -/
structure Assessed (cfg : Settings) (w₀ w : PortalWorld) (f : FilingId) (file : FilingFile) (t : FilingTransaction) :
    Prop where
  mem : t ∈ file.transactions
  event : t.eventType = .feeAssessed
  lists : file.Lists t
  recorded : ∃ w₁ sid s a file₁ file₂, RecordedAt cfg w₀ w f t w₁ sid s a file₁ file₂
  since : ∀ w₁ sid s a file₁ file₂, RecordedAt cfg w₀ w f t w₁ sid s a file₁ file₂ → ∀ w₂ sid' s' a',
    Steps (portal cfg) (w₁.committed sid s a) w₂ → Commits (portal cfg) w₂ sid' s' a' →
    Steps (portal cfg) (w₂.committed sid' s' a') w → s'.request.changesFees f = true →
    (w₂.committed sid' s' a').db (.envelope f) = w₂.db (.envelope f)

theorem RecordedAt.assessed_version {t : FilingTransaction} {w₁ : PortalWorld} {sid : Nat}
    {s : Session View Failure Response Request} {a : Response} (h : RecordedAt cfg w₀ w f t w₁ sid s a file file')
    (hevent : t.eventType = .feeAssessed) {b : AssessmentDetails} (hb : t.details.assessment = some b) :
    b.filingVersion = file'.filing.feeVersion := by
  have hnew : t ∈ file'.assessments := FilingFile.mem_events.2 ⟨h.mem, by rw [hevent]; rfl⟩
  have hold : t ∉ file.assessments := fun hmem => h.absent (FilingFile.mem_events.1 hmem).1
  cases h.step.fees with
  | same _ _ hassessments => exact absurd (hassessments ▸ hnew) hold
  | raised _ _ hassessments => exact absurd (hassessments ▸ hnew) hold
  | assessed u b' hversion hid hassessments hb' hcurrent =>
    rcases List.mem_append.1 (hassessments ▸ hnew) with hmem | hmem
    · exact absurd hmem hold
    · cases List.mem_singleton.1 hmem
      cases hb.symm.trans hb'
      exact hcurrent

theorem pricing_court {caseType : Option CaseType} (h : (pricing cfg file caseType).source = .court) :
    ∃ t a, file.assessment = some t ∧ t.details.assessment = some a ∧ a.filingVersion = file.filing.feeVersion := by
  revert h
  unfold pricing
  dsimp only
  split
  · nofun
  split
  · nofun
  split
  · nofun
  split
  · rename_i a ha
    split
    · nofun
    · rename_i hstale
      intro _
      obtain ⟨t, ht, hta⟩ := Option.bind_eq_some_iff.1 ha
      refine ⟨t, a, ht, hta, ?_⟩
      have hid : file.filing.feeAssessmentId.isSome = true := by
        cases hid : file.filing.feeAssessmentId with
        | none => simp [FilingFile.assessment, hid] at ht
        | some id => rfl
      simpa [FilingFile.assessmentStale, hid, ha] using hstale
  · split
    · split
      · split <;> nofun
      · nofun
    · nofun

/-- **A filing whose fees are a court's has the documents that the court assessed, and nothing that makes an assessment
stale has happened to it since.** -/
theorem Run.assessed (h : Run cfg w₀ w) (hfile : w.db (.envelope f) = some file) {caseType : Option CaseType}
    {viewer : Option Viewer} (hcourt : (feeState cfg file caseType viewer).source = .court) :
    ∃ t, (feeState cfg file caseType viewer).assessmentId = some t.id ∧ Assessed cfg w₀ w f file t := by
  obtain ⟨t, a, ht, ha, hversion⟩ := pricing_court hcourt
  have hmem := FilingFile.mem_events.1 (FilingFile.assessment_mem ht)
  have hevent : t.eventType = .feeAssessed := eq_of_beq hmem.2
  refine ⟨t, ?_, hmem.1, hevent, (h.feesSound f file hfile).lists t a ht ha hversion, h.recorded_at hfile hmem.1, ?_⟩
  · have hsource : (pricing cfg file caseType).source = .court := hcourt
    simp [feeState, hsource, ht]
  · intro w₁ sid s b file₁ file₂ hat w₂ sid' s' b' hs hc hs' hr
    obtain ⟨file₃, hfile₃, hgrew⟩ := hat.run_after.grew hs hat.after
    have hrun := hat.run_after.trans hs
    have hfirst := hat.assessed_version hevent ha
    have hlast := (hrun.grew_to (.head (.commit sid' s' b' hc) hs') hfile₃ hfile).counts.feeVersion
    have hgrown := hgrew.counts.feeVersion
    exact hrun.version_kept hc hr hfile₃ hs' hfile (by omega)

/-! ## A small portal -/

def assessRequests : List (Instant × Request) := [
  (1000, .createFiling 1 smallDraft 7),
  (2000, .uploadDocument 1 10 8 ⟨"COMPLAINT", "Complaint", false⟩ smallUpload),
  (3000, .assessFees 2 10 ⟨1, "Fee schedule", "Filing fee", [⟨"filing", 17500, "Civil filing fee"⟩]⟩)]

def assessedWorld : PortalWorld := smallWorld.serveAll (portal .demo) 0 assessRequests

theorem assessedWorld_run : Run .demo smallWorld assessedWorld := Run.serveAll smallWorld_initial (by decide +kernel)

/-- The filing that the clerk of the small portal assessed. -/
theorem Run.assessed_small : ∃ file t, assessedWorld.db (.envelope 10) = some file ∧
    (feeState .demo file none none).source = .court ∧ Assessed .demo smallWorld assessedWorld 10 file t := by
  have hfile : (assessedWorld.db (.envelope 10)).any (fun file =>
      (feeState .demo file none none).source == .court) = true := by
    decide +kernel
  obtain ⟨file, hfile, hsource⟩ := (Option.any_eq_true _ _).1 hfile
  have hcourt : (feeState .demo file none none).source = .court := eq_of_beq hsource
  obtain ⟨t, _, hassessed⟩ := Run.assessed assessedWorld_run hfile hcourt
  exact ⟨file, t, hfile, hcourt, hassessed⟩

end Muefs
