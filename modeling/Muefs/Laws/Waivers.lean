import Muefs.Steps.Persistence

/-!
# Fee waivers

* `EventType.isWaiver` : referrals, grants and denials; `FilingFile.waiverEvents` : those on record;
* `WaiverChange`, `FileStep.waiver` : what a step does to a fee waiver;
* `FilingFile.WaiverSound`, `Run.waiverSound` : outcome, amount and record agree;
* `Run.waiver_kept` : a decision and a submitted request stay;
* `Run.waivers` : the law.
-/

namespace Muefs
open RowLocks

variable {cfg : Settings} {r : Request} {db db' : Store} {tr : Trace} {f : FilingId} {file file' : FilingFile}

/-! ## The record of a waiver -/

def EventType.isWaiverDecision (event : EventType) : Bool := event == .waiverGranted || event == .waiverDenied

def EventType.isWaiver (event : EventType) : Bool := event == .waiverReferred || event.isWaiverDecision

/-- Referrals, grants and denials, in the order of their commits. -/
def FilingFile.waiverEvents (file : FilingFile) : List FilingTransaction := file.events EventType.isWaiver

def FilingTransaction.isClerkGrant (t : FilingTransaction) : Bool :=
  t.eventType == .waiverGranted && t.details.waiverBasis != some .grantJudicial

/-- Nothing of the waiver changes, except perhaps its request before the first submission. -/
structure SameWaiver (file file' : FilingFile) : Prop where
  granted : file'.filing.feeWaiverGranted = file.filing.feeWaiverGranted
  due : file'.filing.feeWaiverAmountDueCents = file.filing.feeWaiverAmountDueCents
  referredAt : file'.filing.feeWaiverReferredAt = file.filing.feeWaiverReferredAt
  decidedAt : file'.filing.feeWaiverDecidedAt = file.filing.feeWaiverDecidedAt
  submitted : file.filing.submittedAt.isSome = true → file'.filing.submittedAt.isSome = true
  requested : file.filing.submittedAt.isSome = true → file'.filing.feeWaiverRequested = file.filing.feeWaiverRequested ∧
    file'.filing.feeWaiverReason = file.filing.feeWaiverReason
  events : file'.waiverEvents = file.waiverEvents

/-- What a step does to a fee waiver: nothing, a referral of a pending request, or its decision. -/
inductive WaiverChange (r : Request) (db : Store) (f : FilingId) (file file' : FilingFile) : Prop where
  | same (h : SameWaiver file file')
  | referred (userId : UserId) (form : WaiverForm) (time : Instant) (t : FilingTransaction)
      (hr : r = .decideFeeWaiver userId f form) (haction : form.action = .refer)
      (h : WaiverOpen db file userId .refer form.expectedFeeVersion)
      (hevent : t.eventType = .waiverReferred) (hactor : t.actorId = userId)
      (hfiling : file'.filing = { file.filing with
        feeVersion := file.filing.feeVersion + 1
        feeReviewRequestedAt := none
        feeWaiverReferredAt := some time })
      (hevents : file'.waiverEvents = file.waiverEvents ++ [t])
  | decided (userId : UserId) (form : WaiverForm) (time : Instant) (due : Option Cents) (t : FilingTransaction)
      (hr : r = .decideFeeWaiver userId f form)
      (h : WaiverOpen db file userId form.action form.expectedFeeVersion) (haction : form.action ≠ .refer)
      (hgranted : form.action ≠ .denyJudicial → due = some 0) (hevent : t.eventType = form.action.event)
      (hbasis : t.details.waiverBasis = some form.action) (hactor : t.actorId = userId)
      (hfiling : file'.filing = { file.filing with
        feeVersion := file.filing.feeVersion + 1
        feeReviewRequestedAt := none
        feeWaiverGranted := some (form.action != .denyJudicial)
        feeWaiverDecidedAt := some time
        feeWaiverAmountDueCents := due })
      (hevents : file'.waiverEvents = file.waiverEvents ++ [t])

theorem WaiverAction.event_isWaiver (action : WaiverAction) : action.event.isWaiver = true := by
  cases action <;> rfl

theorem Recorded.sameWaiver {base : FilingFile} {event : EventType} {actorId : UserId} {key : Option Uuid}
    {details : Details} {t : FilingTransaction} (h : Recorded cfg tr base event actorId key details file' t)
    (hbase : SameWaiver file base) (hevent : event.isWaiver = false) : SameWaiver file file' where
  granted := by rw [h.filing_eq]; exact hbase.granted
  due := by rw [h.filing_eq]; exact hbase.due
  referredAt := by rw [h.filing_eq]; exact hbase.referredAt
  decidedAt := by rw [h.filing_eq]; exact hbase.decidedAt
  submitted := by rw [h.filing_eq]; exact hbase.submitted
  requested := by rw [h.filing_eq]; exact hbase.requested
  events := (h.events_eq hevent).trans hbase.events

theorem SameWaiver.of_filing (hfiling : file'.filing.feeWaiverGranted = file.filing.feeWaiverGranted ∧
      file'.filing.feeWaiverAmountDueCents = file.filing.feeWaiverAmountDueCents ∧
      file'.filing.feeWaiverReferredAt = file.filing.feeWaiverReferredAt ∧
      file'.filing.feeWaiverDecidedAt = file.filing.feeWaiverDecidedAt ∧
      file'.filing.feeWaiverRequested = file.filing.feeWaiverRequested ∧
      file'.filing.feeWaiverReason = file.filing.feeWaiverReason)
    (hsubmitted : file.filing.submittedAt.isSome = true → file'.filing.submittedAt.isSome = true)
    (hevents : file'.waiverEvents = file.waiverEvents) : SameWaiver file file' := by
  obtain ⟨h₁, h₂, h₃, h₄, h₅, h₆⟩ := hfiling
  exact ⟨h₁, h₂, h₃, h₄, hsubmitted, fun _ => ⟨h₅, h₆⟩, hevents⟩

theorem Editable.sameWaiver {data : FilingEnvelopeUpdate} (h : Editable file data) :
    SameWaiver file { file with filing := file.filing.withDetails data } where
  granted := rfl
  due := rfl
  referredAt := rfl
  decidedAt := rfl
  submitted := id
  requested hsub := by
    obtain ⟨hrequested, hreason⟩ := h.waiver.resolve_left (by simpa [Option.isSome_iff_ne_none] using hsub)
    constructor
    · rcases hrequested with h | h <;> simp [FilingEnvelope.withDetails, h]
    · rcases hreason with h | h <;> simp [FilingEnvelope.withDetails, h]
  events := rfl

/-- **What a step does to a fee waiver.** -/
theorem FileStep.waiver (h : FileStep cfg r db db' tr f file file') : WaiverChange r db f file file' := by
  have hunmoved : ∀ {base : FilingFile}, base.filing = file.filing → base.transactions = file.transactions →
      SameWaiver file base := by
    intro base hfiling htrans
    refine .of_filing ?_ ?_ (FilingFile.events_congr htrans _)
    · rw [hfiling]
      exact ⟨rfl, rfl, rfl, rfl, rfl, rfl⟩
    · rw [hfiling]
      exact id
  cases h with
  | edited userId data hr h => exact .same h.sameWaiver
  | uploaded => exact .same (.of_filing ⟨rfl, rfl, rfl, rfl, rfl, rfl⟩ id rfl)
  | retired => exact .same (.of_filing ⟨rfl, rfl, rfl, rfl, rfl, rfl⟩ id rfl)
  | erased => exact .same (.of_filing ⟨rfl, rfl, rfl, rfl, rfl, rfl⟩ id rfl)
  | copyPrepared => exact .same (hunmoved rfl rfl)
  | feesAssessed userId data a time t saved hr h hrec =>
    have hsame : SameWaiver file saved := hrec.sameWaiver (.of_filing ⟨rfl, rfl, rfl, rfl, rfl, rfl⟩ id rfl) rfl
    exact .same ⟨hsame.granted, hsame.due, hsame.referredAt, hsame.decidedAt, hsame.submitted, hsame.requested,
      hsame.events⟩
  | waiverReferred userId form time t _ hr haction h hrec =>
    exact .referred userId form time t hr haction h hrec.event_eq hrec.actor_eq hrec.filing_eq (hrec.events_concat rfl)
  | waiverDecided userId form time doc due t _ hr haction h hrec =>
    obtain ⟨why, hdetails⟩ := hrec.kept (by cases form.action <;> rfl) (by cases form.action <;> decide)
    exact .decided userId form time due t hr h.toWaiverOpen haction h.granted hrec.event_eq (by rw [hdetails])
      hrec.actor_eq hrec.filing_eq (hrec.events_concat form.action.event_isWaiver)
  | submitted userId key token seen caseType time date basis t _ hr h hdate hrec =>
    refine .same (hrec.sameWaiver (.of_filing ⟨rfl, rfl, rfl, rfl, rfl, rfl⟩ (fun _ => rfl) rfl) ?_)
    unfold FilingEnvelope.receiptEvent
    split <;> rfl
  | accepted userId count time receivedAt seen order dated caseId a b t _ hr h hacc hreceived hdated hcase hrec =>
    obtain ⟨date, basis, hd⟩ := hdated.filing_eq
    refine .same (hrec.sameWaiver (.of_filing ?_ ?_ (hdated.events_eq (p := EventType.isWaiver) rfl)) rfl)
    · rw [hd]
      exact ⟨rfl, rfl, rfl, rfl, rfl, rfl⟩
    · rw [hd]
      exact id
  | cmsFailed userId count time receivedAt seen order dated error t _ hr h hacc hreceived hdated hrec =>
    obtain ⟨date, basis, hd⟩ := hdated.filing_eq
    refine .same (hrec.sameWaiver (.of_filing ?_ ?_ (hdated.events_eq (p := EventType.isWaiver) rfl)) rfl)
    · rw [hd]
      exact ⟨rfl, rfl, rfl, rfl, rfl, rfl⟩
    · rw [hd]
      exact id
  | declined userId count action time status event reason t _ hr h haction hrec =>
    refine .same (hrec.sameWaiver (.of_filing ⟨rfl, rfl, rfl, rfl, rfl, rfl⟩ id rfl) ?_)
    obtain ⟨_, _, rfl⟩ | ⟨_, _, rfl⟩ := haction <;> rfl
  | feeReviewRequested _ _ _ _ _ _ _ hrec | paid _ _ _ _ _ _ _ _ _ _ hrec | credited _ _ _ _ _ _ _ _ _ _ _ _ _ _ hrec
  | reversed _ _ _ _ _ _ _ _ _ _ _ hrec | dateOrdered _ _ _ _ _ _ _ _ hrec
  | published _ _ _ _ _ _ _ _ _ _ _ _ _ _ _ _ _ _ hrec | withheld _ _ _ _ _ _ _ _ hrec =>
    exact .same (hrec.sameWaiver (.of_filing ⟨rfl, rfl, rfl, rfl, rfl, rfl⟩ id rfl) rfl)

/-! ## Every filing -/

/-- A decision and then a referral, or a referral and then a clerk's grant. -/
def Disordered (a b : FilingTransaction) : Prop :=
  (a.eventType.isWaiverDecision = true ∧ b.eventType = .waiverReferred) ∨
    (a.eventType = .waiverReferred ∧ b.isClerkGrant = true)

/-- How many of the waiver's events are of this kind. -/
def FilingFile.waiverCount (file : FilingFile) (p : EventType → Bool) : Nat :=
  file.waiverEvents.countP fun t => p t.eventType

/-- Outcome, amount and record of a waiver agree. -/
structure FilingFile.WaiverSound (file : FilingFile) : Prop where
  decided : file.filing.feeWaiverGranted ≠ none → file.filing.feeWaiverRequested = true ∧
    file.filing.submittedAt.isSome = true ∧ file.filing.feeWaiverDecidedAt.isSome = true
  due : file.filing.feeWaiverGranted = some true → file.filing.feeWaiverAmountDueCents = some 0
  decisions : file.waiverCount EventType.isWaiverDecision = if file.filing.feeWaiverGranted = none then 0 else 1
  referrals : file.waiverCount (· == .waiverReferred) = if file.filing.feeWaiverReferredAt = none then 0 else 1
  ordered : file.waiverEvents.Pairwise fun a b => ¬ Disordered a b

theorem waiverActions_spec {filing : FilingEnvelope} {userId : UserId} {account : Account} {action : WaiverAction}
    (h : action ∈ waiverActions filing userId account) :
    filing.submittedAt.isSome = true ∧ (action = .grantJudicial ∨ action = .denyJudicial ∨
      filing.feeWaiverReferredAt = none) := by
  unfold waiverActions at h
  split at h
  · rename_i hopen
    simp only [Bool.and_eq_true] at hopen
    refine ⟨hopen.1.1.1.2, ?_⟩
    rcases List.mem_append.1 h with h | h
    · split at h
      · simp only [List.mem_cons, List.not_mem_nil, or_false] at h
        exact h.elim .inl fun h => .inr (.inl h)
      · cases h
    · split at h
      · rename_i hclerk
        simp only [Bool.and_eq_true, Option.isNone_iff_eq_none] at hclerk
        exact .inr (.inr hclerk.2)
      · cases h
  · cases h

theorem WaiverOpen.spec {userId : UserId} {action : WaiverAction} {expected : Nat}
    (h : WaiverOpen db file userId action expected) : file.filing.feeWaiverRequested = true ∧
      file.filing.feeWaiverGranted = none ∧ file.filing.submittedAt.isSome = true ∧
      (action = .grantJudicial ∨ action = .denyJudicial ∨ file.filing.feeWaiverReferredAt = none) := by
  obtain ⟨account, _, hmem⟩ := h.account
  have hpending := h.pending
  simp only [FilingEnvelope.waiverPending, Bool.and_eq_true, Option.isNone_iff_eq_none] at hpending
  exact ⟨hpending.1, hpending.2, waiverActions_spec hmem⟩

theorem FilingFile.waiverCount_concat {t : FilingTransaction} (h : file'.waiverEvents = file.waiverEvents ++ [t])
    (p : EventType → Bool) : file'.waiverCount p = file.waiverCount p + if p t.eventType = true then 1 else 0 := by
  rw [waiverCount, h, List.countP_append, List.countP_singleton]
  rfl

theorem FilingFile.ordered_concat {t : FilingTransaction} (h : file'.waiverEvents = file.waiverEvents ++ [t])
    (hordered : file.waiverEvents.Pairwise fun a b => ¬ Disordered a b)
    (hlast : ∀ a ∈ file.waiverEvents, ¬ Disordered a t) : file'.waiverEvents.Pairwise fun a b => ¬ Disordered a b := by
  rw [h, List.pairwise_append]
  refine ⟨hordered, List.pairwise_singleton _ _, fun a ha b hb => ?_⟩
  rw [List.mem_singleton.1 hb]
  exact hlast a ha

theorem FilingFile.waiverCount_zero {p : EventType → Bool} (h : file.waiverCount p = 0) {a : FilingTransaction}
    (ha : a ∈ file.waiverEvents) : p a.eventType = false := by
  have hnone := List.countP_eq_zero.1 h a ha
  simpa using hnone

theorem WaiverChange.sound (h : WaiverChange r db f file file') (hI : file.WaiverSound) : file'.WaiverSound := by
  cases h with
  | same h =>
    refine ⟨fun hne => ?_, ?_, ?_, ?_, ?_⟩
    · rw [h.granted] at hne
      obtain ⟨hrequested, hsubmitted, hdecided⟩ := hI.decided hne
      exact ⟨(h.requested hsubmitted).1.trans hrequested, h.submitted hsubmitted, h.decidedAt ▸ hdecided⟩
    · rw [h.granted, h.due]
      exact hI.due
    · rw [FilingFile.waiverCount, h.events, h.granted]
      exact hI.decisions
    · rw [FilingFile.waiverCount, h.events, h.referredAt]
      exact hI.referrals
    · rw [h.events]
      exact hI.ordered
  | referred userId form time t hr haction h hevent hactor hfiling hevents =>
    obtain ⟨hrequested, hnone, hsubmitted, hallowed⟩ := h.spec
    have hunreferred : file.filing.feeWaiverReferredAt = none := by simpa using hallowed
    have hno : file.waiverCount EventType.isWaiverDecision = 0 := by rw [hI.decisions, if_pos hnone]
    refine ⟨fun hne => absurd ?_ hne, fun hsome => ?_, ?_, ?_, ?_⟩
    · rw [hfiling]
      exact hnone
    · rw [hfiling] at hsome
      rw [hnone] at hsome
      cases hsome
    · rw [FilingFile.waiverCount_concat hevents, hno, hevent, hfiling]
      simp [hnone, EventType.isWaiverDecision]
    · rw [FilingFile.waiverCount_concat hevents, hI.referrals, hevent, hfiling]
      simp [hunreferred]
    · refine FilingFile.ordered_concat hevents hI.ordered fun a ha hdis => ?_
      rcases hdis with ⟨hdecision, _⟩ | ⟨_, hgrant⟩
      · rw [FilingFile.waiverCount_zero hno ha] at hdecision
        cases hdecision
      · simp [FilingTransaction.isClerkGrant, hevent] at hgrant
  | decided userId form time due t hr h haction hgranted hevent hbasis hactor hfiling hevents =>
    obtain ⟨hrequested, hnone, hsubmitted, hallowed⟩ := h.spec
    have hdecision : t.eventType.isWaiverDecision = true ∧ (t.eventType == .waiverReferred) = false := by
      rw [hevent]
      cases hform : form.action <;> first | exact ⟨rfl, rfl⟩ | exact absurd hform haction
    have hno : file.waiverCount EventType.isWaiverDecision = 0 := by rw [hI.decisions, if_pos hnone]
    refine ⟨fun _ => ?_, fun hsome => ?_, ?_, ?_, ?_⟩
    · rw [hfiling]
      exact ⟨hrequested, hsubmitted, rfl⟩
    · rw [hfiling] at hsome ⊢
      refine hgranted ?_
      simpa using hsome
    · rw [FilingFile.waiverCount_concat hevents, hno, hdecision.1, hfiling]
      rfl
    · rw [FilingFile.waiverCount_concat hevents, hI.referrals, hdecision.2, hfiling]
      rfl
    · refine FilingFile.ordered_concat hevents hI.ordered fun a ha hdis => ?_
      rcases hdis with ⟨_, hreferral⟩ | ⟨hreferral, hgrant⟩
      · simp [hreferral] at hdecision
      · rcases hallowed with hform | hform | hunreferred
        · simp [FilingTransaction.isClerkGrant, hbasis, hform] at hgrant
        · simp [FilingTransaction.isClerkGrant, hevent, hform, WaiverAction.event] at hgrant
        · have hzero : file.waiverCount (· == .waiverReferred) = 0 := by rw [hI.referrals, if_pos hunreferred]
          have hnot := FilingFile.waiverCount_zero hzero ha
          rw [hreferral] at hnot
          cases hnot

variable {w₀ w w' : PortalWorld}

/-- **Outcome, amount and record of every waiver agree.** -/
theorem Run.waiverSound (h : Run cfg w₀ w) : ∀ f file, w.db (.envelope f) = some file → file.WaiverSound := by
  refine h.file_invariant ?_ ?_
  · intro w sid s a f userId data key file' _ _ hnew
    rw [hnew.file_eq]
    exact ⟨fun hne => absurd rfl hne, nofun, rfl, rfl, .nil⟩
  · intro w sid s a f file file' _ _ _ hI hstep
    exact hstep.waiver.sound hI

/-! ## What stays -/

/-- A decided outcome with its amount, and a submitted request. -/
structure WaiverKept (file file' : FilingFile) : Prop where
  outcome : file.filing.feeWaiverGranted ≠ none → file'.filing.feeWaiverGranted = file.filing.feeWaiverGranted ∧
    file'.filing.feeWaiverAmountDueCents = file.filing.feeWaiverAmountDueCents
  submitted : file.filing.submittedAt.isSome = true → file'.filing.submittedAt.isSome = true
  request : file.filing.submittedAt.isSome = true →
    file'.filing.feeWaiverRequested = file.filing.feeWaiverRequested ∧
    file'.filing.feeWaiverReason = file.filing.feeWaiverReason

theorem WaiverChange.kept (h : WaiverChange r db f file file') : WaiverKept file file' := by
  cases h with
  | same h => exact ⟨fun _ => ⟨h.granted, h.due⟩, h.submitted, h.requested⟩
  | referred userId form time t hr haction h hevent hactor hfiling hevents =>
    refine ⟨fun hne => absurd h.spec.2.1 hne, fun hsub => ?_, fun _ => ?_⟩
    · rw [hfiling]
      exact hsub
    · rw [hfiling]
      exact ⟨rfl, rfl⟩
  | decided userId form time due t hr h haction hgranted hevent hbasis hactor hfiling hevents =>
    refine ⟨fun hne => absurd h.spec.2.1 hne, fun hsub => ?_, fun _ => ?_⟩
    · rw [hfiling]
      exact hsub
    · rw [hfiling]
      exact ⟨rfl, rfl⟩

theorem WaiverKept.trans {file₁ file₂ : FilingFile} (h : WaiverKept file file₁) (h' : WaiverKept file₁ file₂) :
    WaiverKept file file₂ where
  outcome hne := by
    obtain ⟨hgranted, hdue⟩ := h.outcome hne
    obtain ⟨hgranted', hdue'⟩ := h'.outcome (by rw [hgranted]; exact hne)
    exact ⟨hgranted'.trans hgranted, hdue'.trans hdue⟩
  submitted hsub := h'.submitted (h.submitted hsub)
  request hsub := by
    obtain ⟨hrequested, hreason⟩ := h.request hsub
    obtain ⟨hrequested', hreason'⟩ := h'.request (h.submitted hsub)
    exact ⟨hrequested'.trans hrequested, hreason'.trans hreason⟩

/-- **A decided waiver keeps its outcome and amount, and a submitted request stays as it is.** -/
theorem Run.waiver_kept (h : Run cfg w₀ w) (hs : Steps (portal cfg) w w') (hfile : w.db (.envelope f) = some file)
    (hfile' : w'.db (.envelope f) = some file') : WaiverKept file file' := by
  have hsince := h.file_since (I := fun file₁ => WaiverKept file file₁) hfile
    ⟨fun _ => ⟨rfl, rfl⟩, id, fun _ => ⟨rfl, rfl⟩⟩ (fun _ _ _ _ _ _ _ _ _ _ hI hstep => hI.trans hstep.waiver.kept) hs
  obtain ⟨file₁, hfile₁, hI⟩ := hsince
  cases hfile'.symm.trans hfile₁
  exact hI

/-- **Every referral or decision was made against the fee version that its author had reviewed.** -/
theorem Run.waiver_reviewed (h : Run cfg w₀ w) (hfile : w.db (.envelope f) = some file) {t : FilingTransaction}
    (ht : t ∈ file.transactions) (hevent : t.eventType.isWaiver = true) :
    ∃ w₁ sid s a file₁ file₂ form, RecordedAt cfg w₀ w f t w₁ sid s a file₁ file₂ ∧
      s.request = .decideFeeWaiver t.actorId f form ∧ form.action.event = t.eventType ∧
      file₁.filing.feeVersion = form.expectedFeeVersion := by
  obtain ⟨w₁, sid, s, a, file₁, file₂, hat⟩ := h.recorded_at hfile ht
  have hold : t ∉ file₁.waiverEvents := fun hmem => hat.absent (FilingFile.mem_events.1 hmem).1
  have hnew : t ∈ file₂.waiverEvents := FilingFile.mem_events.2 ⟨hat.mem, hevent⟩
  have hlast : ∀ {u : FilingTransaction}, file₂.waiverEvents = file₁.waiverEvents ++ [u] → t = u := by
    intro u hevents
    rw [hevents] at hnew
    exact List.mem_singleton.1 ((List.mem_append.1 hnew).resolve_left hold)
  cases hat.step.waiver with
  | same h => exact absurd (h.events ▸ hnew) hold
  | referred userId form time u hr haction h hevent hactor hfiling hevents =>
    cases hlast hevents
    exact ⟨w₁, sid, s, a, file₁, file₂, form, hat, hactor ▸ hr, by rw [haction, hevent]; rfl, h.version⟩
  | decided userId form time due u hr h haction hgranted hevent hbasis hactor hfiling hevents =>
    cases hlast hevents
    exact ⟨w₁, sid, s, a, file₁, file₂, form, hat, hactor ▸ hr, hevent.symm, h.version⟩

/-! ## The law -/

theorem FilingFile.waiverCount_eq {p : EventType → Bool} (hp : ∀ event, p event = true → event.isWaiver = true) :
    (file.events p).length = file.waiverCount p := by
  rw [waiverCount, List.countP_eq_length_filter, waiverEvents, events, events, List.filter_filter]
  refine congrArg (fun q => (file.transactions.filter q).length) (funext fun t => ?_)
  cases h : p t.eventType with
  | false => rfl
  | true => exact (hp _ h).symm

theorem feeState_granted {caseType : Option CaseType} {viewer : Option Viewer}
    (h : file.filing.feeWaiverGranted = some true) : (feeState cfg file caseType viewer).balanceDueCents = some 0 := by
  have hprice : (pricing cfg file caseType).totalCents = some 0 := by
    unfold pricing
    dsimp only
    split_ifs <;> rfl
  have hbalance : (pricing cfg file caseType).totalCents.map (· - paidCents cfg file) = some 0 := by
    rw [hprice]
    exact congrArg some (Nat.zero_sub _)
  exact hbalance

/-- What holds of the fee waiver of a filing in a world of a run. -/
structure WaiverLaw (cfg : Settings) (w₀ w : PortalWorld) (f : FilingId) (file : FilingFile) : Prop where
  decided : file.filing.feeWaiverGranted ≠ none → file.filing.feeWaiverRequested = true ∧
    file.filing.submittedAt.isSome = true ∧ file.filing.feeWaiverDecidedAt.isSome = true
  kept : ∀ w' file', Steps (portal cfg) w w' → w'.db (.envelope f) = some file' → WaiverKept file file'
  decisions : (file.events EventType.isWaiverDecision).length ≤ 1
  referrals : (file.events (· == .waiverReferred)).length ≤ 1
  ordered : file.transactions.Pairwise fun a b => ¬ Disordered a b
  granted : file.filing.feeWaiverGranted = some true → file.filing.feeWaiverAmountDueCents = some 0 ∧
    ∀ caseType viewer, (feeState cfg file caseType viewer).balanceDueCents = some 0
  reviewed : ∀ t ∈ file.transactions, t.eventType.isWaiver = true → ∃ w₁ sid s a file₁ file₂ form,
    RecordedAt cfg w₀ w f t w₁ sid s a file₁ file₂ ∧ s.request = .decideFeeWaiver t.actorId f form ∧
    form.action.event = t.eventType ∧ file₁.filing.feeVersion = form.expectedFeeVersion

/-- **Fee waivers in every run.** -/
theorem Run.waivers (h : Run cfg w₀ w) (hfile : w.db (.envelope f) = some file) : WaiverLaw cfg w₀ w f file := by
  have hsound := h.waiverSound f file hfile
  refine ⟨hsound.decided, fun w' file' hs hfile' => h.waiver_kept hs hfile hfile', ?_, ?_, ?_,
    fun hgranted => ⟨hsound.due hgranted, fun _ _ => feeState_granted hgranted⟩,
    fun t ht hevent => h.waiver_reviewed hfile ht hevent⟩
  · rw [FilingFile.waiverCount_eq fun event hevent => by simp [EventType.isWaiver, hevent], hsound.decisions]
    split <;> decide
  · rw [FilingFile.waiverCount_eq fun event hevent => by simp [EventType.isWaiver, hevent], hsound.referrals]
    split <;> decide
  · refine (List.pairwise_filter.1 hsound.ordered).imp fun {a b} hab hdis => ?_
    have hwaiver : a.eventType.isWaiver = true ∧ b.eventType.isWaiver = true := by
      rcases hdis with ⟨ha, hb⟩ | ⟨ha, hb⟩
      · simp [EventType.isWaiver, ha, hb]
      · simp only [FilingTransaction.isClerkGrant, Bool.and_eq_true, beq_iff_eq] at hb
        rw [ha, hb.1]
        exact ⟨rfl, rfl⟩
    exact hab hwaiver.1 hwaiver.2 hdis

/-! ## A small portal -/

def waiverRequests : List (Instant × Request) := [
  (1000, .createFiling 1 { smallDraft with feeWaiverRequested := true, feeWaiverReason := some "No income" } 7),
  (2000, .uploadDocument 1 10 8 ⟨"COMPLAINT", "Complaint", false⟩ smallUpload),
  (2500, .uploadDocument 1 10 9 ⟨"FEE_WAIVER", "Fee waiver request", true⟩ smallUpload)]

def waiverDraft : PortalWorld := smallWorld.serveAll (portal .demo) 0 waiverRequests

def waivedWorld : PortalWorld := waiverDraft.serveAll (portal .demo) 3 [
  (3000, .submitFiling 1 10 (some 9) (tokenOf waiverDraft 10)),
  (4000, .decideFeeWaiver 2 10 { action := .refer, expectedFeeVersion := 2 }),
  (5000, .decideFeeWaiver 2 10 { action := .grantJudicial, expectedFeeVersion := 3, file := some smallUpload })]

theorem waivedWorld_run : Run .demo smallWorld waivedWorld := by
  have hdraft : Run .demo smallWorld waiverDraft := Run.serveAll smallWorld_initial (by decide +kernel)
  have hcalm : waiverDraft.Calm 3 [] := World.serveAll_calm smallWorld_initial.idle.calm
  exact hdraft.trans (World.serveAll_steps hcalm (by decide +kernel))

/-- The waiver of the small portal, after a referral and a judge's grant. -/
theorem Run.waivers_granted : ∃ file, waivedWorld.db (.envelope 10) = some file ∧
    file.filing.feeWaiverGranted = some true ∧ file.waiverEvents.length = 2 ∧
    WaiverLaw .demo smallWorld waivedWorld 10 file := by
  have hfile : (waivedWorld.db (.envelope 10)).any (fun file =>
      file.filing.feeWaiverGranted == some true && file.waiverEvents.length == 2) = true := by
    decide +kernel
  obtain ⟨file, hfile, hshape⟩ := (Option.any_eq_true _ _).1 hfile
  have hshape : file.filing.feeWaiverGranted = some true ∧ file.waiverEvents.length = 2 := by simpa using hshape
  exact ⟨file, hfile, hshape.1, hshape.2, Run.waivers waivedWorld_run hfile⟩

end Muefs
