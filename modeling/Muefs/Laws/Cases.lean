import Muefs.Steps.Asks
import Muefs.Steps.Batch
import Muefs.Steps.Persistence

/-!
# Decisions and cases

* `newCaseNumber_injective` : two filings never give their cases one number;
* `StatusChange`, `FileStep.status` : what a step does to status, case and decisions;
* `FilingFile.StatusSound`, `Run.statusSound` : a case if and only if accepted, one decision a submission;
* `Run.final_kept` : final statuses stay; `Run.decided` : the request behind a decision;
* `Run.opened`, `Run.case_owner` : accepted initial filings and new cases belong to each other;
* `Run.cases` : the law.
-/

namespace Muefs
open RowLocks

/-! ## Case numbers -/

theorem padded_toList (width n : Nat) :
    (padded width n).toList = List.replicate (width - (toString n).length) '0' ++ Nat.toDigits 10 n := by
  simp [padded]

theorem dash_not_mem_padded (width n : Nat) : '-' ∉ (padded width n).toList := by
  rw [padded_toList]
  simp only [List.mem_append, List.mem_replicate, not_or]
  refine ⟨fun h => absurd h.2 (by decide), fun h => ?_⟩
  have hdigit := Nat.isDigit_of_mem_toDigits (by decide) (by decide) h
  exact absurd hdigit (by decide)

theorem padded_injective {width m n : Nat} (h : padded width m = padded width n) : m = n := by
  have hlist := congrArg (fun s => Nat.ofDigitChars 10 s.toList 0) h
  simpa [padded_toList, Nat.ofDigitChars_append] using hlist

theorem dash_inj {a b c d : String} (ha : '-' ∉ a.toList) (hb : '-' ∉ b.toList)
    (h : a ++ ("-" ++ c) = b ++ ("-" ++ d)) : a = b ∧ c = d := by
  have hlist : a.toList ++ '-' :: c.toList = b.toList ++ '-' :: d.toList := by
    simpa using congrArg String.toList h
  have hbefore : ∀ {l : List Char}, '-' ∉ l → ∀ x ∈ l, (x != '-') = true :=
    fun hl x hx => by simpa using fun heq : x = '-' => hl (heq ▸ hx)
  have htake := congrArg (List.takeWhile (· != '-')) hlist
  rw [List.takeWhile_append_of_pos (hbefore ha), List.takeWhile_append_of_pos (hbefore hb)] at htake
  have hfirst : a.toList = b.toList := by simpa using htake
  rw [hfirst] at hlist
  have hrest := List.append_cancel_left hlist
  exact ⟨String.toList_inj.1 hfirst, String.toList_inj.1 (List.cons.inj hrest).2⟩

theorem newCaseNumber_injective {filing filing' : FilingEnvelope} {receivedAt receivedAt' : Instant}
    {courtType courtType' : CourtType} {code code' : String}
    (h : newCaseNumber filing receivedAt courtType code = newCaseNumber filing' receivedAt' courtType' code') :
    filing.id = filing'.id := by
  simp only [newCaseNumber, String.append_assoc] at h
  have hyear := dash_inj (dash_not_mem_padded _ _) (dash_not_mem_padded _ _) h
  have hid := dash_inj (dash_not_mem_padded _ _) (dash_not_mem_padded _ _) hyear.2
  exact padded_injective hid.1

/-! ## Decisions -/

def EventType.isDecision (event : EventType) : Bool :=
  event == .accepted || event == .rejected || event == .returned

def FilingFile.decisions (file : FilingFile) : List FilingTransaction :=
  file.transactions.filter fun t => t.eventType.isDecision

def FilingStatus.isFinal (status : FilingStatus) : Bool :=
  status == .accepted || status == .rejected || status == .served

def ReviewAction.event : ReviewAction → EventType
  | .accept => .accepted
  | .reject => .rejected
  | .return_ => .returned

def ReviewAction.status : ReviewAction → FilingStatus
  | .accept => .accepted
  | .reject => .rejected
  | .return_ => .returned

variable {cfg : Settings} {r : Request} {db db' : Store} {tr : Trace} {f : FilingId} {file file' : FilingFile}

section Recorded

variable {base : FilingFile} {event : EventType} {actorId : UserId} {key : Option Uuid} {details : Details}
  {t : FilingTransaction}

theorem Recorded.decides (h : Recorded cfg tr base event actorId key details file' t)
    (hevent : event.isDecision = true) : file'.decisions = base.decisions ++ [t] := h.events_concat hevent

theorem Recorded.leaves (h : Recorded cfg tr base event actorId key details file' t)
    (hevent : event.isDecision = false) : file'.decisions = base.decisions := h.events_eq hevent

end Recorded

theorem Dated.decisions_eq {userId : UserId} {receivedAt : Instant} {ordered : Bool} {dated : FilingFile}
    (h : Dated cfg tr userId receivedAt file ordered dated) : dated.decisions = file.decisions := h.events_eq rfl

/-! ## What a step does -/

/-- Status, case, number of submissions and decisions are as before. -/
structure SameStatus (file file' : FilingFile) : Prop where
  status : file'.filing.status = file.filing.status
  caseId : file'.filing.caseId = file.filing.caseId
  count : file'.filing.submissionCount = file.filing.submissionCount
  decisions : file'.decisions = file.decisions

/-- What a step does to the status of a filing. -/
inductive StatusChange (r : Request) (tr : Trace) (f : FilingId) (file file' : FilingFile) : Prop where
  | same (h : SameStatus file file')
  | submitted (hopen : file.filing.status.isOpen = true)
      (hstatus : file'.filing.status = if file.filing.filingType = .serviceOnly then .served else .submitted)
      (hcase : file'.filing.caseId = file.filing.caseId)
      (hcount : file'.filing.submissionCount = file.filing.submissionCount + 1)
      (hdecisions : file'.decisions = file.decisions)
  | decided (userId : UserId) (count : Nat) (action : ReviewAction) (t : FilingTransaction)
      (hr : Reviews f userId count action r) (hin : file.filing.status.inReview = true)
      (hcount : file.filing.submissionCount = count) (hcount' : file'.filing.submissionCount = count)
      (hstatus : file'.filing.status = action.status) (hevent : t.eventType = action.event)
      (hactor : t.actorId = userId) (hnumber : t.submissionNumber = count)
      (hdecisions : file'.decisions = file.decisions ++ [t])
      (hcase : (file'.filing.caseId = file.filing.caseId ∧ (action = .accept → file.filing.caseId.isSome = true)) ∨
        (action = .accept ∧ file.filing.caseId = none ∧ ∃ id, file'.filing.caseId = some id ∧ ⟨.fresh, id⟩ ∈ tr))
  | cmsFailed (userId : UserId) (count : Nat) (hr : Reviews f userId count .accept r)
      (hin : file.filing.status.inReview = true) (hcount : file.filing.submissionCount = count)
      (hstatus : file'.filing.status = .underReview) (hcase : file'.filing.caseId = file.filing.caseId)
      (hcount' : file'.filing.submissionCount = count) (hdecisions : file'.decisions = file.decisions)

theorem Recorded.sameStatus {base : FilingFile} {event : EventType} {actorId : UserId} {key : Option Uuid}
    {details : Details} {t : FilingTransaction} (h : Recorded cfg tr base event actorId key details file' t)
    (hbase : SameStatus file base) (hevent : event.isDecision = false) : StatusChange r tr f file file' := by
  refine .same ⟨?_, ?_, ?_, ?_⟩
  · rw [h.filing_eq, hbase.status]
  · rw [h.filing_eq, hbase.caseId]
  · rw [h.filing_eq, hbase.count]
  · exact (h.leaves hevent).trans hbase.decisions

/-- **What a step does to the status.** -/
theorem FileStep.status (h : FileStep cfg r db db' tr f file file') : StatusChange r tr f file file' := by
  cases h with
  | edited => exact .same ⟨rfl, rfl, rfl, rfl⟩
  | uploaded => exact .same ⟨rfl, rfl, rfl, rfl⟩
  | retired => exact .same ⟨rfl, rfl, rfl, rfl⟩
  | erased => exact .same ⟨rfl, rfl, rfl, rfl⟩
  | copyPrepared => exact .same ⟨rfl, rfl, rfl, rfl⟩
  | feesAssessed userId data a time t saved hr h hrec =>
    have hfiling := hrec.filing_eq
    refine .same ⟨?_, ?_, ?_, ?_⟩
    · simp only [hfiling]; rfl
    · simp only [hfiling]; rfl
    · simp only [hfiling]; rfl
    · exact hrec.leaves rfl
  | submitted userId key token seen caseType time date basis t _ hr h hdate hrec =>
    refine .submitted h.isOpen ?_ ?_ ?_ ?_
    · rw [hrec.filing_eq]; rfl
    · rw [hrec.filing_eq]; rfl
    · rw [hrec.filing_eq]; rfl
    · refine hrec.leaves ?_
      unfold FilingEnvelope.receiptEvent
      split <;> rfl
  | accepted userId count time receivedAt seen order dated caseId a b t _ hr h hacc hreceived hdated hcase hrec =>
    obtain ⟨date, basis, hd⟩ := hdated.filing_eq
    have hfiling := hrec.filing_eq
    refine .decided userId count .accept t hr h.inReview h.count_eq ?_ ?_ hrec.event_eq hrec.actor_eq ?_ ?_ ?_
    · rw [hfiling, hd]
      exact h.count_eq
    · rw [hfiling]; rfl
    · rw [hrec.number_eq, hd]
      exact h.count_eq
    · exact (hrec.decides rfl).trans (congrArg (· ++ [t]) hdated.decisions_eq)
    · rw [hfiling]
      rcases hcase with hcase | ⟨hnone, hnew⟩
      · exact .inl ⟨hcase.symm, fun _ => by rw [hcase]; rfl⟩
      · exact .inr ⟨rfl, hnone, caseId, rfl, hnew⟩
  | cmsFailed userId count time receivedAt seen order dated error t _ hr h hacc hreceived hdated hrec =>
    obtain ⟨date, basis, hd⟩ := hdated.filing_eq
    have hfiling := hrec.filing_eq
    refine .cmsFailed userId count hr h.inReview h.count_eq ?_ ?_ ?_ ?_
    · rw [hfiling]
    · rw [hfiling, hd]; rfl
    · rw [hfiling, hd]
      exact h.count_eq
    · exact (hrec.leaves rfl).trans hdated.decisions_eq
  | declined userId count action time status event reason t _ hr h haction hrec =>
    have hsame : file'.filing.status = action.status ∧ t.eventType = action.event ∧ event.isDecision = true ∧
        action ≠ .accept := by
      rw [hrec.filing_eq, hrec.event_eq]
      rcases haction with ⟨rfl, rfl, rfl⟩ | ⟨rfl, rfl, rfl⟩ <;> exact ⟨rfl, rfl, rfl, by decide⟩
    refine .decided userId count action t hr h.inReview h.count_eq ?_ hsame.1 hsame.2.1 hrec.actor_eq ?_ ?_
      (.inl ⟨?_, ?_⟩)
    · rw [hrec.filing_eq]
      exact h.count_eq
    · rw [hrec.number_eq]
      exact h.count_eq
    · exact hrec.decides hsame.2.2.1
    · rw [hrec.filing_eq]; rfl
    · exact fun heq => absurd heq hsame.2.2.2
  | waiverDecided userId form time doc due t _ hr haction h hrec =>
    refine hrec.sameStatus ⟨rfl, rfl, rfl, rfl⟩ ?_
    cases form.action <;> rfl
  | paid _ _ _ _ _ _ _ _ _ _ hrec | credited _ _ _ _ _ _ _ _ _ _ _ _ _ _ hrec | reversed _ _ _ _ _ _ _ _ _ _ _ hrec
  | feeReviewRequested _ _ _ _ _ _ _ hrec | waiverReferred _ _ _ _ _ _ _ _ hrec | dateOrdered _ _ _ _ _ _ _ _ hrec
  | published _ _ _ _ _ _ _ _ _ _ _ _ _ _ _ _ _ _ hrec | withheld _ _ _ _ _ _ _ _ hrec =>
    exact hrec.sameStatus ⟨rfl, rfl, rfl, rfl⟩ rfl

/-! ## One filing -/

/-- An initial filing has a case if and only if it is accepted, every other filing has one; the decisions are for
different submissions, and a filing in review has none for its current one. -/
structure FilingFile.StatusSound (file : FilingFile) : Prop where
  initial : file.filing.filingType = .initial → (file.filing.caseId.isSome = true ↔ file.filing.status = .accepted)
  other : file.filing.filingType ≠ .initial → file.filing.caseId.isSome = true
  numbers : ∀ t ∈ file.decisions, t.submissionNumber ≤ file.filing.submissionCount
  undecided : file.filing.status.inReview = true →
    ∀ t ∈ file.decisions, t.submissionNumber ≠ file.filing.submissionCount
  nodup : (file.decisions.map FilingTransaction.submissionNumber).Nodup

theorem FilingStatus.isOpen_ne {status : FilingStatus} (h : status.isOpen = true) :
    status ≠ .accepted ∧ status.isFinal = false := by
  cases status <;> simp_all [isOpen, isFinal]

theorem FilingStatus.inReview_ne {status : FilingStatus} (h : status.inReview = true) :
    status ≠ .accepted ∧ status.isFinal = false := by
  cases status <;> simp_all [inReview, isFinal]

theorem ReviewAction.status_spec (action : ReviewAction) :
    action.status.inReview = false ∧ (action.status = .accepted ↔ action = .accept) := by
  cases action <;> exact ⟨rfl, by decide⟩

theorem StatusChange.sound (h : StatusChange r tr f file file')
    (htype : file'.filing.filingType = file.filing.filingType) (hI : file.StatusSound) : file'.StatusSound := by
  cases h with
  | same h =>
    exact ⟨by rw [htype, h.caseId, h.status]; exact hI.initial, by rw [htype, h.caseId]; exact hI.other,
      by rw [h.decisions, h.count]; exact hI.numbers, by rw [h.status, h.decisions, h.count]; exact hI.undecided,
      by rw [h.decisions]; exact hI.nodup⟩
  | submitted hopen hstatus hcase hcount hdecisions =>
    have hnumber : ∀ t ∈ file.decisions, t.submissionNumber < file.filing.submissionCount + 1 :=
      fun t ht => Nat.lt_succ_of_le (hI.numbers t ht)
    refine ⟨fun hinit => ?_, ?_, ?_, fun _ => ?_, ?_⟩
    · rw [htype] at hinit
      rw [hcase, hI.initial hinit, hstatus, if_neg (by simp [hinit])]
      simp [(FilingStatus.isOpen_ne hopen).1]
    · rw [htype, hcase]
      exact hI.other
    · rw [hdecisions, hcount]
      exact fun t ht => (hnumber t ht).le
    · rw [hdecisions, hcount]
      exact fun t ht => (hnumber t ht).ne
    · rw [hdecisions]
      exact hI.nodup
  | decided userId count action t hr hin hcount hcount' hstatus hevent hactor hnumber hdecisions hcase =>
    obtain ⟨hnot, haccept⟩ := action.status_spec
    refine ⟨fun hinit => ?_, fun hinit => ?_, ?_, fun hin' => ?_, ?_⟩
    · rw [htype] at hinit
      have hnone := mt (hI.initial hinit).1 (FilingStatus.inReview_ne hin).1
      rw [hstatus, haccept]
      rcases hcase with ⟨hsame, hsome⟩ | ⟨haction, _, id, hid, _⟩
      · rw [hsame]
        exact ⟨fun h => absurd h hnone, hsome⟩
      · simp [hid, haction]
    · rw [htype] at hinit
      rcases hcase with ⟨hsame, _⟩ | ⟨_, hnone, _⟩
      · rw [hsame]
        exact hI.other hinit
      · exact absurd (hI.other hinit) (by simp [hnone])
    · rw [hdecisions, hcount', ← hcount]
      intro u hu
      rcases List.mem_append.1 hu with hu | hu
      · exact hI.numbers u hu
      · cases List.mem_singleton.1 hu
        exact (hnumber.trans hcount.symm).le
    · rw [hstatus, hnot] at hin'
      cases hin'
    · rw [hdecisions, List.map_append, List.map_singleton, List.nodup_append]
      refine ⟨hI.nodup, List.nodup_singleton _, fun n hn m hm => ?_⟩
      obtain ⟨u, hu, rfl⟩ := List.mem_map.1 hn
      rw [List.mem_singleton.1 hm, hnumber, ← hcount]
      exact hI.undecided hin u hu
  | cmsFailed userId count hr hin hcount hstatus hcase hcount' hdecisions =>
    have hsame := hcount'.trans hcount.symm
    refine ⟨fun hinit => ?_, ?_, ?_, fun _ => ?_, ?_⟩
    · rw [htype] at hinit
      rw [hcase, hI.initial hinit, hstatus]
      simp [(FilingStatus.inReview_ne hin).1]
    · rw [htype, hcase]
      exact hI.other
    · rw [hdecisions, hsame]
      exact hI.numbers
    · rw [hdecisions, hsame]
      exact hI.undecided hin
    · rw [hdecisions]
      exact hI.nodup

theorem StatusChange.final (h : StatusChange r tr f file file') (hfinal : file.filing.status.isFinal = true) :
    SameStatus file file' := by
  cases h with
  | same h => exact h
  | submitted hopen => exact absurd hfinal (by simp [(FilingStatus.isOpen_ne hopen).2])
  | decided _ _ _ _ _ hin => exact absurd hfinal (by simp [(FilingStatus.inReview_ne hin).2])
  | cmsFailed _ _ _ hin => exact absurd hfinal (by simp [(FilingStatus.inReview_ne hin).2])

variable {w₀ w w' : PortalWorld}

/-- **Every filing is as its status says.** -/
theorem Run.statusSound (h : Run cfg w₀ w) : ∀ f file, w.db (.envelope f) = some file → file.StatusSound := by
  refine h.file_invariant ?_ ?_
  · intro w sid s a f userId data key file' _ _ hnew
    obtain ⟨account, _, hacc⟩ := hnew.filer
    have hshape : data.filingType = .initial ↔ data.caseId = none := hacc.shape
    rw [hnew.file_eq]
    refine ⟨fun hinit => ?_, fun hinit => ?_, by simp [FilingFile.decisions], by simp [FilingFile.decisions],
      List.nodup_nil⟩
    · simp [newEnvelope, hshape.1 hinit]
    · have hsome : data.caseId ≠ none := fun hnone => hinit (hshape.2 hnone)
      simpa [newEnvelope, Option.isSome_iff_ne_none] using hsome
  · intro w sid s a f file file' _ _ _ hI hstep
    exact hstep.status.sound hstep.grows.fixed.filingType hI

/-- **Final statuses stay.** -/
theorem Run.final_kept (h : Run cfg w₀ w) (hs : Steps (portal cfg) w w') (hfile : w.db (.envelope f) = some file)
    (hfile' : w'.db (.envelope f) = some file') (hfinal : file.filing.status.isFinal = true) :
    SameStatus file file' := by
  have hsince := h.file_since (I := fun file₁ => SameStatus file file₁) hfile ⟨rfl, rfl, rfl, rfl⟩
    (fun w₁ sid s a file₁ file₂ _ _ _ _ hI hstep => ?_) hs
  · obtain ⟨file₁, hfile₁, hI⟩ := hsince
    cases hfile'.symm.trans hfile₁
    exact hI
  · have hkept := hstep.status.final (by rw [hI.status]; exact hfinal)
    exact ⟨hkept.status.trans hI.status, hkept.caseId.trans hI.caseId, hkept.count.trans hI.count,
      hkept.decisions.trans hI.decisions⟩

/-- The commit that recorded a decision: of a review that named the number of the submission. -/
def DecidedBy (cfg : Settings) (w₀ w : PortalWorld) (f : FilingId) (t : FilingTransaction) : Prop :=
  ∃ w₁ sid s a file file' action, Steps (portal cfg) w₀ w₁ ∧ Commits (portal cfg) w₁ sid s a ∧
    Steps (portal cfg) (w₁.committed sid s a) w ∧ w₁.db (.envelope f) = some file ∧
    (w₁.committed sid s a).db (.envelope f) = some file' ∧ file'.decisions = file.decisions ++ [t] ∧
    Reviews f t.actorId t.submissionNumber action s.request ∧ t.eventType = action.event ∧
    file.filing.submissionCount = t.submissionNumber ∧ file'.filing.status = action.status

/-- **Every decision was made by a review of that submission.** -/
theorem Run.decided (h : Run cfg w₀ w) (hfile : w.db (.envelope f) = some file) {t : FilingTransaction}
    (ht : t ∈ file.decisions) : DecidedBy cfg w₀ w f t := by
  obtain ⟨hmem, hdecision⟩ := List.mem_filter.1 ht
  obtain ⟨w₁, sid, s, a, file₁, file₂, hat⟩ := h.recorded_at hfile hmem
  have hold : t ∉ file₁.decisions := fun hmem => hat.absent (List.mem_filter.1 hmem).1
  have hnew : t ∈ file₂.decisions := List.mem_filter.2 ⟨hat.mem, hdecision⟩
  cases hat.step.status with
  | same h => exact absurd (h.decisions ▸ hnew) hold
  | submitted _ _ _ _ hdecisions => exact absurd (hdecisions ▸ hnew) hold
  | cmsFailed _ _ _ _ _ _ _ _ hdecisions => exact absurd (hdecisions ▸ hnew) hold
  | decided userId count action u hr hin hcount hcount' hstatus hevent hactor hnumber hdecisions hcase =>
    have hu : t ∈ file₁.decisions ++ [u] := hdecisions ▸ hnew
    rcases List.mem_append.1 hu with hmem | hmem
    · exact absurd hmem hold
    · cases List.mem_singleton.1 hmem
      subst hactor hnumber
      exact ⟨w₁, sid, s, a, file₁, file₂, action, hat.run.steps, hat.commits, hat.later, hat.before, hat.after,
        hdecisions, hr, hevent, hcount, hstatus⟩

/-! ## Cases -/

/-- This accepted initial filing has the case. -/
def Owns (w : PortalWorld) (f : FilingId) (id : CaseId) : Prop :=
  ∃ file, w.db (.envelope f) = some file ∧ file.filing.filingType = .initial ∧ file.filing.status = .accepted ∧
    file.filing.caseId = some id

/-- The case of an initial filing: opened in this run, in the filing's court, under a number of this filing. -/
structure OpenedFor (w₀ w : PortalWorld) (f : FilingId) (file : FilingFile) (id : CaseId) (c : CaseFile) : Prop where
  absent : w₀.db (.case id) = none
  stored : w.db (.case id) = some c
  court : c.row.courtId = file.filing.courtId
  number : ∃ filing receivedAt courtType code, filing.id = f ∧
    c.row.caseNumber = newCaseNumber filing receivedAt courtType code

theorem Run.case_kept (h : Run cfg w₀ w) (hs : Step (portal cfg) w w') {id : CaseId} {c : CaseFile}
    (hc : w.db (.case id) = some c) : ∃ c', w'.db (.case id) = some c' ∧ c'.row.courtId = c.row.courtId ∧
      c'.row.caseNumber = c.row.caseNumber := by
  rcases Run.step_cases hs with heq | ⟨sid, s, a, hcommit, rfl⟩
  · exact ⟨c, (heq (.case id) rfl).trans hc, rfl, rfl⟩
  · rcases h.changes hcommit (.case id) with heq | ⟨c', hc', ⟨c₁, hc₁, hcourt, _, hnumber⟩ | ⟨_, _, _, hnew, _⟩⟩
    · exact ⟨c, heq.trans hc, rfl, rfl⟩
    · cases hc.symm.trans hc₁
      exact ⟨c', hc', hcourt, hnumber.1⟩
    · exact absurd hnew ((h.spent (.case (by rw [hc]; rfl))).not_drawn hcommit)

theorem Run.opens (h : Run cfg w₀ w) {sid : Nat} {s : Session View Failure Response Request} {a : Response}
    (hc : Commits (portal cfg) w sid s a) {userId : UserId} {count : Nat} {action : ReviewAction}
    (hr : Reviews f userId count action s.request) (hfile : w.db (.envelope f) = some file)
    (hfile' : commit s.trace w.db (.envelope f) = some file') (hnone : file.filing.caseId = none) {id : CaseId}
    (hid : file'.filing.caseId = some id) :
    ∃ c, commit s.trace w.db (.case id) = some c ∧ Numbers file'.filing c.row := by
  have hcurrent := h.guarded.current _ _ hc.found hc.running
  have hmoved : commit s.trace w.db (.envelope f) ≠ w.db (.envelope f) := by
    rw [hfile, hfile']
    intro heq
    cases heq
    rw [hnone] at hid
    cases hid
  rcases hr.request with ⟨data, cms, hr, _⟩ | ⟨data, cms, hr, _⟩
  · have hprogram : (portal cfg).program s.request = reviewFiling cfg cms userId f data := by rw [hr]; rfl
    have hends := hprogram ▸ hc.ends
    rcases reviewFiling_meets _ _ hends hcurrent with hquiet | ⟨file₁, file₁', hfile₁, hwrite, hopens, _, hwrites⟩
    · exact absurd (congrFun (hquiet.commit w.db) _) hmoved
    · cases hfile.symm.trans hfile₁
      obtain ⟨_, hsaved⟩ := hwrites.wrote hwrite w.db
      cases hfile'.symm.trans hsaved
      obtain ⟨_, c, hcase⟩ := hopens hnone id hid
      obtain ⟨c', hc', _, _, _, _, _, hnumbers⟩ := hwrites.wrote hcase w.db
      exact ⟨c', hc', hnumbers.1⟩
  · have hprogram : (portal cfg).program s.request = batchReviewFilings cfg cms userId data := by rw [hr]; rfl
    have hends := hprogram ▸ hc.ends
    obtain ⟨result, ids, _, hchanges⟩ := batchReviewFilings_meets _ _ hends hcurrent
    rcases hchanges w.db (.envelope f) with heq | ⟨g, _, file₁, file₁', hstep, _, hg⟩
    · exact absurd heq hmoved
    · obtain ⟨rfl, hsaved⟩ := hg
      cases hfile'.symm.trans hsaved
      cases hfile.symm.trans hstep.stored
      exact (hstep.opened hnone id hid).2 (h.steps.draws_nodup h.start.idle hc.found) w.db

/-- **The case of an initial filing was opened for it.** -/
theorem Run.opened (h : Run cfg w₀ w) : ∀ f file id, w.db (.envelope f) = some file →
    file.filing.filingType = .initial → file.filing.caseId = some id → ∃ c, OpenedFor w₀ w f file id c := by
  obtain ⟨hstart, hsteps⟩ := h
  induction hsteps with
  | refl =>
    intro f file id hfile
    rw [hstart.envelope f] at hfile
    cases hfile
  | @tail w w' hsteps hs ih =>
    intro f file' id hfile' hinit hid
    have h : Run cfg w₀ w := ⟨hstart, hsteps⟩
    have hold : ∀ file, w.db (.envelope f) = some file → file.filing.filingType = .initial →
        file.filing.caseId = some id → file'.filing.courtId = file.filing.courtId →
        ∃ c, OpenedFor w₀ w' f file' id c := by
      intro file hfile hinit hid hcourt
      obtain ⟨c, hopened⟩ := ih f file id hfile hinit hid
      obtain ⟨c', hc', hcourt', hnumber⟩ := h.case_kept hs hopened.stored
      exact ⟨c', hopened.absent, hc', (hcourt'.trans hopened.court).trans hcourt.symm, by
        rw [hnumber]
        exact hopened.number⟩
    cases h.envelope_change hs f with
    | same heq => exact hold file' (heq ▸ hfile') hinit hid rfl
    | created sid s a userId data key file₁ hc hw' hfile₁ hnew =>
      cases hfile'.symm.trans hfile₁
      have hsound := (h.tail hs).statusSound f file' hfile'
      have haccepted := (hsound.initial hinit).1 (by rw [hid]; rfl)
      rw [hnew.file_eq] at haccepted
      cases haccepted
    | step sid s a file file₁ hc hw' hfile hfile₁ hstep =>
      cases hfile'.symm.trans hfile₁
      have hfixed := hstep.grows.fixed
      have hinit₁ := hfixed.filingType.symm.trans hinit
      cases hstep.status with
      | same hsame => exact hold file hfile hinit₁ (hsame.caseId.symm.trans hid) hfixed.courtId
      | submitted _ _ hcase => exact hold file hfile hinit₁ (hcase.symm.trans hid) hfixed.courtId
      | cmsFailed _ _ _ _ _ _ hcase => exact hold file hfile hinit₁ (hcase.symm.trans hid) hfixed.courtId
      | decided userId count action t hr hin hcount hcount' hstatus hevent hactor hnumber hdecisions hcase =>
        rcases hcase with ⟨hsame, _⟩ | ⟨_, hnone, id', hid', hnew⟩
        · exact hold file hfile hinit₁ (hsame.symm.trans hid) hfixed.courtId
        · cases hid.symm.trans hid'
          subst hw'
          obtain ⟨c, hstored, hcourt, receivedAt, courtType, code, hnum⟩ := h.opens hc hr hfile hfile' hnone hid
          have habsent : w.db (.case id) = none := by
            by_contra hsome
            exact (h.spent (.case (Option.isSome_iff_ne_none.2 hsome))).not_drawn hc hnew
          exact ⟨c, h.case_absent habsent, hstored, hcourt, file'.filing, receivedAt, courtType, code,
            ((h.tail hs).wellFormed f file' hfile').id_eq, hnum⟩

/-- **A case that is new in a step belongs to an initial filing that the step accepts.** -/
theorem Run.case_born (h : Run cfg w₀ w) (hs : Step (portal cfg) w w') {id : CaseId} {c : CaseFile}
    (hnone : w.db (.case id) = none) (hsome : w'.db (.case id) = some c) :
    ∃ f file, w.db (.envelope f) = some file ∧ file.filing.status ≠ .accepted ∧ Owns w' f id := by
  rcases Run.step_cases hs with heq | ⟨sid, s, a, hc, rfl⟩
  · rw [heq (.case id) rfl, hnone] at hsome
    cases hsome
  · rcases h.changes hc (.case id) with heq | ⟨c', hc', ⟨c₀, hc₀, _⟩ | ⟨f, file, file', _, hfile, hno,
      hfile', hid, hst, _⟩⟩
    · cases hsome.symm.trans (heq.trans hnone)
    · rw [hnone] at hc₀
      cases hc₀
    · have hsound := h.statusSound f file hfile
      have hinit : file.filing.filingType = .initial := by
        by_contra hother
        exact absurd (hsound.other hother) (by simp [hno])
      have hopen : file.filing.status ≠ .accepted := fun heq => by
        have hcase := (hsound.initial hinit).2 heq
        rw [hno] at hcase
        cases hcase
      have hfixed := (h.grew_to (.single hs) hfile hfile').fixed
      exact ⟨f, file, hfile, hopen, file', hfile', hfixed.filingType.trans hinit, hst, hid⟩

theorem Run.owns_kept (h : Run cfg w₀ w) (hs : Steps (portal cfg) w w') {id : CaseId} (ho : Owns w f id) :
    Owns w' f id := by
  obtain ⟨file, hfile, hinit, hst, hid⟩ := ho
  obtain ⟨file', hfile', hgrew⟩ := h.grew hs hfile
  have hsame := h.final_kept hs hfile hfile' (by rw [hst]; rfl)
  exact ⟨file', hfile', hgrew.fixed.filingType.trans hinit, hsame.status.trans hst, hsame.caseId.trans hid⟩

/-- **Every case that was opened in a run belongs to an accepted initial filing.** -/
theorem Run.case_owner (h : Run cfg w₀ w) {id : CaseId} {c : CaseFile} (hnone : w₀.db (.case id) = none)
    (hsome : w.db (.case id) = some c) : ∃ f, Owns w f id := by
  obtain ⟨w₁, w₂, hs₁, hs, hs₂, hnot, hborn⟩ :=
    h.steps.born (P := fun w => (w.db (.case id)).isSome = true) (by simp [hnone]) (by simp [hsome])
  have h₁ : Run cfg w₀ w₁ := ⟨h.start, hs₁⟩
  obtain ⟨c₂, hc₂⟩ := Option.isSome_iff_exists.1 hborn
  obtain ⟨f, _, _, _, howns⟩ := h₁.case_born hs (by simpa using hnot) hc₂
  exact ⟨f, (h₁.tail hs).owns_kept hs₂ howns⟩

theorem Run.owned (h : Run cfg w₀ w) {id : CaseId} (ho : Owns w f id) :
    ∃ file c, w.db (.envelope f) = some file ∧ OpenedFor w₀ w f file id c := by
  obtain ⟨file, hfile, hinit, _, hid⟩ := ho
  obtain ⟨c, hopened⟩ := h.opened f file id hfile hinit hid
  exact ⟨file, c, hfile, hopened⟩

theorem Run.owners_apart (h : Run cfg w₀ w) {f f' : FilingId} {id id' : CaseId} {c c' : CaseFile} (ho : Owns w f id)
    (ho' : Owns w f' id') (hc : w.db (.case id) = some c) (hc' : w.db (.case id') = some c')
    (hnumber : c.row.caseNumber = c'.row.caseNumber) : f = f' := by
  obtain ⟨_, _, _, hopened⟩ := h.owned ho
  obtain ⟨_, _, _, hopened'⟩ := h.owned ho'
  cases hc.symm.trans hopened.stored
  cases hc'.symm.trans hopened'.stored
  obtain ⟨filing, _, _, _, rfl, hnum⟩ := hopened.number
  obtain ⟨filing', _, _, _, rfl, hnum'⟩ := hopened'.number
  exact newCaseNumber_injective (hnum.symm.trans (hnumber.trans hnum'))

/-! ## Failures -/

def Request.isReview : Request → Bool
  | .reviewFiling .. | .batchReviewFilings .. => true
  | _ => false

theorem FileStep.cmsFailed_kept (h : FileStep cfg r db db' tr f file file') : ∀ t ∈ file'.transactions,
    t ∈ file.transactions ∨ (t.eventType = .cmsFailed → file'.filing.status = .underReview ∧
      file'.filing.caseId = file.filing.caseId ∧ file.filing.status.inReview = true) := by
  cases h with
  | edited | uploaded | retired | erased | copyPrepared => exact fun t ht => .inl ht
  | feesAssessed userId data a time t saved hr h hrec => exact hrec.other rfl (by decide)
  | submitted userId key token seen caseType time date basis t _ hr h hdate hrec =>
    refine hrec.other rfl ?_
    unfold FilingEnvelope.receiptEvent
    split <;> decide
  | accepted userId count time receivedAt seen order dated caseId a b t _ hr h hacc hreceived hdated hcase hrec =>
    exact hdated.other hrec rfl rfl (by decide) (by decide)
  | cmsFailed userId count time receivedAt seen order dated error t _ hr h hacc hreceived hdated hrec =>
    obtain ⟨date, basis, hd⟩ := hdated.filing_eq
    refine fun t _ => .inr fun _ => ⟨?_, ?_, h.inReview⟩
    · rw [hrec.filing_eq]
    · rw [hrec.filing_eq, hd]
      rfl
  | declined userId count action time status event reason t _ hr h haction hrec =>
    refine hrec.other rfl ?_
    obtain ⟨_, _, rfl⟩ | ⟨_, _, rfl⟩ := haction <;> decide
  | waiverDecided userId form time doc due t _ hr haction h hrec =>
    refine hrec.other rfl ?_
    cases form.action <;> decide
  | paid _ _ _ _ _ _ _ _ _ _ hrec | credited _ _ _ _ _ _ _ _ _ _ _ _ _ _ hrec | reversed _ _ _ _ _ _ _ _ _ _ _ hrec
  | feeReviewRequested _ _ _ _ _ _ _ hrec | waiverReferred _ _ _ _ _ _ _ _ hrec | dateOrdered _ _ _ _ _ _ _ _ hrec
  | published _ _ _ _ _ _ _ _ _ _ _ _ _ _ _ _ _ _ hrec | withheld _ _ _ _ _ _ _ _ hrec =>
    exact hrec.other rfl (by decide)

/-- The case management system failed for this filing in this step. -/
def CmsFailed (w w' : PortalWorld) (f : FilingId) : Prop :=
  ∃ file file' t, w.db (.envelope f) = some file ∧ w'.db (.envelope f) = some file' ∧ t ∈ file'.transactions ∧
    t ∉ file.transactions ∧ t.eventType = .cmsFailed

theorem Run.cmsFailed_kept (h : Run cfg w₀ w) (hs : Step (portal cfg) w w') (hfailed : CmsFailed w w' f) :
    ∃ file file', w.db (.envelope f) = some file ∧ w'.db (.envelope f) = some file' ∧
      file'.filing.status.inReview = true ∧ file'.filing.caseId = file.filing.caseId := by
  obtain ⟨file, file', t, hfile, hfile', ht, hnew, hevent⟩ := hfailed
  refine ⟨file, file', hfile, hfile', ?_⟩
  cases h.envelope_change hs f with
  | same heq =>
    cases hfile'.symm.trans (heq.trans hfile)
    exact absurd ht hnew
  | created sid s a userId data key _ hc _ _ hcreated =>
    exact absurd (h.created_none hc hcreated) (by simp [hfile])
  | step sid s a file₁ file₁' hc hw' hfile₁ hfile₁' hstep =>
    cases hfile.symm.trans hfile₁
    cases hfile'.symm.trans hfile₁'
    rcases hstep.cmsFailed_kept t ht with hold | hkept
    · exact absurd hold hnew
    · obtain ⟨hstatus, hcase, _⟩ := hkept hevent
      exact ⟨by rw [hstatus]; rfl, hcase⟩

theorem Run.cmsFailed_unowned (h : Run cfg w₀ w) (hs : Step (portal cfg) w w') (hfailed : CmsFailed w w' f) :
    ∀ id, ¬ Owns w' f id := by
  rintro id ⟨file₁, hfile₁, _, hst, _⟩
  obtain ⟨_, file', _, hfile', hin, _⟩ := h.cmsFailed_kept hs hfailed
  cases hfile₁.symm.trans hfile'
  rw [hst] at hin
  cases hin

theorem Run.review_other (h : Run cfg w₀ w) {sid : Nat} {s : Session View Failure Response Request} {a : Response}
    (hc : Commits (portal cfg) w sid s a) {userId : UserId} {data : ClerkReviewRequest} {cms : Cms}
    (hr : s.request = .reviewFiling userId f data cms) {g : FilingId} (hg : g ≠ f) :
    commit s.trace w.db (.envelope g) = w.db (.envelope g) := by
  have hprogram : (portal cfg).program s.request = reviewFiling cfg cms userId f data := by rw [hr]; rfl
  have hends := hprogram ▸ hc.ends
  rcases reviewFiling_meets _ _ hends (h.guarded.current _ _ hc.found hc.running) with hquiet | ⟨_, _, _, _,
    _, _, hwrites⟩
  · exact congrFun (hquiet.commit w.db) _
  · exact hwrites.frame w.db fun v hv => hg hv.1

theorem Run.cmsFailed_single (h : Run cfg w₀ w) {sid : Nat} {s : Session View Failure Response Request} {a : Response}
    (hc : Commits (portal cfg) w sid s a) {userId : UserId} {data : ClerkReviewRequest} {cms : Cms}
    (hr : s.request = .reviewFiling userId f data cms) (hfailed : CmsFailed w (w.committed sid s a) f) {id : CaseId}
    (hnone : w.db (.case id) = none) : (w.committed sid s a).db (.case id) = none := by
  have hs : Step (portal cfg) w (w.committed sid s a) := .commit sid s a hc
  by_contra hsome
  obtain ⟨c, hc'⟩ := Option.ne_none_iff_exists'.1 hsome
  obtain ⟨g, file, hfile, hnot, howns⟩ := h.case_born hs hnone hc'
  by_cases hg : g = f
  · exact h.cmsFailed_unowned hs hfailed id (hg ▸ howns)
  · obtain ⟨file', hfile', _, hst, _⟩ := howns
    have heq : (w.committed sid s a).db (.envelope g) = w.db (.envelope g) := h.review_other hc hr hg
    rw [heq, hfile] at hfile'
    cases hfile'
    exact hnot hst

theorem Run.review_raised (hs : Step (portal cfg) w w') {sid : Nat} {s' : Session View Failure Response Request}
    (hs' : w'.sessions sid = some s') (hmoved : w'.sessions sid ≠ w.sessions sid)
    (hreview : s'.request.isReview = true) (hnot : ∀ a, s'.status ≠ .committed a) : w'.db = w.db := by
  have hstill : ((portal cfg).program s'.request).Asks Op.Still := by
    cases hreq : s'.request with
    | reviewFiling userId f data cms => exact reviewFiling_still userId f cms data
    | batchReviewFilings userId data cms => exact batchReviewFilings_still userId cms data
    | _ => simp [hreq, Request.isReview] at hreview
  exact hs.still_open hs' hmoved hstill hnot

/-- What a batch leaves alone: a filing that it neither accepts nor reports as failed by the case management system. -/
structure BatchLeaves (w : PortalWorld) (db' : Store) (f : FilingId) : Prop where
  filing : db' (.envelope f) = w.db (.envelope f)
  notices : ∀ id notice, db' (.notice id) = some notice → notice.filingEnvelopeId = some f →
    w.db (.notice id) = some notice

theorem Run.batch_left (h : Run cfg w₀ w) {sid : Nat} {s : Session View Failure Response Request} {a : Response}
    (hc : Commits (portal cfg) w sid s a) {userId : UserId} {data : BatchReviewRequest} {cms : Cms}
    (hr : s.request = .batchReviewFilings userId data cms) : ∃ result : BatchResult,
      a = .batch result.succeeded (result.failed.mergeSort fun a b => a ≤ b) result.errors ∧
      (∀ f, ¬ result.Reports f → BatchLeaves w (commit s.trace w.db) f) ∧
      ∀ id c, w.db (.case id) = some c → commit s.trace w.db (.case id) = some c := by
  have hprogram : (portal cfg).program s.request = batchReviewFilings cfg cms userId data := by rw [hr]; rfl
  have hends := hprogram ▸ hc.ends
  obtain ⟨result, ids, ha, hchanges⟩ :=
    batchReviewFilings_meets _ _ hends (h.guarded.current _ _ hc.found hc.running)
  refine ⟨result, ha, fun f hnot => ⟨?_, fun id notice hnotice hf => ?_⟩, fun id c hcase => ?_⟩
  · rcases hchanges w.db (.envelope f) with heq | ⟨g, _, file, file', _, hrep, hg⟩
    · exact heq
    · obtain ⟨rfl, _⟩ := hg
      exact absurd hrep hnot
  · rcases hchanges w.db (.notice id) with heq | ⟨g, _, file, file', hstep, hrep, hg⟩
    · exact heq.symm.trans hnotice
    · obtain ⟨_, hnotice', _, _, henvelope⟩ := hg
      cases hnotice.symm.trans hnotice'
      have hid : file'.filing.id = g := by
        rw [(hstep.step w.db).grows.fixed.id]
        exact (h.wellFormed g file hstep.stored).id_eq
      cases hf.symm.trans (henvelope.trans (congrArg some hid))
      exact absurd hrep hnot
  · rcases hchanges w.db (.case id) with heq | ⟨g, _, file, file', _, _, hg⟩
    · exact heq.trans hcase
    · obtain ⟨_, _, hnew, _⟩ := hg
      exact absurd hnew ((h.spent (.case (by rw [hcase]; rfl))).not_drawn hc)

/-! ## The law -/

/-- **Initial filings have a case if and only if they are accepted, final statuses stay, every submission is decided at
most once, by a review that named its number; accepted initial filings and the cases opened in the run are one to one,
under different numbers; and a review that fails opens no case.** -/
theorem Run.cases (h : Run cfg w₀ w) :
    (∀ f file, w.db (.envelope f) = some file →
      (file.filing.filingType = .initial → (file.filing.caseId.isSome = true ↔ file.filing.status = .accepted)) ∧
      (∀ w' file', Steps (portal cfg) w w' → w'.db (.envelope f) = some file' →
        file.filing.status.isFinal = true → file'.filing.status = file.filing.status) ∧
      (file.decisions.map FilingTransaction.submissionNumber).Nodup ∧
      ∀ t ∈ file.decisions, DecidedBy cfg w₀ w f t) ∧
    (∀ f file, w.db (.envelope f) = some file → file.filing.filingType = .initial → file.filing.status = .accepted →
      ∃ id c, file.filing.caseId = some id ∧ OpenedFor w₀ w f file id c) ∧
    (∀ id c, w₀.db (.case id) = none → w.db (.case id) = some c → ∃ f, Owns w f id ∧ ∀ f', Owns w f' id → f' = f) ∧
    (∀ f f' id id' c c', Owns w f id → Owns w f' id' → f ≠ f' → w.db (.case id) = some c → w.db (.case id') = some c' →
      id ≠ id' ∧ c.row.caseNumber ≠ c'.row.caseNumber) ∧
    (∀ w', Step (portal cfg) w w' →
      (∀ id c, w.db (.case id) = none → w'.db (.case id) = some c →
        ∃ f file, w.db (.envelope f) = some file ∧ file.filing.status ≠ .accepted ∧ Owns w' f id) ∧
      (∀ f, CmsFailed w w' f → (∃ file file', w.db (.envelope f) = some file ∧ w'.db (.envelope f) = some file' ∧
        file'.filing.status.inReview = true ∧ file'.filing.caseId = file.filing.caseId) ∧ ∀ id, ¬ Owns w' f id) ∧
      (∀ sid s', w'.sessions sid = some s' → w'.sessions sid ≠ w.sessions sid → s'.request.isReview = true →
        (∀ a, s'.status ≠ .committed a) → w'.db = w.db)) ∧
    ∀ sid s a, Commits (portal cfg) w sid s a →
      (∀ userId f data cms, s.request = .reviewFiling userId f data cms → CmsFailed w (w.committed sid s a) f →
        ∀ id, w.db (.case id) = none → (w.committed sid s a).db (.case id) = none) ∧
      ∀ userId data cms, s.request = .batchReviewFilings userId data cms → ∃ result : BatchResult,
        a = .batch result.succeeded (result.failed.mergeSort fun a b => a ≤ b) result.errors ∧
        ∀ f, ¬ result.Reports f → (w.committed sid s a).db (.envelope f) = w.db (.envelope f) := by
  refine ⟨fun f file hfile => ?_, ?_, ?_, ?_, fun w' hs => ⟨?_, ?_, ?_⟩, fun sid s a hc => ⟨?_, ?_⟩⟩
  · have hsound := h.statusSound f file hfile
    exact ⟨hsound.initial, fun w' file' hs hfile' hfinal => (h.final_kept hs hfile hfile' hfinal).status, hsound.nodup,
      fun t ht => h.decided hfile ht⟩
  · intro f file hfile hinit hst
    obtain ⟨id, hid⟩ := Option.isSome_iff_exists.1 (((h.statusSound f file hfile).initial hinit).2 hst)
    obtain ⟨c, hopened⟩ := h.opened f file id hfile hinit hid
    exact ⟨id, c, hid, hopened⟩
  · intro id c hnone hsome
    obtain ⟨f, hf⟩ := h.case_owner hnone hsome
    exact ⟨f, hf, fun f' hf' => h.owners_apart hf' hf hsome hsome rfl⟩
  · intro f f' id id' c c' ho ho' hne hc hc'
    refine ⟨fun heq => ?_, fun heq => hne (h.owners_apart ho ho' hc hc' heq)⟩
    subst heq
    cases hc.symm.trans hc'
    exact hne (h.owners_apart ho ho' hc hc rfl)
  · exact fun id c hnone hsome => h.case_born hs hnone hsome
  · exact fun f hfailed => ⟨h.cmsFailed_kept hs hfailed, h.cmsFailed_unowned hs hfailed⟩
  · exact fun sid s' hs' hmoved hreview hnot => Run.review_raised hs hs' hmoved hreview hnot
  · exact fun userId f data cms hr hfailed id hnone => h.cmsFailed_single hc hr hfailed hnone
  · intro userId data cms hr
    obtain ⟨result, ha, hleft, _⟩ := h.batch_left hc hr
    exact ⟨result, ha, fun f hnot => (hleft f hnot).filing⟩

/-- The accepted filing of the small portal has a case, which was opened for it. -/
theorem Run.cases_accepted : ∃ file id c, acceptedWorld.db (.envelope 10) = some file ∧
    file.filing.caseId = some id ∧ OpenedFor smallWorld acceptedWorld 10 file id c := by
  have hfile : (acceptedWorld.db (.envelope 10)).any (fun file =>
      file.filing.filingType == .initial && file.filing.status == .accepted) = true := by
    decide +kernel
  obtain ⟨file, hfile, hshape⟩ := (Option.any_eq_true _ _).1 hfile
  have hshape : file.filing.filingType = .initial ∧ file.filing.status = .accepted := by simpa using hshape
  obtain ⟨id, c, hid, hopened⟩ := (Run.cases acceptedWorld_run).2.1 10 file hfile hshape.1 hshape.2
  exact ⟨file, id, c, hfile, hid, hopened⟩

end Muefs
