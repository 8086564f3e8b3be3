import Muefs.Portal.Service
import Muefs.Steps.Asks
import Muefs.Steps.Documents

/-!
# Receipts

* `FilingFile.receipts`, `FilingFile.requestKeys` : the receipts of a filing and the keys of its requests;
* `ReceiptsKept`, `Receipted`, `FileStep.receipts_cases` : every step but a submission leaves them alone;
* `FilingFile.Numbered`, `Run.numbered` : receipts carry the numbers `1` to `submissionCount`, keys differ;
* `submitFiling_still`, `submitFiling_replay` : a request whose key is recorded changes nothing;
* `currentSource_of_numbered` : a delivery finds its receipt; `Run.receipts` : the law.
-/

namespace Muefs
open RowLocks

variable {cfg : Settings} {r : Request} {db db' : Store} {tr : Trace} {f : FilingId} {file file' : FilingFile}

/-! ## Receipts of a filing -/

/-- The receipts, in the order of their commits. -/
def FilingFile.receipts (file : FilingFile) : List FilingTransaction :=
  file.transactions.filter fun t => t.eventType.isReceipt

/-- The keys of the requests that recorded a transaction. -/
def FilingFile.requestKeys (file : FilingFile) : List Uuid :=
    file.transactions.filterMap FilingTransaction.idempotencyKey

/-- What a step that is no submission leaves alone. -/
structure ReceiptsKept (file file' : FilingFile) : Prop where
  receipts : file'.receipts = file.receipts
  requestKeys : file'.requestKeys = file.requestKeys
  count : file'.filing.submissionCount = file.filing.submissionCount
  draft : file'.filing.status ≠ .draft → file.filing.status ≠ .draft
  case : file'.filing.caseId = file.filing.caseId ∨ file.filing.caseId = none

theorem ReceiptsKept.trans {file₁ file₂ file₃ : FilingFile} (h : ReceiptsKept file₁ file₂)
    (h' : ReceiptsKept file₂ file₃) : ReceiptsKept file₁ file₃ where
  receipts := h'.receipts.trans h.receipts
  requestKeys := h'.requestKeys.trans h.requestKeys
  count := h'.count.trans h.count
  draft := fun hd => h.draft (h'.draft hd)
  case := by
    rcases h'.case with h₂ | h₂ <;> rcases h.case with h₁ | h₁
    · exact .inl (h₂.trans h₁)
    · exact .inr h₁
    · exact .inr (h₁.symm.trans h₂)
    · exact .inr h₁

theorem ReceiptsKept.of_envelope (htrans : file'.transactions = file.transactions)
    (hcount : file'.filing.submissionCount = file.filing.submissionCount)
    (hdraft : file'.filing.status ≠ .draft → file.filing.status ≠ .draft)
    (hcase : file'.filing.caseId = file.filing.caseId ∨ file.filing.caseId = none) : ReceiptsKept file file' where
  receipts := by simp only [FilingFile.receipts, htrans]
  requestKeys := by simp only [FilingFile.requestKeys, htrans]
  count := hcount
  draft := hdraft
  case := hcase

theorem Recorded.receiptsKept {event : EventType} {actorId : UserId} {details : Details} {t : FilingTransaction}
    (h : Recorded cfg tr file event actorId none details file' t) (hevent : event.isReceipt = false) :
    ReceiptsKept file file' where
  receipts := by
    simp only [FilingFile.receipts, h.transactions_eq, List.filter_append, List.filter_cons,
      List.filter_nil, h.event_eq, hevent, List.append_nil, if_false, Bool.false_eq_true]
  requestKeys := by
    simp only [FilingFile.requestKeys, h.transactions_eq, List.filterMap_append, List.filterMap_cons, h.key_eq,
      List.filterMap_nil, List.append_nil]
  count := by rw [h.filing_eq]
  draft := by rw [h.filing_eq]; exact id
  case := .inl (by rw [h.filing_eq])

theorem Dated.receiptsKept {reviewerId : UserId} {receivedAt : Instant} {ordered : Bool} {dated : FilingFile}
    (h : Dated cfg tr reviewerId receivedAt file ordered dated) : ReceiptsKept file dated := by
  cases h with
  | ordered => exact .of_envelope rfl rfl id (.inl rfl)
  | kept => exact .of_envelope rfl rfl id (.inl rfl)
  | assessed calendars assessment hcal hassess previous _ t hrec =>
    refine .trans ?_ (hrec.receiptsKept rfl)
    exact .of_envelope rfl rfl id (.inl rfl)

/-- A submission: one receipt more, under a key that was not used. -/
def Receipted (cfg : Settings) (db : Store) (tr : Trace) (file file' : FilingFile) : Prop :=
  ∃ userId account key time date basis t, ActiveFiler db userId account ∧
    Accepts db file.filing.destination ⟨file.filing.filerId, account⟩ ∧
    Recorded cfg tr { file with filing := file.filing.submittedNow time date basis } file.filing.receiptEvent
      file.filing.filerId key {} file' t

theorem FilingStatus.inReview_ne_draft {status : FilingStatus} (h : status.inReview = true) : status ≠ .draft := by
  rintro rfl
  cases h

/-- **Every step but a submission leaves the receipts alone.** -/
theorem FileStep.receipts_cases (h : FileStep cfg r db db' tr f file file') :
    ReceiptsKept file file' ∨ Receipted cfg db tr file file' := by
  cases h with
  | edited => exact .inl (.of_envelope rfl rfl id (.inl rfl))
  | uploaded => exact .inl (.of_envelope rfl rfl id (.inl rfl))
  | retired => exact .inl (.of_envelope rfl rfl id (.inl rfl))
  | erased => exact .inl (.of_envelope rfl rfl id (.inl rfl))
  | copyPrepared => exact .inl (.of_envelope rfl rfl id (.inl rfl))
  | submitted userId key token seen caseType time date basis t _ hr h hdate hrec =>
    obtain ⟨account, hactive, haccepts⟩ := h.filer
    exact .inr ⟨userId, account, key, time, date, basis, t, hactive, haccepts, hrec⟩
  | feesAssessed userId data a time t saved hr h hrec =>
    refine .inl (.trans (.trans ?_ (hrec.receiptsKept rfl)) (.of_envelope rfl rfl id (.inl rfl)))
    exact .of_envelope rfl rfl id (.inl rfl)
  | waiverDecided userId form time doc due t _ hr haction h hrec =>
    refine .inl (.trans ?_ (hrec.receiptsKept form.action.event_isReceipt))
    exact .of_envelope rfl rfl id (.inl rfl)
  | accepted userId count time receivedAt seen order dated caseId a b t _ hr h hacc hreceived hdated hcase hrec =>
    refine .inl (.trans ?_ (hrec.receiptsKept rfl))
    refine .trans (.trans ?_ hdated.receiptsKept) (.of_envelope rfl rfl ?_ ?_)
    · exact .of_envelope rfl rfl id (.inl rfl)
    · obtain ⟨_, _, hfiling⟩ := hdated.filing_eq
      intro _
      rw [hfiling]
      exact FilingStatus.inReview_ne_draft h.inReview
    · obtain ⟨_, _, hfiling⟩ := hdated.filing_eq
      rw [hfiling]
      rcases hcase with hcase | ⟨hnone, _⟩
      · exact .inl hcase.symm
      · exact .inr hnone
  | cmsFailed userId count time receivedAt seen order dated error t _ hr h hacc hreceived hdated hrec =>
    refine .inl (.trans ?_ (hrec.receiptsKept rfl))
    refine .trans (.trans ?_ hdated.receiptsKept) (.of_envelope rfl rfl ?_ (.inl rfl))
    · exact .of_envelope rfl rfl id (.inl rfl)
    · obtain ⟨_, _, hfiling⟩ := hdated.filing_eq
      intro _
      rw [hfiling]
      exact FilingStatus.inReview_ne_draft h.inReview
  | declined userId count action time status event reason t _ hr h haction hrec =>
    have hevent : event.isReceipt = false := by
      obtain ⟨_, _, rfl⟩ | ⟨_, _, rfl⟩ := haction <;> rfl
    refine .inl (.trans ?_ (hrec.receiptsKept hevent))
    exact .of_envelope rfl rfl (fun _ => FilingStatus.inReview_ne_draft h.inReview) (.inl rfl)
  | paid _ _ _ _ _ _ _ _ _ _ hrec | credited _ _ _ _ _ _ _ _ _ _ _ _ _ _ hrec | reversed _ _ _ _ _ _ _ _ _ _ _ hrec
  | feeReviewRequested _ _ _ _ _ _ _ hrec | waiverReferred _ _ _ _ _ _ _ _ hrec | dateOrdered _ _ _ _ _ _ _ _ hrec
  | published _ _ _ _ _ _ _ _ _ _ _ _ _ _ _ _ _ _ hrec | withheld _ _ _ _ _ _ _ _ hrec =>
    refine .inl (.trans ?_ (hrec.receiptsKept rfl))
    exact .of_envelope rfl rfl id (.inl rfl)

/-! ## The invariant -/

/-- Receipts carry the numbers from one to the count, no key is used twice, and receipts name the filing's court, type
and, unless it opens one, case. -/
structure FilingFile.Numbered (file : FilingFile) : Prop where
  numbers : file.receipts.map FilingTransaction.submissionNumber = List.range' 1 file.filing.submissionCount
  keys : file.requestKeys.Nodup
  begun : file.filing.status ≠ .draft → 0 < file.filing.submissionCount
  shape : file.filing.filingType ≠ .initial → file.filing.caseId ≠ none
  sources : ∀ t ∈ file.receipts, ∃ d, t.details.receipt = some d ∧ d.courtId = file.filing.courtId ∧
    d.filingType = file.filing.filingType ∧ (file.filing.filingType ≠ .initial → d.caseId = file.filing.caseId)

theorem ReceiptsKept.numbered (h : ReceiptsKept file file') (hfixed : file.filing.Fixed file'.filing)
    (hI : file.Numbered) : file'.Numbered := by
  have hcase : file'.filing.filingType ≠ .initial → file'.filing.caseId = file.filing.caseId := by
    intro htype
    rw [hfixed.filingType] at htype
    exact h.case.resolve_right (hI.shape htype)
  refine ⟨?_, ?_, fun hdraft => ?_, fun htype => ?_, fun t ht => ?_⟩
  · rw [h.receipts, h.count]
    exact hI.numbers
  · rw [h.requestKeys]
    exact hI.keys
  · rw [h.count]
    exact hI.begun (h.draft hdraft)
  · rw [hcase htype]
    exact hI.shape (hfixed.filingType ▸ htype)
  · rw [h.receipts] at ht
    obtain ⟨d, hd, hcourt, htype, hc⟩ := hI.sources t ht
    refine ⟨d, hd, hcourt.trans hfixed.courtId.symm, htype.trans hfixed.filingType.symm, fun hother => ?_⟩
    rw [hcase hother]
    exact hc (hfixed.filingType ▸ hother)

theorem Receipted.numbered (h : Receipted cfg db tr file file') (hI : file.Numbered) : file'.Numbered := by
  obtain ⟨userId, account, key, time, date, basis, t, _, _, hrec⟩ := h
  have hreceipt := file.filing.receiptEvent_isReceipt
  have hreceipts : file'.receipts = file.receipts ++ [t] := by
    simp only [FilingFile.receipts, hrec.transactions_eq, List.filter_append, List.filter_cons, List.filter_nil,
      hrec.event_eq, hreceipt, if_true]
  have hkeys : file'.requestKeys = file.requestKeys ++ key.toList := by
    simp only [FilingFile.requestKeys, hrec.transactions_eq, List.filterMap_append, List.filterMap_cons, hrec.key_eq,
      List.filterMap_nil]
    cases key <;> rfl
  refine ⟨?_, ?_, fun _ => ?_, ?_, fun u hu => ?_⟩
  · rw [hreceipts, hrec.filing_eq, List.map_append, hI.numbers]
    simp only [FilingEnvelope.submittedNow, List.map_cons, List.map_nil, hrec.number_eq, List.range'_1_concat]
    rw [Nat.add_comm 1]
  · rw [hkeys]
    cases key with
    | none => simpa using hI.keys
    | some k =>
      refine List.nodup_append.2 ⟨hI.keys, by simp, fun a ha b hb => ?_⟩
      obtain ⟨u, hu, hk⟩ := List.mem_filterMap.1 ha
      rw [Option.toList_some, List.mem_singleton] at hb
      rintro rfl
      exact (hrec.key_new.resolve_left (by simp)) u hu (hb ▸ hk)
  · rw [hrec.filing_eq]
    exact Nat.succ_pos _
  · rw [hrec.filing_eq]
    exact hI.shape
  · rw [hreceipts] at hu
    rw [hrec.filing_eq]
    rcases List.mem_append.1 hu with hu | hu
    · exact hI.sources u hu
    · cases List.mem_singleton.1 hu
      obtain ⟨d, hd, hcourt, hcase, htype⟩ := hrec.receipt hreceipt
      exact ⟨d, hd, hcourt, htype, fun _ => hcase⟩

variable {w₀ w w' : PortalWorld}

/-- **The receipts of every filing are numbered.** -/
theorem Run.numbered (h : Run cfg w₀ w) : ∀ f file, w.db (.envelope f) = some file → file.Numbered := by
  refine h.file_invariant ?_ ?_
  · intro w sid s a f userId data key file' _ _ hnew
    rw [hnew.file_eq]
    refine ⟨rfl, List.nodup_nil, fun hdraft => absurd rfl hdraft, fun htype hnone => ?_, by simp [FilingFile.receipts]⟩
    exact htype (data.matching.2 hnone)
  · intro w sid s a f file file' _ _ _ hI hstep
    rcases hstep.receipts_cases with hkept | hreceipted
    · exact hkept.numbered hstep.grows.fixed hI
    · exact hreceipted.numbered hI

/-! ## Deliveries -/

theorem FilingFile.Numbered.source (hI : file.Numbered) (hcount : 0 < file.filing.submissionCount) :
    ∃ t, file.sources = [t] ∧ t ∈ file.receipts := by
  have hsources : file.sources = file.receipts.filter fun t => t.submissionNumber == file.filing.submissionCount := by
    simp only [FilingFile.sources, FilingFile.receipts, List.filter_filter]
  have hnumber : file.sources.map FilingTransaction.submissionNumber = [file.filing.submissionCount] := by
    rw [hsources]
    have hmap := List.filter_map (p := fun n => n == file.filing.submissionCount)
      (f := FilingTransaction.submissionNumber) (l := file.receipts)
    rw [hI.numbers] at hmap
    refine hmap.symm.trans ?_
    obtain ⟨n, hn⟩ : ∃ n, file.filing.submissionCount = n + 1 := ⟨file.filing.submissionCount - 1, by omega⟩
    rw [hn, List.range'_1_concat, List.filter_append]
    have hbefore : (List.range' 1 n).filter (fun m => m == n + 1) = [] := by
      rw [List.filter_eq_nil_iff]
      intro m hm
      have := List.mem_range'_1.1 hm
      simp only [beq_iff_eq]
      omega
    rw [hbefore, Nat.add_comm 1 n]
    simp
  obtain ⟨t, ht⟩ : ∃ t, file.sources = [t] := by
    cases hs : file.sources with
    | nil => simp [hs] at hnumber
    | cons t ts =>
      cases ts with
      | nil => exact ⟨t, rfl⟩
      | cons u us => simp [hs] at hnumber
  refine ⟨t, ht, ?_⟩
  have hmem : t ∈ file.sources := by simp [ht]
  rw [hsources] at hmem
  exact List.mem_of_mem_filter hmem

theorem FilingStatus.isDeliverable_ne_draft {status : FilingStatus} (h : status.isDeliverable = true) :
    status ≠ .draft := by
  rintro rfl
  cases h

/-- **A delivery finds its receipt and does not refuse it.** -/
theorem currentSource_of_numbered (hI : file.Numbered) (htype : file.filing.filingType ≠ .initial)
    (hstatus : file.filing.status.isDeliverable = true) :
    ∃ t ∈ file.receipts, file.sources = [t] ∧ currentSource file = .ok t := by
  obtain ⟨t, ht, hmem⟩ := hI.source (hI.begun (FilingStatus.isDeliverable_ne_draft hstatus))
  obtain ⟨d, hd, hcourt, htyped, hcase⟩ := hI.sources t hmem
  refine ⟨t, hmem, ht, ?_⟩
  simp [currentSource, hstatus, ht, hd, hcourt, htyped, hcase htype]

/-! ## Replays -/

variable {userId : UserId} {key : Option Uuid} {token : SubmissionToken}

/-- Whatever is written, is written under a key that was not recorded. -/
def Unrecorded (db : Store) (f : FilingId) (key : Option Uuid) (tr : Trace) : Prop :=
  Quiet tr ∨ ∃ file, db (.envelope f) = some file ∧ file.hasKey key = false

/-- **A submission whose key is recorded writes nothing.** -/
theorem submitFiling_replay :
    Meets db (submitFilingRequest cfg userId f key token) fun tr _ => Unrecorded db f key tr := by
  refine submitFiling_meets.mono fun tr a hend => ?_
  cases hend with
  | still h => exact .inl h
  | recorded file file' t hdb hkey _ _ _ => exact .inr ⟨file, hdb, hkey⟩

theorem Run.replay_still (h : Run cfg w₀ w) (hs : Step (portal cfg) w w') (hfile : w.db (.envelope f) = some file)
    (hkey : file.hasKey key = true) {sid : Nat} {s : Session View Failure Response Request}
    (hs' : w'.sessions sid = some s) (hmoved : w'.sessions sid ≠ w.sessions sid)
    (hreq : s.request = .submitFiling userId f key token) : w'.db = w.db := by
  have hstill : ((portal cfg).program s.request).Asks Op.Still := hreq ▸ submitFiling_still userId f key token
  rcases hs.still hs' hmoved hstill with hdb | ⟨s₀, a, hc, rfl, hreq₀⟩
  · exact hdb
  · have hmeets : Meets w.db ((portal cfg).program s₀.request) fun tr _ => Unrecorded w.db f key tr :=
      hreq₀ ▸ hreq ▸ submitFiling_replay
    rcases hc.meets h.guarded hmeets with hquiet | ⟨file₀, hfile₀, hnew⟩
    · exact hquiet.commit w.db
    · cases hfile.symm.trans hfile₀
      rw [hkey] at hnew
      cases hnew

/-! ## The law -/

/-- **Every filing has one receipt for each submission number and none beyond, and each key recorded at most one
transaction; a request whose key is recorded changes nothing; and documents on a case, once submitted and not declined,
have the one source that a delivery looks for.** -/
theorem Run.receipts (h : Run cfg w₀ w) (hfile : w.db (.envelope f) = some file) :
    (∀ n, (file.transactions.filter fun t => t.eventType.isReceipt && t.submissionNumber == n).length =
      if 1 ≤ n ∧ n ≤ file.filing.submissionCount then 1 else 0) ∧
    (∀ k, (file.transactions.filter fun t => t.idempotencyKey == some k).length ≤ 1) ∧
    (∀ k, file.hasKey (some k) = true → ∀ w' sid s userId token, Step (portal cfg) w w' →
      w'.sessions sid = some s → w'.sessions sid ≠ w.sessions sid → s.request = .submitFiling userId f (some k) token →
      w'.db = w.db) ∧
    (file.filing.filingType = .subsequent ∨ file.filing.filingType = .motion ∨ file.filing.filingType = .serviceOnly →
      file.filing.status.isDeliverable = true →
      ∃ t ∈ file.transactions, file.sources = [t] ∧ currentSource file = .ok t) := by
  have hI := h.numbered f file hfile
  refine ⟨fun n => ?_, fun k => ?_, fun k hkey w' sid s userId token hs hs' hmoved hreq => ?_, fun htype hstatus => ?_⟩
  · have hcount : ((file.receipts.map FilingTransaction.submissionNumber).filter (· == n)).length =
        (file.transactions.filter fun t => t.eventType.isReceipt && t.submissionNumber == n).length := by
      rw [List.filter_map, List.length_map, FilingFile.receipts, List.filter_filter]
      congr 2
      funext t
      simp [Bool.and_comm]
    rw [← hcount, hI.numbers, ← List.countP_eq_length_filter]
    have hnodup := List.nodup_range' (s := 1) (n := file.filing.submissionCount)
    by_cases hn : 1 ≤ n ∧ n ≤ file.filing.submissionCount
    · rw [if_pos hn]
      exact List.count_eq_one_of_mem hnodup (List.mem_range'_1.2 (by omega))
    · rw [if_neg hn]
      refine List.count_eq_zero.2 fun hmem => hn ?_
      have := List.mem_range'_1.1 hmem
      omega
  · have hcount : (file.requestKeys.filter (· == k)).length =
        (file.transactions.filter fun t => t.idempotencyKey == some k).length := by
      unfold FilingFile.requestKeys
      induction file.transactions with
      | nil => rfl
      | cons t ts ih =>
        cases hk : t.idempotencyKey with
        | none => simpa [hk] using ih
        | some k' => by_cases heq : k' = k <;> simpa [hk, heq] using ih
    rw [← hcount, ← List.countP_eq_length_filter]
    exact List.nodup_iff_count_le_one.1 hI.keys k
  · exact h.replay_still hs hfile hkey hs' hmoved hreq
  · have hother : file.filing.filingType ≠ .initial := by
      rcases htype with htype | htype | htype <;> rw [htype] <;> simp
    obtain ⟨t, ht, hsources, hok⟩ := currentSource_of_numbered hI hother hstatus
    exact ⟨t, List.mem_of_mem_filter ht, hsources, hok⟩

def servedWorld : PortalWorld :=
  (smallWorld.serveAll (portal .demo) 0 serviceRequests).serveAll (portal .demo) 2
    [(3000, .submitFiling 1 10 (some 9) (tokenOf (smallWorld.serveAll (portal .demo) 0 serviceRequests) 10))]

/-- The record of service is the source of its delivery. -/
theorem Run.receipts_served : ∃ file, servedWorld.db (.envelope 10) = some file ∧ file.hasKey (some 9) = true ∧
    ∃ t ∈ file.transactions, file.sources = [t] ∧ currentSource file = .ok t := by
  have hrun : Run .demo smallWorld servedWorld :=
    (Run.serveAll smallWorld_initial (by decide +kernel)).trans (Run.serveMore smallWorld_initial (by decide +kernel))
  have hfile : (servedWorld.db (.envelope 10)).any (fun file => file.filing.filingType == .serviceOnly &&
      file.filing.status.isDeliverable && file.hasKey (some 9)) = true := by
    decide +kernel
  obtain ⟨file, hfile, hserved⟩ := (Option.any_eq_true _ _).1 hfile
  simp only [Bool.and_eq_true, beq_iff_eq] at hserved
  exact ⟨file, hfile, hserved.2, (Run.receipts hrun hfile).2.2.2 (.inr (.inr hserved.1.1)) hserved.1.2⟩

end Muefs
