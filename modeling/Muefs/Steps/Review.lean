import Muefs.Steps.Opening

/-!
# What reviews change

* `recordReview_meets` : what a review writes, from what it verified (`Evidence`);
* `reviewFiling_changes` : the endpoint for one filing;
* `recordBatch_meets`, `batchReviewFilings_changes` : the endpoint for many, each filing in a nested transaction.
-/

namespace Muefs
open RowLocks

variable {cfg : Settings} {db : Store} {userId : UserId} {f : FilingId}

/-! ## Before the lock -/

/-- The evidence of an acceptance is that of the filing as it was verified. -/
def Evidence (tr : Trace) (f : FilingId) (evidence : ReviewEvidence) (seen : FilingFile)
    (order : Option FilingDocument) : Prop :=
  Examined tr f seen order ∧ evidence = {
    dateVersion := seen.filing.filingDateVersion
    orderedDate := seen.filing.hasOrderedDate
    fingerprints := some ((seen.currentDocuments ++ order.toList).map FilingDocument.fingerprint) }

theorem reviewOrder_meets {probe : FilingFile} :
    Meets db (reviewOrder probe) fun tr order => Quiet tr ∧
      (probe.filing.hasOrderedDate = true → ∃ rows doc, Seen tr probe.filing.id rows ∧ doc ∈ rows.documents ∧
        some doc.id = probe.filing.orderDocumentId ∧ order = some doc) ∧
      (probe.filing.hasOrderedDate = false → order = none) := by
  simp only [reviewOrder, meets_ite, meets_bind, meets_look, meets_expect, meets_require, meets_pure]
  refine ⟨fun ho rows doc hdoc _ => ⟨by simp [Writes], fun _ => ?_, fun hn => by simp [ho] at hn⟩, fun ho => ?_⟩
  · obtain ⟨rows, rfl, hfound⟩ := Option.bind_eq_some_iff.1 hdoc
    have hd := List.find?_some hfound
    simp only [Bool.and_eq_true, beq_iff_eq] at hd
    exact ⟨rows, doc, by simp [Seen], List.mem_of_find?_eq_some hfound, hd.1.1, rfl⟩
  · exact ⟨by simp [Writes], fun h => absurd h ho, fun _ => trivial⟩

theorem verifyReview_meets {action : ReviewAction} {count : Nat} :
    Meets db (verifyReview f action count) fun tr out => Quiet tr ∧
      ∀ evidence, out = some evidence → action = .accept → ∃ seen order, Evidence tr f evidence seen order := by
  simp only [verifyReview, meets_bind]
  refine getFiling_meets.mono ?_
  rintro tr₁ row ⟨h₁, hread⟩
  cases row with
  | none => simp [h₁, Writes]
  | some probe =>
    simp only [reviewFingerprints, meets_bind, meets_require, meets_ite, meets_pure]
    refine fun _ => ⟨fun _ => ⟨fun haccept => ?_, fun hother => ?_⟩, fun _ => by simp [h₁]⟩
    · refine reviewOrder_meets.mono ?_
      rintro tr₂ order ⟨h₂, hord, hunord⟩
      refine (verifyFilingDocuments_meets db probe order).mono ?_
      rintro tr₃ _ ⟨h₃, hne, hverified⟩
      have hprobe := hread probe rfl
      refine ⟨by simp [h₁, h₂, h₃], ?_⟩
      rintro _ ⟨⟩ _
      refine ⟨probe, order, ?_, rfl⟩
      have hlocal : ∀ e, e ∈ tr₁ ∨ e ∈ tr₂ ∨ e ∈ tr₃ → e ∈ tr₁ ++ ([] ++ (tr₂ ++ (tr₃ ++ []) ++ [])) := by
        intro e he
        simpa using he
      exact {
        envelope := hprobe.envelope.imp fun _ h => ⟨hlocal _ (.inl h.1), h.2⟩
        documents := (hprobe.documents (FilingFile.documents_ne hne)).imp fun _ h => ⟨hlocal _ (.inl h.1), h.2⟩
        ordered := fun ho => by
          obtain ⟨rows, doc, hrows, hdoc⟩ := hord ho
          exact ⟨rows, doc, hlocal _ (.inr (.inl hrows)), hdoc⟩
        unordered := hunord
        verified := fun doc hd => (hverified doc hd).mono fun e he _ => hlocal e (.inr (.inr he)) }
    · refine ⟨by simp [h₁], ?_⟩
      rintro _ _ haccept
      exact absurd haccept hother

/-! ## Under the lock -/

/-- What the review of one filing writes: the filing, a case it opens with its date, and notices to the filer. -/
def ReviewWrites (tr : Trace) (f : FilingId) (file file' : FilingFile) : (g : Row) → View g → Prop
  | .envelope g, v => g = f ∧ v = some file'
  | .notice id, v => IsNotice file'.filing (.notice id) v
  | .case id, v => ∃ c, v = some c ∧ ⟨.fresh, id⟩ ∈ tr ∧ file.filing.caseId = none ∧ file'.filing.caseId = some id ∧
      file'.filing.status = .accepted ∧ c.row.filingDate = file'.filing.filingDate ∧ Numbers file'.filing c.row ∧ c.Bare
  | .caseNumber _ _, _ => True
  | _, _ => False

theorem IsNotice.reviewWrites {tr : Trace} {file file' : FilingFile} {filing : FilingEnvelope}
    (h : ∀ g v, IsNotice filing g v → IsNotice file'.filing g v) :
    ∀ g v, IsNotice filing g v → ReviewWrites tr f file file' g v := by
  intro g v hg
  cases g with
  | notice id => exact h _ _ hg
  | _ => exact hg.elim

theorem Dated.same {tr : Trace} {receivedAt : Instant} {file dated : FilingFile} {ordered : Bool}
    (h : Dated cfg tr userId receivedAt file ordered dated) :
    dated.filing = { file.filing with
      filingDate := dated.filing.filingDate
      filingDateBasis := dated.filing.filingDateBasis } := by
  cases h with
  | ordered => rfl
  | kept => rfl
  | assessed calendars assessment hcal hassess previous _ t hrec => rw [hrec.filing_eq]

theorem assessReviewDate_meets {file : FilingFile} {ordered : Bool} {receivedAt : Instant} :
    Meets db (assessReviewDate cfg file userId ordered receivedAt) fun tr dated =>
      Writes (IsNotice file.filing) tr ∧ Dated cfg tr userId receivedAt file ordered dated := by
  simp only [assessReviewDate, meets_ite, meets_bind, meets_look, meets_ofExcept, meets_require, meets_pure]
  refine ⟨fun ho => ⟨trivial, ho ▸ .ordered⟩, fun ho calendars assessment hassess _ => ⟨fun hsame => ?_, fun _ => ?_⟩⟩
  · rw [Bool.eq_false_iff.2 ho]
    exact ⟨by simp [Writes], .kept calendars assessment (by simp [Scheduled]) hassess hsame⟩
  · rw [Bool.eq_false_iff.2 ho]
    refine (recordTransaction_meets cfg db _ _ _ _ _ _).mono ?_
    rintro tr ⟨dated, t⟩ ⟨hn, hrec⟩
    refine ⟨?_, .assessed calendars assessment (by simp [Scheduled]) hassess _ dated t (hrec.mono ?_)⟩
    · have hn' : Writes (IsNotice file.filing) tr := hn.mono (IsNotice.congr rfl rfl)
      simp [Writes, hn']
    · intro e he _
      simp [he]

theorem acceptanceCase_meets {file : FilingFile} {case : Option CaseFile} {receivedAt : Instant} :
    Meets db (acceptanceCase file case receivedAt) fun tr c => Quiet tr ∧
      (case = none → c.filingDate = file.filing.filingDate ∧ Numbers file.filing c ∧ CaseFile.Bare { row := c }) := by
  cases case with
  | some case => simp [acceptanceCase, Writes]
  | none =>
    simp only [acceptanceCase, meets_bind, meets_look, meets_expect, meets_pure]
    intro _ _ _ _ _ _
    refine ⟨by simp [Writes], fun _ => ⟨trivial, ⟨rfl, _, _, _, rfl⟩, ⟨rfl, rfl, rfl, rfl⟩⟩⟩

theorem Numbers.congr {filing filing' : FilingEnvelope} {case : Case} (h : Numbers filing case)
    (hid : filing'.id = filing.id) (hcourt : filing'.courtId = filing.courtId)
    (hdate : filing'.filingDate = filing.filingDate) : Numbers filing' case := by
  obtain ⟨hc, receivedAt, courtType, code, hnumber⟩ := h
  refine ⟨hc.trans hcourt.symm, receivedAt, courtType, code, ?_⟩
  rw [hnumber, newCaseNumber, newCaseNumber, hid, hdate]

def OpenWrites (caseId : CaseId) (case : Case) : (g : Row) → View g → Prop
  | .case id, v => id = caseId ∧ v = some { row := case }
  | .caseNumber _ _, _ => True
  | _, _ => False

theorem openCase_meets {filing : FilingEnvelope} {case : Case} :
    Meets db (openCase filing case) fun tr id => ∃ caseId, id = some caseId ∧
      ((filing.caseId = some caseId ∧ Quiet tr) ∨
        (filing.caseId = none ∧ ⟨.fresh, caseId⟩ ∈ tr ∧
          ⟨.write (.case caseId) fun _ => some { row := case }, ()⟩ ∈ tr ∧ Writes (OpenWrites caseId case) tr)) := by
  unfold openCase
  cases filing.caseId with
  | some id => simp [Writes]
  | none =>
    simp only [meets_bind, meets_newId, meets_lock, meets_require, meets_write, meets_pure]
    refine fun id _ => ⟨id, rfl, .inr ⟨trivial, by simp, by simp, ?_⟩⟩
    simp [Writes, OpenWrites]

/-- A filing that gets a case in this trace gets a new one, which is inserted. -/
def Opens (tr : Trace) (file file' : FilingFile) : Prop :=
  file.filing.caseId = none → ∀ id, file'.filing.caseId = some id →
    ⟨.fresh, id⟩ ∈ tr ∧ ∃ c, ⟨.write (.case id) fun _ => some c, ()⟩ ∈ tr

theorem Opens.mono {tr tr' : Trace} {file file' : FilingFile} (h : Opens tr file file') (htr : ∀ e ∈ tr, e ∈ tr') :
    Opens tr' file file' := by
  intro hnone id hid
  obtain ⟨hfresh, c, hwrite⟩ := h hnone id hid
  exact ⟨htr _ hfresh, c, htr _ hwrite⟩

theorem Opens.of_same {tr : Trace} {file file' : FilingFile} (h : file'.filing.caseId = file.filing.caseId) :
    Opens tr file file' := by
  intro hnone id hid
  rw [h, hnone] at hid
  cases hid

/-- A review recorded one step of the filing, and wrote nothing beyond it. The step is one for every trace that has what
the review verified and what it heard. -/
def Reviewed (cfg : Settings) (r : Request) (db : Store) (tr : Trace) (f : FilingId) (before : Trace → Prop)
    (file' : FilingFile) : Prop :=
  ∃ file, db (.envelope f) = some file ∧ ⟨.write (.envelope f) fun _ => some file', ()⟩ ∈ tr ∧ Opens tr file file' ∧
    ∀ T, before T → (∀ e ∈ tr, e.Heard → e ∈ T) →
      (∀ db', FileStep cfg r db db' T f file file') ∧ Writes (ReviewWrites T f file file') tr

theorem acceptFiling_meets {r : Request} {cms : Cms} {file : FilingFile} {case : Option CaseFile}
    {reason : Option String} {ordered : Bool} {count : Nat} (pre : Trace)
    (hpre : Quiet pre) (hr : Reviews f userId count .accept r)
    (hdb : db (.envelope f) = some file) (hcase : file.filing.caseId = none → case = none) :
    Meets db (acceptFiling cfg cms f file case userId reason ordered) fun tr out =>
      ∃ file', (out = .decided file' ∨ ∃ detail, out = .cmsFailed file' detail) ∧
        Reviewed cfg r db (pre ++ tr) f (fun T => InReview db T f file userId count ∧
          ∃ seen order, ordered = seen.filing.hasOrderedDate ∧ Acceptable db T f file seen order) file' := by
  simp only [acceptFiling, meets_bind, meets_now, meets_expect, meets_ite, meets_saveFiling, meets_pure]
  intro time receivedAt hreceived
  refine assessReviewDate_meets.mono ?_
  rintro tr₁ dated ⟨h₁, hdated⟩
  refine acceptanceCase_meets.mono ?_
  rintro tr₂ opened ⟨h₂, hdate⟩
  have hsame := hdated.same
  have hid : dated.filing.id = file.filing.id ∧ dated.filing.filerId = file.filing.filerId ∧
      dated.filing.caseId = file.filing.caseId := by
    rw [hsame]
    exact ⟨rfl, rfl, rfl⟩
  refine ⟨fun _ => openCase_meets.mono ?_, fun _ => ?_⟩
  · rintro tr₃ _ ⟨caseId, rfl, hopen⟩
    refine (recordTransaction_meets cfg db _ _ _ _ _ _).mono ?_
    rintro tr₄ ⟨saved, t⟩ ⟨h₄, hrec⟩
    refine ⟨saved, .inl rfl, file, hdb, by simp, ?_, ?_⟩
    · intro hnone id hid'
      rw [hrec.filing_eq] at hid'
      cases hid'
      rcases hopen with ⟨hold, _⟩ | ⟨_, hfresh, hwrite, _⟩
      · exact absurd (hid.2.2.symm.trans hold) (by simp [hnone])
      · exact ⟨by simp [hfresh], { row := opened }, by simp [hwrite]⟩
    rintro T ⟨hin, seen, order, ho, hacc⟩ hT
    refine ⟨fun db' => ?_, ?_⟩
    · subst ho
      refine .accepted userId count time receivedAt seen order dated caseId _ _ t saved hr hin hacc hreceived
        (hdated.mono ?_) ?_ (hrec.mono ?_)
      · exact fun e he hh => hT e (by simp [he]) hh
      · rcases hopen with ⟨hold, _⟩ | ⟨hnone, hfresh, _⟩
        · exact .inl (hid.2.2 ▸ hold)
        · exact .inr ⟨hid.2.2 ▸ hnone, hT _ (by simp [hfresh]) trivial⟩
      · exact fun e he hh => hT e (by simp [he]) hh
    · have hsaved : saved.filing.id = file.filing.id ∧ saved.filing.filerId = file.filing.filerId := by
        rw [hrec.filing_eq]
        exact ⟨hid.1, hid.2.1⟩
      have h₁' : Writes (ReviewWrites T f file saved) tr₁ :=
        h₁.mono (IsNotice.reviewWrites (IsNotice.congr hsaved.1.symm hsaved.2.symm))
      have h₃ : Writes (ReviewWrites T f file saved) tr₃ := by
        rcases hopen with ⟨_, hquiet⟩ | ⟨hnone, hfresh, _, hwrites⟩
        · exact hquiet.writes
        · refine hwrites.mono fun g v hg => ?_
          have hnone' : file.filing.caseId = none := hid.2.2 ▸ hnone
          cases g with
          | case id =>
            obtain ⟨rfl, rfl⟩ := hg
            refine ⟨_, rfl, hT _ (by simp [hfresh]) trivial, hnone', ?_, ?_, ?_, ?_, (hdate (hcase hnone')).2.2⟩
            · rw [hrec.filing_eq]
            · rw [hrec.filing_eq]
            · rw [hrec.filing_eq]
              exact (hdate (hcase hnone')).1
            · exact (hdate (hcase hnone')).2.1.congr (by rw [hrec.filing_eq]) (by rw [hrec.filing_eq])
                (by rw [hrec.filing_eq])
          | caseNumber court number => trivial
          | _ => exact hg.elim
      simp [hpre.writes, h₁', h₂.writes, h₃, h₄.mono (IsNotice.reviewWrites hrec.notice), Writes, ReviewWrites]
  · refine (recordTransaction_meets cfg db _ _ _ _ _ _).mono ?_
    rintro tr₄ ⟨saved, t⟩ ⟨h₄, hrec⟩
    refine ⟨saved, .inr ⟨_, rfl⟩, file, hdb, by simp, .of_same ?_, ?_⟩
    · rw [hrec.filing_eq]
      exact hid.2.2
    rintro T ⟨hin, seen, order, ho, hacc⟩ hT
    refine ⟨fun db' => ?_, ?_⟩
    · subst ho
      refine .cmsFailed userId count time receivedAt seen order dated _ t saved hr hin hacc hreceived (hdated.mono ?_)
        (hrec.mono ?_)
      · exact fun e he hh => hT e (by simp [he]) hh
      · exact fun e he hh => hT e (by simp [he]) hh
    · have hsaved : saved.filing.id = file.filing.id ∧ saved.filing.filerId = file.filing.filerId := by
        rw [hrec.filing_eq]
        exact ⟨hid.1, hid.2.1⟩
      have h₁' : Writes (ReviewWrites T f file saved) tr₁ :=
        h₁.mono (IsNotice.reviewWrites (IsNotice.congr hsaved.1.symm hsaved.2.symm))
      simp [hpre.writes, h₁', h₂.writes, h₄.mono (IsNotice.reviewWrites hrec.notice), Writes, ReviewWrites]

theorem declineFiling_meets {r : Request} {file : FilingFile} {action : ReviewAction} {status : FilingStatus}
    {event : EventType} {reason : Option String} {count : Nat} (pre : Trace) (hpre : Quiet pre)
    (hr : Reviews f userId count action r) (hdb : db (.envelope f) = some file)
    (haction : (action = .reject ∧ status = .rejected ∧ event = .rejected) ∨
      (action = .return_ ∧ status = .returned ∧ event = .returned)) :
    Meets db (declineFiling cfg f file userId status event reason) fun tr out =>
      ∃ file', out = .decided file' ∧
        Reviewed cfg r db (pre ++ tr) f (fun T => InReview db T f file userId count) file' := by
  simp only [declineFiling, meets_bind, meets_now, meets_saveFiling, meets_pure]
  refine fun time => (recordTransaction_meets cfg db _ _ _ _ _ _).mono ?_
  rintro tr ⟨saved, t⟩ ⟨hn, hrec⟩
  refine ⟨saved, rfl, file, hdb, by simp, .of_same (by rw [hrec.filing_eq]; rfl),
    fun T hin hT => ⟨fun db' => ?_, ?_⟩⟩
  · refine .declined userId count action time status event reason t saved hr hin haction (hrec.mono ?_)
    exact fun e he hh => hT e (by simp [he]) hh
  · simp [hpre.writes, hn.mono (IsNotice.reviewWrites hrec.notice), Writes, ReviewWrites]

def Warranted (db : Store) (f : FilingId) (userId : UserId) (action : ReviewAction) (evidence : ReviewEvidence)
    (T : Trace) : Prop :=
  (∃ seen, Seen T f seen ∧ Staff db userId Account.isCourtStaff seen) ∧
    (action = .accept → ∃ seen order, Evidence T f evidence seen order)

theorem Reviewed.imp {r : Request} {tr : Trace} {before before' : Trace → Prop} {file' : FilingFile}
    (h : Reviewed cfg r db tr f before file') (hb : ∀ T, before' T → before T) :
    Reviewed cfg r db tr f before' file' := by
  obtain ⟨file, hdb, hsaved, hopens, hall⟩ := h
  exact ⟨file, hdb, hsaved, hopens, fun T hT => hall T (hb T hT)⟩

/-- **`record_review` does nothing, or makes one step of the filing.** -/
theorem recordReview_meets {r : Request} {cms : Cms} {action : ReviewAction} {reason : Option String} {count : Nat}
    {evidence : ReviewEvidence} (hr : Reviews f userId count action r) :
    Meets db (recordReview cfg cms f userId action reason count evidence) fun tr out =>
      (Quiet tr ∧ out = .notInReview) ∨
      ∃ file', (out = .decided file' ∨ ∃ detail, out = .cmsFailed file' detail) ∧
        Reviewed cfg r db tr f (Warranted db f userId action evidence) file' := by
  simp only [recordReview, meets_bind, meets_lockFiling]
  cases hdb : db (.envelope f) with
  | none =>
    simp only [meets_pure]
    exact .inl ⟨by simp [Writes], trivial⟩
  | some file =>
    simp only [meets_bind, meets_require, meets_ite, meets_pure]
    refine fun hcount => ⟨fun hin => ?_, fun _ => .inl ⟨by simp [Writes], trivial⟩⟩
    cases action with
    | accept =>
      simp only [meets_bind, meets_require]
      intro hversion
      refine (validateFilingDestination_meets db _ none true).mono ?_
      rintro tr₁ case ⟨h₁, hval⟩ hsame
      obtain ⟨hcase, hcases, hservice, _⟩ := hval rfl
      refine (acceptFiling_meets ([⟨.lock .update (.envelope f), some file⟩] ++ tr₁) (by simp [h₁, Writes]) hr hdb
        fun hnone => ?_).mono ?_
      · rw [hcase]
        change file.filing.caseId.bind _ = none
        rw [hnone]
        rfl
      · rintro tr out ⟨file', hout, hrev⟩
        refine .inr ⟨file', hout, ?_⟩
        suffices hrev' : Reviewed cfg r db _ f (Warranted db f userId .accept evidence) file' by simpa using hrev'
        refine hrev.imp ?_
        rintro T ⟨hstaff, hev⟩
        obtain ⟨seen, order, hex, rfl⟩ := hev rfl
        refine ⟨⟨hstaff, hin, hcount⟩, seen, order, rfl, ?_⟩
        exact {
          hex with
          version := hversion
          same := by simpa using hsame.symm
          destination := hservice rfl
          case := hcases }
    | reject =>
      refine (declineFiling_meets [⟨.lock .update (.envelope f), some file⟩] (by simp [Writes]) hr hdb
        (.inl ⟨rfl, rfl, rfl⟩)).mono ?_
      rintro tr out ⟨file', rfl, hrev⟩
      refine .inr ⟨file', .inl rfl, ?_⟩
      simpa using hrev.imp fun T hT => ⟨hT.1, hin, hcount⟩
    | return_ =>
      refine (declineFiling_meets [⟨.lock .update (.envelope f), some file⟩] (by simp [Writes]) hr hdb
        (.inr ⟨rfl, rfl, rfl⟩)).mono ?_
      rintro tr out ⟨file', rfl, hrev⟩
      refine .inr ⟨file', .inl rfl, ?_⟩
      simpa using hrev.imp fun T hT => ⟨hT.1, hin, hcount⟩

/-! ## One filing -/

theorem requireIndependentReviewer_meets {account : Account} {filing : FilingEnvelope} :
    Meets db (requireIndependentReviewer userId account filing) fun tr _ => tr = [] ∧
      account.isCourtStaff filing.courtId = true ∧ filing.filerId ≠ userId := by
  simp only [requireIndependentReviewer, meets_bind, meets_require]
  exact fun h₁ h₂ => ⟨rfl, h₁, h₂⟩

theorem Read.staff {tr : Trace} {account : Account} {check : FilingFile} (hread : Read tr f check)
    (hactive : Active db userId account) (hstaff : account.isCourtStaff check.filing.courtId = true)
    (hother : check.filing.filerId ≠ userId) : ∃ seen, Seen tr f seen ∧ Staff db userId Account.isCourtStaff seen := by
  obtain ⟨rows, hseen, hrows⟩ := hread.envelope
  exact ⟨rows, hseen, ⟨account, hactive, hrows ▸ hstaff⟩, hrows ▸ hother⟩

theorem Evidence.mono {tr tr' : Trace} {evidence : ReviewEvidence} {seen : FilingFile} {order : Option FilingDocument}
    (h : Evidence tr f evidence seen order) (htr : ∀ e ∈ tr, e.Heard → e ∈ tr') :
    Evidence tr' f evidence seen order := ⟨h.1.mono htr, h.2⟩

theorem Warranted.mono {tr tr' : Trace} {action : ReviewAction} {evidence : ReviewEvidence}
    (h : Warranted db f userId action evidence tr) (htr : ∀ e ∈ tr, e.Heard → e ∈ tr') :
    Warranted db f userId action evidence tr' := by
  obtain ⟨⟨seen, hseen, hstaff⟩, hev⟩ := h
  refine ⟨⟨seen, htr _ hseen trivial, hstaff⟩, fun ha => ?_⟩
  obtain ⟨seen, order, h⟩ := hev ha
  exact ⟨seen, order, h.mono htr⟩

theorem ReviewWrites.rowStep {r : Request} {db' : Store} {T : Trace} {file file' : FilingFile} {g : Row} {v : View g}
    (hdb : db (.envelope f) = some file) (hdb' : db' (.envelope f) = some file')
    (hstep : FileStep cfg r db db' T f file file') (h : ReviewWrites T f file file' g v) :
    RowStep cfg r db db' T g v := by
  cases g with
  | envelope g =>
    obtain ⟨rfl, rfl⟩ := h
    exact ⟨file', rfl, .inr ⟨file, hdb, hstep⟩⟩
  | notice id => exact ⟨f, file', hdb', h⟩
  | case id =>
    obtain ⟨c, rfl, hfresh, hnone, hid, hstatus, hdate⟩ := h
    exact ⟨c, rfl, .inr ⟨f, file, file', hfresh, hdb, hnone, hdb', hid, hstatus, hdate⟩⟩
  | caseNumber court number => trivial
  | _ => exact h.elim

/-- **A review of one filing writes nothing, or makes one step of the filing.** -/
theorem reviewFiling_meets {cms : Cms} {data : ClerkReviewRequest} :
    Meets db (reviewFiling cfg cms userId f data) fun tr _ => Quiet tr ∨ ∃ file file',
      db (.envelope f) = some file ∧ ⟨.write (.envelope f) fun _ => some file', ()⟩ ∈ tr ∧ Opens tr file file' ∧
      (∀ db', FileStep cfg (.reviewFiling userId f data cms) db db' tr f file file') ∧
      Writes (ReviewWrites tr f file file') tr := by
  simp only [reviewFiling, meets_bind, meets_require, meets_expect]
  refine fun _ => lockCurrentUser_meets.mono ?_
  rintro tr₁ account ⟨h₁, hactive⟩
  refine getFiling_meets.mono ?_
  rintro tr₂ row ⟨h₂, hread⟩ check rfl
  refine requireIndependentReviewer_meets.mono ?_
  rintro _ _ ⟨rfl, hstaff, hother⟩
  refine verifyReview_meets.mono ?_
  rintro tr₃ evidence ⟨h₃, hev⟩ evidence' hevidence
  refine (recordReview_meets (r := .reviewFiling userId f data cms) (.single data cms rfl)).mono fun tr₄
    outcome hout => ?_
  have hwarranted : Warranted db f userId data.action evidence' (tr₁ ++ (tr₂ ++ (tr₃ ++ tr₄))) := by
    refine ⟨?_, fun ha => ?_⟩
    · obtain ⟨seen, hseen, hs⟩ := (hread check rfl).staff hactive hstaff hother
      exact ⟨seen, List.mem_append_right _ (List.mem_append_left _ hseen), hs⟩
    · obtain ⟨seen, order, h⟩ := hev evidence' hevidence ha
      exact ⟨seen, order, h.mono fun e he _ => by simp [he]⟩
  have hmain : Quiet (tr₁ ++ (tr₂ ++ (tr₃ ++ tr₄))) ∨ ∃ file file', db (.envelope f) = some file ∧
      ⟨.write (.envelope f) fun _ => some file', ()⟩ ∈ tr₁ ++ (tr₂ ++ (tr₃ ++ tr₄)) ∧
      Opens (tr₁ ++ (tr₂ ++ (tr₃ ++ tr₄))) file file' ∧
      (∀ db', FileStep cfg (.reviewFiling userId f data cms) db db' (tr₁ ++ (tr₂ ++ (tr₃ ++ tr₄))) f file file') ∧
      Writes (ReviewWrites (tr₁ ++ (tr₂ ++ (tr₃ ++ tr₄))) f file file') (tr₁ ++ (tr₂ ++ (tr₃ ++ tr₄))) := by
    rcases hout with ⟨h₄, _⟩ | ⟨file', _, file, hdb, hsaved, hopens, hall⟩
    · exact .inl (by simp [h₁, h₂, h₃, h₄])
    · obtain ⟨hstep, hwrites⟩ := hall _ hwarranted fun e he _ => by simp [he]
      refine .inr ⟨file, file', hdb, by simp [hsaved], hopens.mono fun e he => by simp [he], hstep, ?_⟩
      simp only [writes_append, h₁.writes, h₂.writes, h₃.writes, true_and]
      exact hwrites
  cases outcome with
  | notInReview => exact meets_raise
  | cmsFailed file detail => simpa only [meets_pure, List.append_nil, List.nil_append] using hmain
  | decided file => simpa only [meets_pure, List.append_nil, List.nil_append] using hmain

theorem reviewFiling_changes {cms : Cms} {data : ClerkReviewRequest} :
    Meets db (reviewFiling cfg cms userId f data) fun tr _ => Changes cfg (.reviewFiling userId f data cms) db tr := by
  refine reviewFiling_meets.mono ?_
  rintro tr _ (hquiet | ⟨file, file', hdb, hsaved, _, hstep, hwrites⟩)
  · exact .of_quiet hquiet
  · have hdb' := (hwrites.wrote hsaved db).2
    exact .of_writes (hwrites.mono fun g v hg => hg.rowStep hdb hdb' (hstep _))

/-! ## Many filings -/

/-- The batch reports that it accepted this filing, or that the case management system failed. -/
def BatchResult.Reports (result : BatchResult) (f : FilingId) : Prop :=
  f ∈ result.succeeded ∨ (f, batchCmsFailure) ∈ result.errors

theorem verifyBatchItem_meets {account : Account} {item : BatchReviewItem} (hactive : Active db userId account) :
    Meets db (verifyBatchItem userId account item) fun tr out => (∀ db', commit tr db' = db') ∧
      ∀ evidence, out = some evidence → Warranted db item.filingId userId .accept evidence tr := by
  simp only [verifyBatchItem, meets_bind]
  refine getFiling_meets.mono ?_
  rintro tr₁ row ⟨h₁, hread⟩
  cases row with
  | none =>
    simp only [meets_pure]
    exact ⟨by simpa using h₁.commit, by simp⟩
  | some check =>
    simp only [meets_bind]
    refine requireIndependentReviewer_meets.mono ?_
    rintro _ _ ⟨rfl, hstaff, hother⟩
    refine verifyReview_meets.mono ?_
    rintro tr₂ evidence ⟨h₂, hev⟩
    refine ⟨fun db' => ?_, fun evidence' he => ⟨?_, fun ha => ?_⟩⟩
    · simp [commit_append, h₁.commit, h₂.commit]
    · obtain ⟨seen, hseen, hs⟩ := (hread check rfl).staff hactive hstaff hother
      exact ⟨seen, List.mem_append_left _ hseen, hs⟩
    · obtain ⟨seen, order, h⟩ := hev evidence' he ha
      exact ⟨seen, order, h.mono fun e he _ => by simp [he]⟩

/-- **The first loop of a batch writes nothing and has verified what it hands on.** -/
theorem verifyBatch_meets {account : Account} {items : List BatchReviewItem}
    {verified : List (BatchReviewItem × ReviewEvidence)} {result : BatchResult} (hactive : Active db userId account) :
    Meets db (verifyBatch userId account items verified result) fun tr out => (∀ db', commit tr db' = db') ∧
      ∃ new, out.1 = verified ++ new ∧ (new.map Prod.fst).Sublist items ∧
        ∀ v ∈ new, Warranted db v.1.filingId userId .accept v.2 tr := by
  induction items generalizing verified result with
  | nil =>
    simp only [verifyBatch, meets_pure]
    exact ⟨fun _ => rfl, [], by simp, by simp, by simp⟩
  | cons item items ih =>
    simp only [verifyBatch, meets_bind]
    refine (verifyBatchItem_meets hactive).savepoint.mono ?_
    rintro tr₁ checked ⟨hok, herror⟩
    cases checked with
    | error e =>
      refine ih.mono ?_
      rintro tr₂ out ⟨h₂, new, hnew, hsub, hwar⟩
      refine ⟨fun db' => ?_, new, hnew, hsub.cons _, fun v hv => ?_⟩
      · simp [commit_append, herror e rfl, h₂]
      · exact (hwar v hv).mono fun e he _ => List.mem_append_right _ he
    | ok checked =>
      obtain ⟨tr₀, ⟨h₀, hev⟩, hcommit, hheard⟩ := hok checked rfl
      cases checked with
      | none =>
        refine ih.mono ?_
        rintro tr₂ out ⟨h₂, new, hnew, hsub, hwar⟩
        refine ⟨fun db' => ?_, new, hnew, hsub.cons _, fun v hv => ?_⟩
        · simp [commit_append, hcommit, h₀, h₂]
        · exact (hwar v hv).mono fun e he _ => List.mem_append_right _ he
      | some evidence =>
        refine ih.mono ?_
        rintro tr₂ out ⟨h₂, new, hnew, hsub, hwar⟩
        refine ⟨fun db' => ?_, (item, evidence) :: new, by simp [hnew], hsub.cons_cons _, fun v hv => ?_⟩
        · simp [commit_append, hcommit, h₀, h₂]
        · rcases List.mem_cons.1 hv with rfl | hv
          · exact (hev evidence rfl).mono fun e he hh => List.mem_append_left _ (hheard e he hh)
          · exact (hwar v hv).mono fun e he _ => List.mem_append_right _ he

theorem lockFilings_meets {ids : List FilingId} : Meets db (lockFilings ids) fun tr _ => Quiet tr := by
  induction ids with
  | nil => simp [lockFilings, Writes]
  | cons id ids ih =>
    simp only [lockFilings, meets_bind, meets_lockFiling]
    exact ih.mono fun tr _ h => by simp [Writes, h]

/-- One filing of a batch was accepted, or the case management system failed: a step of the filing, whose value stays to
the end of the batch, and what the review of it writes. -/
structure BatchStep (cfg : Settings) (r : Request) (db : Store) (T tr : Trace) (f : FilingId)
    (file file' : FilingFile) :
    Prop where
  stored : db (.envelope f) = some file
  step : ∀ db', FileStep cfg r db db' T f file file'
  saved : ∀ db₁, commit tr db₁ (.envelope f) = some file'
  opened : file.filing.caseId = none → ∀ id, file'.filing.caseId = some id → ⟨.fresh, id⟩ ∈ tr ∧
    ((draws tr).Nodup → ∀ db₁, ∃ c, commit tr db₁ (.case id) = some c ∧ Numbers file'.filing c.row)

/-- How a batch changes the store: only by the steps of filings that it reports. -/
def BatchChanges (cfg : Settings) (r : Request) (db : Store) (T tr : Trace) (ids : List FilingId)
    (result : BatchResult) : Prop :=
  ∀ db₀ g, commit tr db₀ g = db₀ g ∨ ∃ f ∈ ids, ∃ file file', BatchStep cfg r db T tr f file file' ∧
    result.Reports f ∧ ReviewWrites T f file file' g (commit tr db₀ g)

theorem BatchStep.append {r : Request} {T tr₁ tr₂ : Trace} {f : FilingId} {file file' : FilingFile}
    (h : BatchStep cfg r db T tr₂ f file file') : BatchStep cfg r db T (tr₁ ++ tr₂) f file file' where
  stored := h.stored
  step := h.step
  saved db₁ := by
    rw [commit_append]
    exact h.saved _
  opened hnone id hid := by
    obtain ⟨hfresh, hcase⟩ := h.opened hnone id hid
    refine ⟨List.mem_append_right _ hfresh, fun hnodup db₁ => ?_⟩
    rw [draws_append] at hnodup
    rw [commit_append]
    exact hcase (List.nodup_append.1 hnodup).2.1 _

theorem BatchChanges.of_still {r : Request} {T tr₁ tr₂ : Trace} {ids : List FilingId} {f : FilingId}
    {result : BatchResult} (h₁ : ∀ db₀, commit tr₁ db₀ = db₀) (h : BatchChanges cfg r db T tr₂ ids result) :
    BatchChanges cfg r db T (tr₁ ++ tr₂) (f :: ids) result := by
  intro db₀ g
  rw [commit_append, h₁]
  rcases h db₀ g with hg | ⟨f', hf', file, file', hb, hrep, hg⟩
  · exact .inl hg
  · exact .inr ⟨f', List.mem_cons_of_mem _ hf', file, file', hb.append, hrep, hg⟩

theorem BatchChanges.opened {r : Request} {T tr₀ tr₁ tr₂ : Trace} {ids : List FilingId} {f : FilingId}
    {file file' : FilingFile} {result : BatchResult} (hcommit : ∀ db₀, commit tr₁ db₀ = commit tr₀ db₀)
    (hheard : ∀ e ∈ tr₀, e.Heard → e ∈ tr₁) (hopens : Opens tr₀ file file')
    (hwrites : Writes (ReviewWrites T f file file') tr₀) (h : BatchChanges cfg r db T tr₂ ids result)
    (hnone : file.filing.caseId = none) {id : CaseId} (hid : file'.filing.caseId = some id) :
    ⟨.fresh, id⟩ ∈ tr₁ ++ tr₂ ∧ ((draws (tr₁ ++ tr₂)).Nodup → ∀ db₁, ∃ c,
      commit (tr₁ ++ tr₂) db₁ (.case id) = some c ∧ Numbers file'.filing c.row) := by
  obtain ⟨hfresh, c, hwrite⟩ := hopens hnone id hid
  have hfresh₁ := hheard _ hfresh trivial
  refine ⟨List.mem_append_left _ hfresh₁, fun hnodup db₁ => ?_⟩
  obtain ⟨c', hc', _, _, _, _, _, hnumbers⟩ := hwrites.wrote hwrite db₁
  rw [commit_append, hcommit]
  rcases h (commit tr₀ db₁) (.case id) with heq | ⟨f₂, _, file₂, file₂', hb, _, c₂, _, _, hnone₂, hid₂, _⟩
  · exact ⟨c', heq.trans hc', hnumbers.1⟩
  · rw [draws_append] at hnodup
    exact absurd rfl ((List.nodup_append.1 hnodup).2.2 id (mem_draws.2 hfresh₁) id
      (mem_draws.2 (hb.opened hnone₂ id hid₂).1))

theorem BatchChanges.cons {r : Request} {T tr₀ tr₁ tr₂ : Trace} {ids : List FilingId} {f : FilingId}
    {file file' : FilingFile} {result : BatchResult} (hnew : f ∉ ids) (hcommit : ∀ db₀, commit tr₁ db₀ = commit tr₀ db₀)
    (hheard : ∀ e ∈ tr₀, e.Heard → e ∈ tr₁) (hdb : db (.envelope f) = some file)
    (hsaved : ⟨.write (.envelope f) fun _ => some file', ()⟩ ∈ tr₀) (hopens : Opens tr₀ file file')
    (hstep : ∀ db', FileStep cfg r db db' T f file file') (hwrites : Writes (ReviewWrites T f file file') tr₀)
    (hrep : result.Reports f) (h : BatchChanges cfg r db T tr₂ ids result) :
    BatchChanges cfg r db T (tr₁ ++ tr₂) (f :: ids) result := by
  have hkeep : ∀ db₀, commit (tr₁ ++ tr₂) db₀ (.envelope f) = some file' := by
    intro db₀
    rw [commit_append, hcommit]
    rcases h (commit tr₀ db₀) (.envelope f) with hg | ⟨f', hf', _, _, _, _, hg⟩
    · exact hg.trans (hwrites.wrote hsaved db₀).2
    · exact absurd (hg.1 ▸ hf') hnew
  have hhead : BatchStep cfg r db T (tr₁ ++ tr₂) f file file' :=
    ⟨hdb, hstep, hkeep, fun hnone id hid => h.opened hcommit hheard hopens hwrites hnone hid⟩
  intro db₀ g
  rw [commit_append, hcommit]
  rcases h (commit tr₀ db₀) g with hg | ⟨f', hf', file₁, file₂, hb, hrep', hg⟩
  · rw [hg]
    rcases hwrites.commit db₀ g with hg' | hg'
    · exact .inl hg'
    · exact .inr ⟨f, List.mem_cons_self, file, file', hhead, hrep, hg'⟩
  · exact .inr ⟨f', List.mem_cons_of_mem _ hf', file₁, file₂, hb.append, hrep', hg⟩

/-- What was reported stays reported. -/
structure BatchResult.Extends (result result' : BatchResult) : Prop where
  succeeded : ∀ f ∈ result.succeeded, f ∈ result'.succeeded
  errors : ∀ e ∈ result.errors, e ∈ result'.errors

theorem BatchResult.Extends.reports {result result' : BatchResult} (h : result.Extends result')
    (hr : result.Reports f) : result'.Reports f := hr.imp (h.succeeded _) (h.errors _)

theorem BatchResult.extends_fail (result : BatchResult) (f : FilingId) (text : String) :
    result.Extends (result.fail f text) :=
  ⟨fun _ h => h, fun _ h => List.mem_append_left _ h⟩

theorem BatchResult.extends_succeed (result : BatchResult) (f : FilingId) : result.Extends (result.succeed f) :=
  ⟨fun _ h => List.mem_append_left _ h, fun _ h => h⟩

theorem BatchResult.Extends.trans {a b c : BatchResult} (h : a.Extends b) (h' : b.Extends c) : a.Extends c :=
  ⟨fun f hf => h'.succeeded f (h.succeeded f hf), fun e he => h'.errors e (h.errors e he)⟩

/-- What the second loop of a batch does with its items, from a result on. -/
def RecordsBatch (cfg : Settings) (r : Request) (db : Store) (userId : UserId)
    (items : List (BatchReviewItem × ReviewEvidence)) (result : BatchResult) (tr : Trace) (out : BatchResult) : Prop :=
  result.Extends out ∧ ∀ T, (∀ v ∈ items, Warranted db v.1.filingId userId .accept v.2 T) →
    (∀ e ∈ tr, e.Heard → e ∈ T) → BatchChanges cfg r db T tr (items.map fun v => v.1.filingId) out

theorem RecordsBatch.still {r : Request} {item : BatchReviewItem × ReviewEvidence}
    {items : List (BatchReviewItem × ReviewEvidence)} {result result' out : BatchResult} {tr₁ tr₂ : Trace}
    (h₁ : ∀ db₀, commit tr₁ db₀ = db₀) (hext : result.Extends result')
    (h : RecordsBatch cfg r db userId items result' tr₂ out) :
    RecordsBatch cfg r db userId (item :: items) result (tr₁ ++ tr₂) out :=
  ⟨hext.trans h.1, fun T hwar hT => .of_still h₁ (h.2 T (fun v hv => hwar v (List.mem_cons_of_mem _ hv))
    fun e he => hT e (List.mem_append_right _ he))⟩

theorem RecordsBatch.reviewed {r : Request} {item : BatchReviewItem × ReviewEvidence}
    {items : List (BatchReviewItem × ReviewEvidence)} {result result' out : BatchResult} {tr₀ tr₁ tr₂ : Trace}
    {file' : FilingFile} (hnew : item.1.filingId ∉ items.map fun v => v.1.filingId)
    (hcommit : ∀ db₀, commit tr₁ db₀ = commit tr₀ db₀) (hheard : ∀ e ∈ tr₀, e.Heard → e ∈ tr₁)
    (hrev : Reviewed cfg r db tr₀ item.1.filingId (Warranted db item.1.filingId userId .accept item.2) file')
    (hext : result.Extends result') (hrep : result'.Reports item.1.filingId)
    (h : RecordsBatch cfg r db userId items result' tr₂ out) :
    RecordsBatch cfg r db userId (item :: items) result (tr₁ ++ tr₂) out := by
  refine ⟨hext.trans h.1, fun T hwar hT => ?_⟩
  obtain ⟨file, hdb, hsaved, hopens, hall⟩ := hrev
  obtain ⟨hstep, hwrites⟩ := hall T (hwar _ List.mem_cons_self)
    fun e he hh => hT e (List.mem_append_left _ (hheard e he hh)) hh
  exact .cons hnew hcommit hheard hdb hsaved hopens hstep hwrites (h.1.reports hrep)
    (h.2 T (fun v hv => hwar v (List.mem_cons_of_mem _ hv)) fun e he => hT e (List.mem_append_right _ he))

/-- **The second loop of a batch changes only filings that it reports.** -/
theorem recordBatch_meets {r : Request} {cms : Cms} {items : List (BatchReviewItem × ReviewEvidence)}
    {result : BatchResult} (hids : (items.map fun v => v.1.filingId).Nodup)
    (hr : ∀ v ∈ items, Reviews v.1.filingId userId v.1.expectedSubmissionCount .accept r) :
    Meets db (recordBatch cfg cms userId items result) (RecordsBatch cfg r db userId items result) := by
  induction items generalizing result with
  | nil =>
    simp only [recordBatch, meets_pure]
    exact ⟨⟨fun _ => id, fun _ => id⟩, fun _ _ _ _ _ => .inl rfl⟩
  | cons item items ih =>
    obtain ⟨item, evidence⟩ := item
    simp only [List.map_cons, List.nodup_cons] at hids
    have hrest : ∀ result, Meets db (recordBatch cfg cms userId items result)
        (RecordsBatch cfg r db userId items result) :=
      fun _ => ih hids.2 fun v hv => hr v (List.mem_cons_of_mem _ hv)
    simp only [recordBatch, meets_bind]
    refine (recordReview_meets (hr _ List.mem_cons_self)).savepoint.mono ?_
    rintro tr₁ outcome ⟨hok, herror⟩
    cases outcome with
    | error e => exact (hrest _).mono fun tr₂ out h => h.still (herror e rfl) (result.extends_fail _ _)
    | ok outcome =>
      obtain ⟨tr₀, hout, hcommit, hheard⟩ := hok outcome rfl
      rcases hout with ⟨h₀, rfl⟩ | ⟨file', rfl | ⟨detail, rfl⟩, hrev⟩
      · exact (hrest _).mono fun tr₂ out h =>
          h.still (fun db₀ => (hcommit db₀).trans (h₀.commit db₀)) (result.extends_fail _ _)
      · exact (hrest _).mono fun tr₂ out h =>
          h.reviewed hids.1 hcommit hheard hrev (result.extends_succeed _) (.inl (by simp [BatchResult.succeed]))
      · exact (hrest _).mono fun tr₂ out h =>
          h.reviewed hids.1 hcommit hheard hrev (result.extends_fail _ _) (.inr (by simp [BatchResult.fail]))

/-- **A batch changes only filings that it answers as accepted or as failed in the case management system.** -/
theorem batchReviewFilings_meets {cms : Cms} {data : BatchReviewRequest} :
    Meets db (batchReviewFilings cfg cms userId data) fun tr out => ∃ result ids,
      out = .batch result.succeeded (result.failed.mergeSort fun a b => a ≤ b) result.errors ∧
      BatchChanges cfg (.batchReviewFilings userId data cms) db tr tr ids result := by
  simp only [batchReviewFilings, meets_bind, meets_pure]
  refine lockCurrentUser_meets.mono ?_
  rintro tr₁ account ⟨h₁, hactive⟩
  refine (verifyBatch_meets hactive).mono ?_
  rintro tr₂ ⟨verified, result⟩ ⟨h₂, new, hnew, hsub, hwar⟩
  simp only [List.nil_append] at hnew
  subst hnew
  refine lockFilings_meets.mono fun tr₃ _ h₃ => ?_
  have hmem : ∀ v ∈ verified, v.1 ∈ data.filings := by
    intro v hv
    simpa using hsub.subset (List.mem_map_of_mem hv)
  have hnodup : (verified.map fun v => v.1.filingId).Nodup := by
    have hperm := (List.mergeSort_perm data.filings fun a b => a.filingId ≤ b.filingId).map BatchReviewItem.filingId
    have := (hsub.map BatchReviewItem.filingId).nodup (hperm.nodup_iff.2 data.unique)
    simpa [List.map_map, Function.comp_def] using this
  have hr : ∀ v ∈ verified, Reviews v.1.filingId userId v.1.expectedSubmissionCount .accept
      (.batchReviewFilings userId data cms) := fun v hv => .batch data cms (hmem v hv)
  refine (recordBatch_meets hnodup hr).mono ?_
  rintro tr₄ out ⟨_, hall⟩
  refine ⟨out, verified.map fun v => v.1.filingId, rfl, ?_⟩
  have hchanges := hall (tr₁ ++ (tr₂ ++ (tr₃ ++ (tr₄ ++ []))))
    (fun v hv => (hwar v hv).mono fun e he _ => by simp [he]) fun e he _ => by simp [he]
  have hcommit : ∀ db₀, commit (tr₁ ++ (tr₂ ++ (tr₃ ++ (tr₄ ++ [])))) db₀ = commit tr₄ db₀ := by
    intro db₀
    simp [commit_append, h₁.commit, h₂, h₃.commit]
  rw [List.append_nil] at hchanges hcommit ⊢
  intro db₀ g
  rw [hcommit]
  rcases hchanges db₀ g with hg | ⟨f, hf, file, file', hb, hrep, hg⟩
  · exact .inl hg
  · exact .inr ⟨f, hf, file, file', .append (.append (.append hb)), hrep, hg⟩

theorem batchReviewFilings_changes {cms : Cms} {data : BatchReviewRequest} :
    Meets db (batchReviewFilings cfg cms userId data) fun tr _ =>
      Changes cfg (.batchReviewFilings userId data cms) db tr := by
  refine batchReviewFilings_meets.mono ?_
  rintro tr out ⟨result, ids, _, h⟩ g
  rcases h db g with hg | ⟨f, _, file, file', hb, _, hg⟩
  · exact .inl hg
  · exact .inr (hg.rowStep hb.stored (hb.saved db) (hb.step _))

end Muefs
