import Muefs.Steps.Opening

/-!
# What the fee, waiver and payment requests change

`requestFeeReview_changes`, `assessFees_changes`, `decideFeeWaiver_changes`, `processPayment_changes`,
`recordExternalPayment_changes` and `reverseExternalPayment_changes` : each endpoint makes its own
changes and no others.
-/

namespace Muefs
open RowLocks

variable {cfg : Settings} {db : Store} {userId : UserId} {f : FilingId}

/-! ## Review and assessment -/

theorem canRequestReview_spec {file : FilingFile} {caseType : Option CaseType} {viewer : Option Viewer}
    (h : (feeState cfg file caseType viewer).canRequestReview = true) :
    file.filing.reviewable = true ∧ file.filing.feeReviewRequestedAt = none := by
  simp only [feeState, Bool.and_eq_true, Option.isNone_iff_eq_none] at h
  exact ⟨h.1.1, h.2⟩

theorem canAssess_spec {file : FilingFile} {caseType : Option CaseType} {viewer : Option Viewer}
    (h : (feeState cfg file caseType viewer).canAssess = true) : file.filing.reviewable = true := by
  simp only [feeState, Bool.and_eq_true] at h
  exact h.1.1

theorem requestFeeReview_changes {data : FeeReviewRequest} :
    Meets db (requestFeeReview cfg userId f data) fun tr _ => Changes cfg (.requestFeeReview userId f data) db tr := by
  simp only [requestFeeReview, meets_bind, meets_require, meets_lockFiling, meets_expect, meets_look, meets_now,
    meets_saveFiling, meets_pure]
  refine signedInFiler_meets.mono fun tr₁ _ h₁ _ => lockFiler_meets.mono ?_
  rintro tr₂ account ⟨h₂, _⟩ file hdb hfiler caseType ⟨hcan, _⟩
  obtain ⟨hreviewable, hnone⟩ := canRequestReview_spec hcan
  refine (verifyFilingDocuments_meets db file none).mono ?_
  rintro tr₃ _ ⟨h₃, _, hverified⟩ time
  refine (recordTransaction_meets cfg db _ _ _ _ _ _).mono ?_
  rintro tr₄ ⟨saved, t⟩ ⟨h₄, hrec⟩ later
  refine Changes.of_saves hdb (.feeReviewRequested userId data time t saved rfl ?_ (hrec.mono ?_)) ?_ ?_
  · refine ⟨hfiler, hreviewable, hnone, fun doc hd => (hverified doc (by simp [hd])).mono fun e he _ => ?_⟩
    simp [he]
  · intro e he _
    simp [he]
  · simp [h₁.writes, h₂.writes, h₃.writes, hrec.saves h₄, Writes, Saves]
  · simp

theorem assessFees_changes {data : FeeAssessmentRequest} :
    Meets db (assessFees cfg userId f data) fun tr _ => Changes cfg (.assessFees userId f data) db tr := by
  simp only [assessFees, meets_bind, meets_require, meets_lockFiling, meets_expect, meets_look, meets_now,
    meets_saveFiling, meets_pure]
  refine fun _ => lockCurrentUser_meets.mono ?_
  rintro tr₁ account ⟨h₁, hactive⟩ file hdb hstaff hother caseType ⟨hcan, hversion⟩
  refine (verifyFilingDocuments_meets db file none).mono ?_
  rintro tr₂ _ ⟨h₂, _, hverified⟩ time
  refine (recordTransaction_meets cfg db _ _ _ _ _ _).mono ?_
  rintro tr₃ ⟨saved, t⟩ ⟨h₃, hrec⟩ later
  have hnotice : ∀ tr, Writes (Saves tr f { saved with filing := { saved.filing with feeAssessmentId := some t.id } })
      tr₃ := fun tr => (h₃.mono hrec.notice).mono (IsNotice.saves (IsNotice.congr rfl rfl))
  refine Changes.of_saves hdb (.feesAssessed userId data _ time t saved rfl ?_ (hrec.mono ?_)) ?_ ?_
  · refine ⟨⟨⟨account, hactive, hstaff⟩, hother⟩, canAssess_spec hcan, fun doc hd => ?_, by rw [hversion], rfl⟩
    refine (hverified doc (by simp [hd])).mono fun e he _ => ?_
    simp [he]
  · intro e he _
    simp [he]
  · simp [h₁.writes, h₂.writes, hnotice _, Writes, Saves]
  · simp

/-! ## Waivers -/

theorem meets_decidableFiling {row : Option FilingFile} {account : Option Account} {action : WaiverAction}
    {expected : Nat} :
    Meets db (decidableFiling row userId account action expected) fun tr file => tr = [] ∧ row = some file ∧
      file.filing.feeVersion = expected ∧
      ∀ a, account = some a → a.isCourtStaff file.filing.courtId = true ∧ file.filing.waiverPending = true ∧
        action ∈ waiverActions file.filing userId a := by
  simp only [decidableFiling, meets_bind, meets_expect, meets_require, meets_pure]
  refine fun file hrow hstaff hpending haction hversion => ⟨rfl, hrow, hversion, ?_⟩
  rintro a rfl
  exact ⟨hstaff, hpending, haction⟩

theorem waiverActions_other {filing : FilingEnvelope} {account : Account} {action : WaiverAction}
    (h : action ∈ waiverActions filing userId account) : filing.filerId ≠ userId := by
  unfold waiverActions at h
  split at h
  case isTrue hc =>
    simp only [Bool.and_eq_true, bne_iff_ne] at hc
    exact hc.1.1.2
  case isFalse => simp at h

theorem decideLocked_meets {form : WaiverForm} {record : FilingFile → Portal Response}
    {Q : Trace → Response → Prop}
    (h : ∀ pre file, Quiet pre → db (.envelope f) = some file →
      WaiverOpen db file userId form.action form.expectedFeeVersion →
      Meets db (record file) fun tr out => Q (pre ++ tr) out) :
    Meets db (decideLocked userId f form record) Q := by
  simp only [decideLocked, meets_bind, meets_lockFiling]
  refine lockCurrentUser_meets.mono ?_
  rintro tr₁ account ⟨h₁, hactive⟩
  refine meets_decidableFiling.mono ?_
  rintro _ file ⟨rfl, hdb, hversion, hopen⟩
  obtain ⟨hstaff, hpending, haction⟩ := hopen account rfl
  refine (h (tr₁ ++ [⟨.lock .update (.envelope f), db (.envelope f)⟩]) file (by simp [h₁, Writes]) hdb
    ⟨⟨⟨account, hactive, hstaff⟩, waiverActions_other haction⟩, hversion, ⟨account, hactive, haction⟩, hpending⟩).mono
    fun tr out hq => ?_
  simpa using hq

theorem decideFeeWaiver_changes {form : WaiverForm} :
    Meets db (decideFeeWaiver cfg userId f form) fun tr _ => Changes cfg (.decideFeeWaiver userId f form) db tr := by
  simp only [decideFeeWaiver, meets_bind, meets_require, meets_look]
  refine getFiling_meets.mono ?_
  rintro tr₁ row ⟨h₁, _⟩ account
  refine meets_decidableFiling.mono ?_
  rintro _ probe ⟨rfl, _, _, _⟩ hdenial hfile
  cases hform : form.file with
  | none =>
    have haction : form.action = .refer := by simpa [hform] using hfile
    refine decideLocked_meets fun pre file hpre hdb hopen => ?_
    simp only [recordReferral, meets_bind, meets_now, meets_saveFiling, meets_pure]
    refine fun time => (recordTransaction_meets cfg db _ _ _ _ _ _).mono ?_
    rintro tr₂ ⟨saved, t⟩ ⟨h₂, hrec⟩
    refine Changes.of_saves hdb (.waiverReferred userId form time t saved rfl haction (haction ▸ hopen)
      (hrec.mono ?_)) ?_ ?_
    · intro e he _
      simp [he]
    · simp [h₁.writes, hpre.writes, hrec.saves h₂, Writes, Saves]
    · simp
  | some upload =>
    simp only [meets_bind, meets_require, meets_onRaise]
    refine fun haction => storeDocumentUpload_meets.mono ?_
    rintro tr₂ doc ⟨h₂, hstored⟩
    refine decideLocked_meets fun pre file hpre hdb hopen => ?_
    simp only [recordDecision, meets_bind, meets_now, meets_saveFiling, meets_pure]
    refine fun time => insertDocument_meets.mono ?_
    rintro tr₃ inserted ⟨h₃, hid, at_, hinserted⟩
    refine (recordTransaction_meets cfg db _ _ _ _ _ _).mono ?_
    rintro tr₄ ⟨saved, t⟩ ⟨h₄, hrec⟩
    have hdoc : inserted.fileKey = doc.fileKey ∧ inserted.removedAt = none ∧ inserted.publicCopyId = none ∧
        inserted.retainedAt = doc.retainedAt ∧ inserted.documentTypeCode = doc.documentTypeCode := by
      rw [hinserted]
      exact ⟨rfl, hstored.current, hstored.unpublished, rfl, rfl⟩
    refine Changes.of_saves hdb (.waiverDecided userId form time inserted _ t saved rfl haction ?_ (hrec.mono ?_)) ?_ ?_
    · exact {
        toWaiverOpen := hopen
        granted := fun h => by simp [h]
        denied := fun h => by
          have hdue := hdenial.resolve_left (not_not_intro h)
          simp [h, hdue.2]
        new := ⟨by simp [hid], by simp [hdoc.1, hstored.key_new], hdoc.2.1, hdoc.2.2.1⟩
        retained := by
          rw [hdoc.2.2.2.1]
          exact hstored.retained.2 rfl
        type_eq := hdoc.2.2.2.2.trans hstored.type_eq }
    · intro e he _
      simp [he]
    · have h₃' : ∀ tr : Trace, ⟨.fresh, inserted.id⟩ ∈ tr → Writes (Saves tr f saved) tr₃ := fun tr htr =>
        h₃.mono fun g v hg => by
          subst hg
          exact htr
      simp [h₁.writes, h₂.writes, hpre.writes, h₃' _, hid, hrec.saves h₄, Writes, Saves]
    · simp

/-! ## Portal payments -/

theorem makePayment_meets {data : PaymentProcessRequest} {basis : FeeBasis} :
    Meets db (makePayment cfg data userId basis) fun tr payment => Quiet tr ∧ cfg.allowDemoMode = true ∧
      ⟨.fresh, payment.id⟩ ∈ tr ∧ payment.amountCents = data.amountCents ∧ payment.status = .completed ∧
      payment.payerId = some userId ∧ payment.isSimulated = true ∧ payment.externalRequestKey = none ∧
      payment.externalReceiptKey = none := by
  simp only [makePayment, meets_bind, meets_require, meets_newId, meets_now, meets_pure]
  rintro ⟨_, hdemo⟩ id ref time
  simp [Writes, hdemo]

theorem processPayment_changes {data : PaymentProcessRequest} :
    Meets db (processPayment cfg userId data) fun tr _ => Changes cfg (.processPayment userId data) db tr := by
  simp only [processPayment, meets_bind, meets_require, meets_lockFiling, meets_expect, meets_look, meets_saveFiling,
    meets_pure]
  refine signedInFiler_meets.mono fun tr₁ _ h₁ => lockFiler_meets.mono ?_
  rintro tr₂ account ⟨h₂, _⟩ file hdb hfiler caseType _ due hdue _ hamount
  refine makePayment_meets.mono ?_
  rintro tr₃ payment ⟨h₃, hdemo, hid, hpay, hstatus, hpayer, hsim, hkey, hreceipt⟩
  refine (recordTransaction_meets cfg db _ _ _ _ _ _).mono ?_
  rintro tr₄ ⟨saved, t⟩ ⟨h₄, hrec⟩
  refine Changes.of_saves hdb (.paid userId data caseType payment _ t saved rfl rfl ?_ (hrec.mono ?_)) ?_ ?_
  · exact {
      filer := hfiler
      priced := by simp [Priced]
      due := by rw [hpay, hamount]; exact hdue
      demo := hdemo
      id_new := by simp [hid]
      positive := hpay ▸ data.positive
      completed := hstatus
      payer := hpayer
      simulated := hsim
      notExternal := ⟨hkey, hreceipt⟩ }
  · intro e he _
    simp [he]
  · simp [h₁.writes, h₂.writes, h₃.writes, hrec.saves h₄, Writes, Saves]
  · simp

/-! ## External credits -/

theorem lockPaymentFiling_meets :
    Meets db (lockPaymentFiling cfg f userId) fun tr r => Quiet tr ∧ db (.envelope f) = some r.1 ∧
      Staff db userId Account.isCourtAdministrator r.1 := by
  simp only [lockPaymentFiling, meets_bind, meets_lockFiling, meets_expect, meets_require, meets_pure]
  refine lockCurrentUser_meets.mono ?_
  rintro tr account ⟨hq, hactive⟩ file hdb ⟨hother, hadmin⟩ _
  exact ⟨by simp [hq, Writes], hdb, ⟨account, hactive, hadmin⟩, hother.symm⟩

theorem duplicateCredit_meets {key : Uuid} {receipt : ReceiptKey} {Q : Trace → Response → Prop} :
    Meets db (duplicateCredit key receipt) Q := by
  simp only [duplicateCredit, meets_bind, meets_look]
  intro duplicate requested
  cases duplicate <;> simp

theorem insertCredit_changes {data : ExternalPaymentRequest} {file : FilingFile} {account : Account} {key : Uuid}
    {basis : FeeBasis} {caseType : Option CaseType} (pre : Trace) (hpre : Quiet pre)
    (hdb : db (.envelope f) = some file) (hstaff : Staff db userId Account.isCourtAdministrator file)
    (hpriced : Priced pre file.filing caseType)
    (hdue : ∃ due, (feeState cfg file caseType none).balanceDueCents = some due ∧ data.amountCents ≤ due) :
    Meets db (insertCredit cfg f data file userId account key basis) fun tr _ =>
      Changes cfg (.recordExternalPayment userId f key data) db (pre ++ tr) := by
  simp only [insertCredit, meets_bind, meets_lock, meets_ite, meets_newId, meets_write, meets_saveFiling, meets_pure]
  refine ⟨fun _ => duplicateCredit_meets, fun hfree id => ?_⟩
  simp only [not_or, Option.not_isSome_iff_eq_none] at hfree
  obtain ⟨hkey, hreceipt⟩ := hfree
  refine ((recordTransaction_meets cfg db _ _ _ _ _ _).both
    (recordTransaction_reason cfg db _ _ _ _ rfl (by decide) data.reasonGiven)).mono ?_
  rintro tr ⟨saved, t⟩ ⟨⟨hn, hrec⟩, hreason⟩
  refine .of_writes ?_
  simp only [writes_append, hpre.writes, Writes, true_and, and_true]
  refine ⟨IsNotice.rowStep f ?_ hrec.notice hn, fun _ => ⟨_, rfl, hkey⟩, fun _ => .inl ⟨_, rfl, hreceipt⟩,
    fun _ => ⟨saved, rfl, .inr ⟨file, hdb, .credited userId key data account caseType basis id _ t saved rfl ?_ rfl
      ⟨rfl, rfl, rfl, hreason⟩ (hrec.mono ?_)⟩⟩⟩
  · simp [commit_append, commit, Op.applied]
  · exact {
      staff := hstaff
      priced := List.mem_append_left _ hpriced
      due := hdue
      id_new := by simp
      keyFree := hkey
      receiptFree := hreceipt
      keyTaken := by simp [commit_append, commit, Op.applied]
      receiptTaken := by simp [commit_append, commit, Op.applied] }
  · intro e he _
    simp [he]

theorem recordExternalPayment_changes {key : Uuid} {data : ExternalPaymentRequest} :
    Meets db (recordExternalPayment cfg userId f key data) fun tr _ =>
      Changes cfg (.recordExternalPayment userId f key data) db tr := by
  simp only [recordExternalPayment, meets_bind, meets_look]
  refine lockPaymentFiling_meets.mono ?_
  rintro tr₁ ⟨file, account⟩ ⟨h₁, hdb, hstaff⟩ previous
  cases previous with
  | some ref =>
    simp only [meets_bind, meets_require, meets_expect, meets_pure]
    exact fun _ payment _ => .of_quiet (by simp [h₁, Writes])
  | none =>
    simp only [meets_bind, meets_now, meets_require, meets_look, meets_expect]
    intro time _ caseType _ _ due hdue hle
    refine (insertCredit_changes (tr₁ ++ [⟨.look (.externalRequest key), none⟩, ⟨.clock, time⟩,
      ⟨.look (.caseType file.filing.caseTypeId), caseType⟩]) (by simp [h₁, Writes]) hdb hstaff ?_ ⟨due, hdue, hle⟩).mono
      fun tr _ h => ?_
    · simp [Priced]
    · simpa using h

theorem releaseReceipt_meets {receipt : Option ReceiptKey} :
    Meets db (releaseReceipt receipt) fun tr _ =>
      (∀ P : (g : Row) → View g → Prop, (∀ k, receipt = some k → P (.externalReceipt k) none) → Writes P tr) ∧
      ∀ db' k, receipt = some k → commit tr db' (.externalReceipt k) = none := by
  cases receipt with
  | none => simp [releaseReceipt, Writes]
  | some k =>
    simp only [releaseReceipt, meets_bind, meets_lock, meets_write]
    simp [Writes, commit, Op.applied]

theorem reverseExternalPayment_changes {paymentId : PaymentId} {data : ExternalPaymentReversal} :
    Meets db (reverseExternalPayment cfg userId f paymentId data) fun tr _ =>
      Changes cfg (.reverseExternalPayment userId f paymentId data) db tr := by
  simp only [reverseExternalPayment, meets_bind, meets_expect, meets_ite, meets_require, meets_saveFiling, meets_pure]
  refine lockPaymentFiling_meets.mono ?_
  rintro tr₁ ⟨file, account⟩ ⟨h₁, hdb, hstaff⟩ payment hfound
  refine ⟨fun _ => .of_quiet (by simp [h₁]), fun _ hstatus _ => ?_⟩
  refine ((recordTransaction_meets cfg db _ _ _ _ _ _).both
    (recordTransaction_reason cfg db _ _ _ _ rfl (by decide) data.reasonGiven)).mono ?_
  rintro tr₂ ⟨saved, t⟩ ⟨⟨h₂, hrec⟩, hreason⟩
  refine releaseReceipt_meets.mono ?_
  rintro tr₃ _ ⟨h₃, hreleased⟩
  have hmem : payment ∈ file.payments ∧ payment.id = paymentId := by
    have h := List.find?_some hfound
    simp only [Bool.and_eq_true, beq_iff_eq] at h
    exact ⟨List.mem_of_find?_eq_some hfound, h.1⟩
  have hpayments : saved.payments = (file.setStatus paymentId .reversed).payments := hrec.payments_eq
  refine .of_writes ?_
  simp only [writes_append, h₁.writes, Writes, true_and, and_true]
  refine ⟨IsNotice.rowStep f ?_ hrec.notice h₂, h₃ _ fun k hk => .inr ⟨rfl, f, file, payment, hdb, hmem.1, hstatus, hk,
    saved, ?_, ?_⟩, fun _ => ⟨saved, rfl, .inr ⟨file, hdb, .reversed userId paymentId data payment _ t saved rfl ?_ rfl
      ⟨rfl, rfl, rfl, hreason⟩ (hrec.mono ?_)⟩⟩⟩
  · simp [commit_append, commit, Op.applied]
  · simp [commit_append, commit, Op.applied]
  · rw [hpayments]
    intro p hp hpid
    simp only [FilingFile.setStatus, List.mem_map] at hp
    obtain ⟨q, _, rfl⟩ := hp
    by_cases hq : q.id = paymentId
    · rw [if_pos hq]
    · rw [if_neg hq] at hpid
      exact absurd (hpid.trans hmem.2) hq
  · refine ⟨hstaff, hfound, hstatus, fun k hk => ?_⟩
    simp [commit_append, commit, Op.applied, hreleased _ k hk]
  · intro e he _
    simp [he]

/-! ## Replays -/

theorem recordExternalPayment_once {key : Uuid} {data : ExternalPaymentRequest} :
    Meets db (recordExternalPayment cfg userId f key data) fun tr _ =>
      (Quiet tr ∧ ∃ ref, ⟨.look (.externalRequest key), some ref⟩ ∈ tr) ∨
        (db (.externalRequest key) = none ∧ (commit tr db (.externalRequest key)).isSome = true) := by
  simp only [recordExternalPayment, meets_bind, meets_look]
  refine lockPaymentFiling_meets.mono ?_
  rintro tr₁ ⟨file, account⟩ ⟨h₁, hdb, hstaff⟩ previous
  cases previous with
  | some ref =>
    simp only [meets_bind, meets_require, meets_expect, meets_pure]
    exact fun _ payment _ => .inl ⟨by simp [h₁, Writes], ref, by simp⟩
  | none =>
    simp only [meets_bind, meets_now, meets_require, meets_look, meets_expect, insertCredit, meets_lock, meets_ite,
      meets_newId, meets_write, meets_saveFiling, meets_pure]
    refine fun time _ caseType _ _ due hdue hle => ⟨fun _ => duplicateCredit_meets, fun hfree id => ?_⟩
    simp only [not_or, Option.not_isSome_iff_eq_none] at hfree
    refine (recordTransaction_meets cfg db _ _ _ _ _ _).mono ?_
    rintro tr ⟨saved, t⟩ ⟨hn, hrec⟩
    exact .inr ⟨hfree.1, by simp [commit_append, commit, Op.applied]⟩

theorem reverseExternalPayment_once {paymentId : PaymentId} {data : ExternalPaymentReversal} :
    Meets db (reverseExternalPayment cfg userId f paymentId data) fun tr _ =>
      ∃ file payment, db (.envelope f) = some file ∧
        file.payments.find? (fun p => p.id == paymentId && p.externalRequestKey.isSome) = some payment ∧
        (payment.status = .reversed → Quiet tr) ∧
        ∃ file', commit tr db (.envelope f) = some file' ∧
          ∃ p ∈ file'.payments, p.id = paymentId ∧ p.externalRequestKey.isSome = true ∧ p.status = .reversed := by
  simp only [reverseExternalPayment, meets_bind, meets_expect, meets_ite, meets_require, meets_saveFiling, meets_pure]
  refine lockPaymentFiling_meets.mono ?_
  rintro tr₁ ⟨file, account⟩ ⟨h₁, hdb, hstaff⟩ payment hfound
  have hshape := List.find?_some hfound
  simp only [Bool.and_eq_true, beq_iff_eq] at hshape
  refine ⟨fun hreversed => ?_, fun hopen hstatus _ => ?_⟩
  · have hquiet : Quiet (tr₁ ++ ([] ++ [])) := by simp [h₁]
    refine ⟨file, payment, hdb, hfound, fun _ => hquiet, file, (congrFun (hquiet.commit db) _).trans hdb, payment,
      List.mem_of_find?_eq_some hfound, hshape.1, hshape.2, hreversed⟩
  · refine (recordTransaction_meets cfg db _ _ _ _ _ _).mono ?_
    rintro tr₂ ⟨saved, t⟩ ⟨h₂, hrec⟩
    refine releaseReceipt_meets.mono ?_
    rintro tr₃ _ ⟨h₃, hreleased⟩
    refine ⟨file, payment, hdb, hfound, fun hreversed => absurd hreversed hopen, saved, ?_,
      { payment with status := .reversed }, ?_, hshape.1, hshape.2, rfl⟩
    · simp [commit_append, commit, Op.applied]
    · rw [hrec.payments_eq]
      refine List.mem_map.2 ⟨payment, List.mem_of_find?_eq_some hfound, ?_⟩
      rw [if_pos hshape.1]

end Muefs
