import Mathlib.Data.List.Count
import Muefs.Laws.Token

/-!
# Payments and the court's ledger

* `FilingFile.bookings` : the payments that the transactions of one kind of event name;
* `PaymentChange`, `FileStep.payment` : what a step does to payments and ledger;
* `FilingFile.PaymentsSound`, `Run.paymentsSound` : every credit is recorded once, and reversed once if it is reversed;
* `FilingFile.paid_eq` : the paid amount, from the ledger; `Run.paid_within` : it never passes the total in force;
* `Run.receiptsHeld`, `Run.credit_unique` : an external receipt is credited once;
* `Run.payments` : the law.
-/

namespace Muefs
open RowLocks

variable {cfg : Settings} {r : Request} {db db' : Store} {tr : Trace} {f : FilingId} {file file' : FilingFile}

/-! ## Two records of a payment -/

def Payment.isCredit (p : Payment) : Bool := p.externalRequestKey.isSome

def Payment.booking (p : Payment) : Option (PaymentId × Cents) := some (p.id, p.amountCents)

def FilingTransaction.booking (t : FilingTransaction) : Option (PaymentId × Cents) :=
  t.details.payment.map fun p => (p.id, p.amountCents)

/-- The payments that the transactions of this event name. -/
def FilingFile.bookings (file : FilingFile) (event : EventType) : List (Option (PaymentId × Cents)) :=
  (file.events (· == event)).map FilingTransaction.booking

def centsOf (b : Option (PaymentId × Cents)) : Cents := (b.map Prod.snd).getD 0

/-- The sum of the amounts that the transactions of this event name. -/
def FilingFile.bookedCents (file : FilingFile) (event : EventType) : Cents := ((file.bookings event).map centsOf).sum

def FilingFile.credits (file : FilingFile) : List Payment := file.payments.filter Payment.isCredit

def FilingFile.reversals (file : FilingFile) : List Payment :=
  file.payments.filter fun p => p.isCredit && p.status == .reversed

def FilingFile.portalCents (file : FilingFile) : Cents :=
  ((file.payments.filter fun p => !p.isCredit && p.status == .completed).map Payment.amountCents).sum

/-! ## One step -/

theorem Recorded.bookings_eq {base : FilingFile} {event e : EventType} {actorId : UserId} {key : Option Uuid}
    {details : Details} {t : FilingTransaction} (h : Recorded cfg tr base event actorId key details file' t)
    (hevent : (event == e) = false) : file'.bookings e = base.bookings e :=
  congrArg (List.map FilingTransaction.booking) (h.events_eq (p := (· == e)) hevent)

theorem Recorded.bookings_concat {base : FilingFile} {event : EventType} {actorId : UserId} {key : Option Uuid}
    {details : Details} {t : FilingTransaction} (h : Recorded cfg tr base event actorId key details file' t)
    (hr : event.isReceipt = false) (ha : event ≠ .accepted) :
    file'.bookings event = base.bookings event ++ [details.payment.map fun p => (p.id, p.amountCents)] := by
  obtain ⟨why, hdetails⟩ := h.kept hr ha
  rw [FilingFile.bookings, h.events_concat (p := (· == event)) (beq_self_eq_true event), List.map_append,
    List.map_singleton, FilingTransaction.booking, hdetails]
  rfl

/-- No credit is entered or reversed. -/
structure SameLedger (file file' : FilingFile) : Prop where
  recorded : file'.bookings .feePaymentRecorded = file.bookings .feePaymentRecorded
  reversed : file'.bookings .feePaymentReversed = file.bookings .feePaymentReversed

theorem Recorded.sameLedger {base : FilingFile} {event : EventType} {actorId : UserId} {key : Option Uuid}
    {details : Details} {t : FilingTransaction} (h : Recorded cfg tr base event actorId key details file' t)
    (hbase : SameLedger file base) (hevent : (event == .feePaymentRecorded) = false ∧
      (event == .feePaymentReversed) = false) :
    SameLedger file file' :=
  ⟨(h.bookings_eq hevent.1).trans hbase.recorded, (h.bookings_eq hevent.2).trans hbase.reversed⟩

theorem Dated.sameLedger {reviewerId : UserId} {receivedAt : Instant} {ordered : Bool} {dated : FilingFile}
    (h : Dated cfg tr reviewerId receivedAt file ordered dated) : SameLedger file dated where
  recorded := congrArg (List.map FilingTransaction.booking) (h.events_eq (p := (· == .feePaymentRecorded)) rfl)
  reversed := congrArg (List.map FilingTransaction.booking) (h.events_eq (p := (· == .feePaymentReversed)) rfl)

/-- What a step does to payments: nothing, a portal payment, a credit, or the reversal of a credit. -/
inductive PaymentChange (cfg : Settings) (r : Request) (db db' : Store) (tr : Trace) (f : FilingId)
    (file file' : FilingFile) : Prop where
  | same (hpayments : file'.payments = file.payments) (hledger : SameLedger file file')
  | paid (userId : UserId) (caseType : Option CaseType) (payment : Payment)
      (h : Payable cfg db tr file userId caseType payment) (hpayments : file'.payments = file.payments ++ [payment])
      (hledger : SameLedger file file') (hversion : file'.filing.feeVersion = file.filing.feeVersion)
      (hreview : file'.filing.feeReviewRequestedAt = file.filing.feeReviewRequestedAt)
  | credited (userId : UserId) (key : Uuid) (data : ExternalPaymentRequest) (account : Account)
      (caseType : Option CaseType) (basis : FeeBasis) (id : PaymentId)
      (h : Creditable cfg db db' tr f file userId key data caseType id)
      (hpayments : file'.payments = file.payments ++ [externalCredit cfg data file userId account key basis id])
      (hrecorded : file'.bookings .feePaymentRecorded = file.bookings .feePaymentRecorded ++
        [some (id, data.amountCents)])
      (hreversed : file'.bookings .feePaymentReversed = file.bookings .feePaymentReversed)
      (hversion : file'.filing.feeVersion = file.filing.feeVersion)
      (hreview : file'.filing.feeReviewRequestedAt = file.filing.feeReviewRequestedAt)
  | reversed (userId : UserId) (paymentId : PaymentId) (payment : Payment)
      (h : Reversible db db' file userId paymentId payment)
      (hpayments : file'.payments = (file.setStatus paymentId .reversed).payments)
      (hrecorded : file'.bookings .feePaymentRecorded = file.bookings .feePaymentRecorded)
      (hreversed : file'.bookings .feePaymentReversed = file.bookings .feePaymentReversed ++ [payment.booking])

/-- **What a step does to payments.** -/
theorem FileStep.payment (h : FileStep cfg r db db' tr f file file') : PaymentChange cfg r db db' tr f file file' := by
  cases h with
  | edited | uploaded | retired | erased | copyPrepared => exact .same rfl ⟨rfl, rfl⟩
  | paid userId data caseType payment snapshot t _ hr hf h hrec =>
    refine .paid userId caseType payment h hrec.payments_eq (hrec.sameLedger ⟨rfl, rfl⟩ ⟨rfl, rfl⟩) ?_ ?_
    · rw [hrec.filing_eq]
    · rw [hrec.filing_eq]
  | credited userId key data account caseType basis id snapshot t _ hr h hid hamount hrec =>
    refine .credited userId key data account caseType basis id h hrec.payments_eq ?_ (hrec.bookings_eq rfl) ?_ ?_
    · rw [hrec.bookings_concat rfl (by decide), ← hid, ← hamount.1]
      rfl
    · rw [hrec.filing_eq]
    · rw [hrec.filing_eq]
  | reversed userId paymentId data payment snapshot t _ hr h hid hamount hrec =>
    refine .reversed userId paymentId payment h hrec.payments_eq (hrec.bookings_eq rfl) ?_
    rw [hrec.bookings_concat rfl (by decide), Payment.booking, ← hid, ← hamount.1]
    rfl
  | accepted userId count time receivedAt seen order dated caseId a b t _ hr h hacc hreceived hdated hcase hrec =>
    have hledger := hdated.sameLedger
    exact .same (hrec.payments_eq.trans hdated.payments_eq)
      (hrec.sameLedger ⟨hledger.recorded, hledger.reversed⟩ ⟨rfl, rfl⟩)
  | cmsFailed userId count time receivedAt seen order dated error t _ hr h hacc hreceived hdated hrec =>
    have hledger := hdated.sameLedger
    exact .same (hrec.payments_eq.trans hdated.payments_eq)
      (hrec.sameLedger ⟨hledger.recorded, hledger.reversed⟩ ⟨rfl, rfl⟩)
  | submitted userId key token seen caseType time date basis t _ hr h hdate hrec =>
    refine .same hrec.payments_eq (hrec.sameLedger ⟨rfl, rfl⟩ ?_)
    unfold FilingEnvelope.receiptEvent
    split <;> exact ⟨rfl, rfl⟩
  | declined userId count action time status event reason t _ hr h haction hrec =>
    refine .same hrec.payments_eq (hrec.sameLedger ⟨rfl, rfl⟩ ?_)
    obtain ⟨_, _, rfl⟩ | ⟨_, _, rfl⟩ := haction <;> exact ⟨rfl, rfl⟩
  | waiverDecided userId form time doc due t _ hr haction h hrec =>
    refine .same hrec.payments_eq (hrec.sameLedger ⟨rfl, rfl⟩ ?_)
    cases form.action <;> exact ⟨rfl, rfl⟩
  | feesAssessed userId data a time t saved hr h hrec =>
    have hledger : SameLedger file saved := hrec.sameLedger ⟨rfl, rfl⟩ ⟨rfl, rfl⟩
    exact .same hrec.payments_eq ⟨hledger.recorded, hledger.reversed⟩
  | feeReviewRequested _ _ _ _ _ _ _ hrec | waiverReferred _ _ _ _ _ _ _ _ hrec | dateOrdered _ _ _ _ _ _ _ _ hrec
  | published _ _ _ _ _ _ _ _ _ _ _ _ _ _ _ _ _ _ hrec | withheld _ _ _ _ _ _ _ _ hrec =>
    exact .same hrec.payments_eq (hrec.sameLedger ⟨rfl, rfl⟩ ⟨rfl, rfl⟩)

/-! ## Every filing -/

/-- A payment of the filer that counts as long as it is completed; a portal payment is, and a credit
names its receipt. -/
structure Payment.Sound (cfg : Settings) (filing : FilingEnvelope) (p : Payment) : Prop where
  payer : p.payerId = some filing.filerId
  positive : 0 < p.amountCents
  real : (cfg.allowDemoMode || !p.isSimulated) = true
  portal : p.isCredit = false → p.status = .completed ∧ p.externalReceiptKey = none
  credit : p.isCredit = true → (p.status = .completed ∨ p.status = .reversed) ∧ ∃ receipt,
    p.externalReceipt = some receipt ∧
      p.externalReceiptKey = some (receiptKey cfg filing.courtId receipt.system receipt.reference)

theorem Payment.Sound.counts {filing : FilingEnvelope} {p : Payment} (h : p.Sound cfg filing) :
    p.counts cfg filing.filerId = (p.status == .completed) := by
  simp [Payment.counts, h.payer, h.positive, h.real]

theorem Payment.Sound.congr {filing filing' : FilingEnvelope} {p : Payment} (h : p.Sound cfg filing)
    (hfixed : filing.Fixed filing') : p.Sound cfg filing' where
  payer := by rw [hfixed.filerId]; exact h.payer
  positive := h.positive
  real := h.real
  portal := h.portal
  credit := by rw [hfixed.courtId]; exact h.credit

/-- The ledger has every credit once, and every reversed credit once more. -/
structure FilingFile.PaymentsSound (cfg : Settings) (file : FilingFile) : Prop where
  sound : ∀ p ∈ file.payments, p.Sound cfg file.filing
  recorded : file.bookings .feePaymentRecorded = file.credits.map Payment.booking
  reversed : (file.bookings .feePaymentReversed).Perm (file.reversals.map Payment.booking)

theorem Payable.sound {userId : UserId} {caseType : Option CaseType} {payment : Payment}
    (h : Payable cfg db tr file userId caseType payment) :
    payment.Sound cfg file.filing ∧ payment.isCredit = false := by
  have hportal : payment.isCredit = false := by simp [Payment.isCredit, h.notExternal.1]
  exact ⟨{
    payer := by rw [h.filer]; exact h.payer
    positive := h.positive
    real := by simp [h.demo]
    portal := fun _ => ⟨h.completed, h.notExternal.2⟩
    credit := fun hcredit => by simp [hportal] at hcredit }, hportal⟩

theorem externalCredit_sound {data : ExternalPaymentRequest} {userId : UserId} {account : Account} {key : Uuid}
    {basis : FeeBasis} {id : PaymentId} :
    (externalCredit cfg data file userId account key basis id).Sound cfg file.filing where
  payer := rfl
  positive := data.positive
  real := by simp [externalCredit]
  portal hportal := by cases hportal
  credit _ := ⟨.inl rfl, _, rfl, rfl⟩

theorem FilingFile.setStatus_reversed (hnodup : (file.payments.map Payment.id).Nodup) {paymentId : PaymentId}
    {payment : Payment} (hfound : file.payments.find? (fun p => p.id == paymentId && p.externalRequestKey.isSome) =
      some payment) : ∃ before after, file.payments = before ++ payment :: after ∧
      (file.setStatus paymentId .reversed).payments = before ++ { payment with status := .reversed } :: after := by
  have hid : payment.id = paymentId := by
    have hshape := List.find?_some hfound
    simp only [Bool.and_eq_true, beq_iff_eq] at hshape
    exact hshape.1
  obtain ⟨before, after, hsplit⟩ := List.append_of_mem (List.mem_of_find?_eq_some hfound)
  refine ⟨before, after, hsplit, ?_⟩
  rw [hsplit, List.map_append, List.map_cons, List.nodup_append, List.nodup_cons] at hnodup
  obtain ⟨-, ⟨hafter, -⟩, hbefore⟩ := hnodup
  have hkept : ∀ l : List Payment, (∀ p ∈ l, p.id ≠ paymentId) →
      l.map (fun p => if p.id = paymentId then { p with status := .reversed } else p) = l := by
    intro l hl
    conv_rhs => rw [← List.map_id l]
    exact List.map_congr_left fun p hp => if_neg (hl p hp)
  have hbefore' : ∀ p ∈ before, p.id ≠ paymentId := fun p hp heq =>
    hbefore _ (List.mem_map_of_mem hp) _ List.mem_cons_self (heq.trans hid.symm)
  have hafter' : ∀ p ∈ after, p.id ≠ paymentId := fun p hp heq =>
    hafter (List.mem_map.2 ⟨p, hp, heq.trans hid.symm⟩)
  rw [FilingFile.setStatus, hsplit]
  simp only [List.map_append, List.map_cons, if_pos hid]
  rw [hkept before hbefore', hkept after hafter']

theorem FilingFile.credits_concat {p : Payment} (h : file'.payments = file.payments ++ [p]) :
    file'.credits = file.credits ++ [p].filter Payment.isCredit := by
  rw [credits, h, List.filter_append]
  rfl

theorem FilingFile.reversals_concat {p : Payment} (h : file'.payments = file.payments ++ [p])
    (hp : (p.isCredit && p.status == .reversed) = false) : file'.reversals = file.reversals := by
  rw [reversals, h, List.filter_append, List.filter_singleton, hp]
  exact List.append_nil _

theorem FilingFile.reversals_middle {before after : List Payment} {p : Payment}
    (h : file.payments = before ++ p :: after) (h' : file'.payments = before ++ { p with status := .reversed } :: after)
    (hcredit : p.isCredit = true) (hstatus : p.status = .completed) :
    file'.credits.map Payment.booking = file.credits.map Payment.booking ∧
      (file'.reversals.map Payment.booking).Perm (p.booking :: file.reversals.map Payment.booking) := by
  have hcredit' : ({ p with status := .reversed } : Payment).isCredit = true := hcredit
  constructor
  · rw [credits, credits, h, h']
    simp only [List.filter_append, List.filter_cons, if_pos hcredit, if_pos hcredit', List.map_append, List.map_cons]
    rfl
  · have hreversed : ({ p with status := .reversed } : Payment).isCredit && PaymentStatus.reversed == .reversed := by
      rw [hcredit']
      rfl
    have hcompleted : (p.isCredit && p.status == .reversed) = false := by
      rw [hstatus]
      simp
    rw [reversals, reversals, h, h']
    simp only [List.filter_append, List.filter_cons, hreversed, hcompleted, if_true, List.map_append, List.map_cons]
    exact List.perm_middle

theorem PaymentChange.sound (h : PaymentChange cfg r db db' tr f file file') (hfixed : file.filing.Fixed file'.filing)
    (hnodup : (file.payments.map Payment.id).Nodup) (hI : file.PaymentsSound cfg) : file'.PaymentsSound cfg := by
  have hold : ∀ p ∈ file.payments, p.Sound cfg file'.filing := fun p hp => (hI.sound p hp).congr hfixed
  cases h with
  | same hpayments hledger =>
    refine ⟨by rw [hpayments]; exact hold, ?_, ?_⟩
    · rw [hledger.recorded, FilingFile.credits, hpayments]
      exact hI.recorded
    · rw [hledger.reversed, FilingFile.reversals, hpayments]
      exact hI.reversed
  | paid userId caseType payment h hpayments hledger hversion hreview =>
    obtain ⟨hsound, hportal⟩ := h.sound
    refine ⟨fun p hp => ?_, ?_, ?_⟩
    · rw [hpayments] at hp
      rcases List.mem_append.1 hp with hp | hp
      · exact hold p hp
      · cases List.mem_singleton.1 hp
        exact hsound.congr hfixed
    · rw [hledger.recorded, FilingFile.credits_concat hpayments, List.filter_singleton, hportal]
      simpa using hI.recorded
    · rw [hledger.reversed, FilingFile.reversals_concat hpayments (by rw [hportal]; rfl)]
      exact hI.reversed
  | credited userId key data account caseType basis id h hpayments hrecorded hreversed hversion hreview =>
    refine ⟨fun p hp => ?_, ?_, ?_⟩
    · rw [hpayments] at hp
      rcases List.mem_append.1 hp with hp | hp
      · exact hold p hp
      · cases List.mem_singleton.1 hp
        exact externalCredit_sound.congr hfixed
    · rw [hrecorded, FilingFile.credits_concat hpayments, List.map_append, hI.recorded]
      rfl
    · rw [hreversed, FilingFile.reversals_concat hpayments (by simp [externalCredit])]
      exact hI.reversed
  | reversed userId paymentId payment h hpayments hrecorded hreversed =>
    obtain ⟨before, after, hsplit, hset⟩ := FilingFile.setStatus_reversed hnodup h.found
    rw [hset] at hpayments
    have hcredit : payment.isCredit = true := by
      have hshape := List.find?_some h.found
      simp only [Bool.and_eq_true] at hshape
      exact hshape.2
    have hpayment := hold payment (List.mem_of_find?_eq_some h.found)
    obtain ⟨hcredits, hreversals⟩ := FilingFile.reversals_middle hsplit hpayments hcredit h.completed
    refine ⟨fun p hp => ?_, ?_, ?_⟩
    · rw [hpayments] at hp
      rcases List.mem_append.1 hp with hp | hp
      · exact hold p (hsplit ▸ List.mem_append_left _ hp)
      rcases List.mem_cons.1 hp with rfl | hp
      · exact {
          payer := hpayment.payer
          positive := hpayment.positive
          real := hpayment.real
          portal := fun hportal => by simp [Payment.isCredit] at hportal hcredit; simp [hportal] at hcredit
          credit := fun _ => ⟨.inr rfl, (hpayment.credit hcredit).2⟩ }
      · exact hold p (hsplit ▸ List.mem_append_right _ (List.mem_cons_of_mem _ hp))
    · rw [hrecorded, hI.recorded, hcredits]
    · rw [hreversed]
      have hboth := (hI.reversed.append_right [payment.booking]).trans (List.perm_append_singleton _ _)
      exact hboth.trans hreversals.symm

variable {w₀ w w' : PortalWorld}

/-- **Payments and ledger agree.** -/
theorem Run.paymentsSound (h : Run cfg w₀ w) : ∀ f file, w.db (.envelope f) = some file → file.PaymentsSound cfg := by
  refine h.file_invariant ?_ ?_
  · intro w sid s a f userId data key file' _ _ hnew
    rw [hnew.file_eq]
    refine ⟨fun p hp => ?_, rfl, .nil⟩
    cases hp
  · intro w sid s a f file file' hrun hc hfile hI hstep
    exact hstep.payment.sound hstep.grows.fixed (hrun.wellFormed f file hfile).payments hI

/-! ## The paid amount -/

theorem cents_split {filing : FilingEnvelope} {ps : List Payment} (hsound : ∀ p ∈ ps, p.Sound cfg filing) :
    ((ps.filter (Payment.counts cfg filing.filerId)).map Payment.amountCents).sum +
        ((ps.filter fun p => p.isCredit && p.status == .reversed).map Payment.amountCents).sum =
      ((ps.filter fun p => !p.isCredit && p.status == .completed).map Payment.amountCents).sum +
        ((ps.filter Payment.isCredit).map Payment.amountCents).sum := by
  induction ps with
  | nil => rfl
  | cons p ps ih =>
    have hp := hsound p List.mem_cons_self
    have hps := ih fun q hq => hsound q (List.mem_cons_of_mem _ hq)
    simp only [List.filter_cons, hp.counts]
    cases hcredit : p.isCredit with
    | false =>
      simp only [(hp.portal hcredit).1, beq_self_eq_true, Bool.not_false, Bool.true_and, Bool.false_and, if_true,
        List.map_cons, List.sum_cons]
      simp only [Bool.false_eq_true, if_false]
      rw [Nat.add_assoc, hps, Nat.add_assoc]
    | true =>
      rcases (hp.credit hcredit).1 with hstatus | hstatus
      · simp only [hstatus, beq_self_eq_true, Bool.not_true, Bool.false_and, Bool.true_and, if_true, List.map_cons,
          List.sum_cons]
        rw [if_neg (by decide), if_neg (by decide), Nat.add_assoc, hps, Nat.add_left_comm]
      · simp only [hstatus, beq_self_eq_true, Bool.not_true, Bool.false_and, Bool.true_and, if_true, List.map_cons,
          List.sum_cons]
        rw [if_neg (by decide), if_neg (by decide), Nat.add_left_comm, hps, Nat.add_left_comm]

theorem centsOf_bookings (ps : List Payment) :
    ((ps.map Payment.booking).map centsOf).sum = (ps.map Payment.amountCents).sum := by
  rw [List.map_map]
  rfl

/-- **The paid amount, from the ledger.** -/
theorem FilingFile.PaymentsSound.paid_eq (h : file.PaymentsSound cfg) :
    paidCents cfg file + file.bookedCents .feePaymentReversed =
      file.portalCents + file.bookedCents .feePaymentRecorded := by
  have hrecorded : file.bookedCents .feePaymentRecorded = (file.credits.map Payment.amountCents).sum := by
    rw [FilingFile.bookedCents, h.recorded, centsOf_bookings]
  have hreversed : file.bookedCents .feePaymentReversed = (file.reversals.map Payment.amountCents).sum := by
    rw [FilingFile.bookedCents, (h.reversed.map centsOf).sum_nat, centsOf_bookings]
  rw [hrecorded, hreversed]
  exact cents_split h.sound

/-- The payments that the transactions of this event name, without their amounts. -/
def FilingFile.bookedPayments (file : FilingFile) (event : EventType) : List (Option PaymentId) :=
  (file.bookings event).map (Option.map Prod.fst)

theorem bookings_ids (ps : List Payment) :
    (ps.map Payment.booking).map (Option.map Prod.fst) = (ps.map Payment.id).map some := by
  rw [List.map_map, List.map_map]
  rfl

/-- **Every credit is recorded once, and reversed once if and only if it is reversed.** -/
theorem FilingFile.PaymentsSound.once (h : file.PaymentsSound cfg) (hnodup : (file.payments.map Payment.id).Nodup)
    {p : Payment} (hp : p ∈ file.payments) (hcredit : p.isCredit = true) :
    (file.bookedPayments .feePaymentRecorded).count (some p.id) = 1 ∧
      (file.bookedPayments .feePaymentReversed).count (some p.id) = if p.status = .reversed then 1 else 0 := by
  have hcount : ∀ q : Payment → Bool,
      (((file.payments.filter q).map Payment.id).map some).count (some p.id) = if q p = true then 1 else 0 := by
    intro q
    rw [List.count_map_of_injective _ _ fun _ _ => Option.some.inj]
    have hsub : ((file.payments.filter q).map Payment.id).Nodup := hnodup.sublist (List.filter_sublist.map _)
    split
    · rename_i hq
      exact List.count_eq_one_of_mem hsub (List.mem_map_of_mem (List.mem_filter.2 ⟨hp, hq⟩))
    · rename_i hq
      rw [List.count_eq_zero]
      intro hmem
      obtain ⟨p', hp', hid⟩ := List.mem_map.1 hmem
      obtain ⟨hp', hq'⟩ := List.mem_filter.1 hp'
      rw [List.inj_on_of_nodup_map hnodup hp' hp hid] at hq'
      exact hq hq'
  constructor
  · rw [FilingFile.bookedPayments, h.recorded, bookings_ids, FilingFile.credits, hcount, if_pos hcredit]
  · rw [FilingFile.bookedPayments, (h.reversed.map _).count_eq, bookings_ids, FilingFile.reversals, hcount]
    simp [hcredit]

/-! ## The total in force -/

theorem paid_concat {p : Payment} (hfiler : file'.filing.filerId = file.filing.filerId)
    (hpayments : file'.payments = file.payments ++ [p]) (hcounts : p.counts cfg file.filing.filerId = true) :
    paidCents cfg file' = paidCents cfg file + p.amountCents := by
  simp [paidCents, hfiler, hpayments, hcounts]

theorem paid_reversed {before after : List Payment} {p : Payment}
    (hfiler : file'.filing.filerId = file.filing.filerId) (h : file.payments = before ++ p :: after)
    (h' : file'.payments = before ++ { p with status := .reversed } :: after) :
    paidCents cfg file' ≤ paidCents cfg file := by
  have hnot : ({ p with status := .reversed } : Payment).counts cfg file.filing.filerId = false := by
    simp [Payment.counts]
  rw [paidCents, paidCents, hfiler, h, h', List.filter_append, List.filter_append, List.filter_cons, List.filter_cons,
    hnot]
  simp only [Bool.false_eq_true, if_false, List.map_append, List.sum_append]
  refine Nat.add_le_add_left ?_ _
  split
  · exact Nat.le_add_left _ _
  · exact Nat.le_refl _

theorem paid_le_total {caseType caseType' : Option CaseType} {amount : Cents} (hpositive : 0 < amount)
    (hdue : ∃ due, (feeState cfg file caseType none).balanceDueCents = some due ∧ amount ≤ due)
    (hprice : pricing cfg file' caseType' = pricing cfg file caseType)
    (hpaid : paidCents cfg file' = paidCents cfg file + amount) :
    ∃ total, (feeState cfg file' caseType' none).totalCents = some total ∧ paidCents cfg file' ≤ total := by
  obtain ⟨due, hdue, hle⟩ := hdue
  have hbalance : (pricing cfg file caseType).totalCents.map (· - paidCents cfg file) = some due := hdue
  obtain ⟨total, htotal, hdiff⟩ := Option.map_eq_some_iff.1 hbalance
  refine ⟨total, ?_, ?_⟩
  · rw [← htotal, ← hprice]
    rfl
  · rw [hpaid]
    have hsub : amount ≤ total - paidCents cfg file := hdiff ▸ hle
    have hlt : paidCents cfg file < total := Nat.lt_of_sub_pos (Nat.lt_of_lt_of_le hpositive hsub)
    exact Nat.add_comm _ _ ▸ (Nat.le_sub_iff_add_le hlt.le).1 hsub

/-- **No payment or credit takes the paid amount above the total in force.** -/
theorem Run.paid_within (h : Run cfg w₀ w) {sid : Nat} {s : Session View Failure Response Request} {a : Response}
    (hc : Commits (portal cfg) w sid s a) (hfile : w.db (.envelope f) = some file)
    (hfile' : (w.committed sid s a).db (.envelope f) = some file')
    (hraised : paidCents cfg file < paidCents cfg file') :
    ∃ total, (feeState cfg file' ((w.committed sid s a).db (.caseType file'.filing.caseTypeId)) none).totalCents =
      some total ∧ paidCents cfg file' ≤ total := by
  rcases h.changes hc (.envelope f) with heq | ⟨file₂, hfile₂, ⟨userId, data, key, hnew⟩ | ⟨file₁, hfile₁, hstep⟩⟩
  · have hsame : (w.committed sid s a).db (.envelope f) = w.db (.envelope f) := heq
    rw [hfile, hfile'] at hsame
    rw [Option.some.inj hsame] at hraised
    exact absurd hraised (Nat.lt_irrefl _)
  · exact absurd (h.created_none hc hnew) (by simp [hfile])
  · cases hfile.symm.trans hfile₁
    cases hfile'.symm.trans hfile₂
    have hfiler := hstep.grows.fixed.filerId
    cases hstep.payment with
    | same hpayments hledger =>
      have hpaid : paidCents cfg file' = paidCents cfg file := by rw [paidCents, paidCents, hpayments, hfiler]
      exact absurd hraised (by rw [hpaid]; exact Nat.lt_irrefl _)
    | paid userId caseType payment hpay hpayments hledger hversion hreview =>
      refine paid_le_total hpay.positive ⟨_, hpay.due, Nat.le_refl _⟩
        (h.pricing_now hc hpay.priced hstep hversion hreview) (paid_concat hfiler hpayments ?_)
      rw [hpay.sound.1.counts, hpay.completed]
      rfl
    | credited userId key data account caseType basis id hcredit hpayments hrecorded hreversed hversion hreview =>
      refine paid_le_total data.positive hcredit.due (h.pricing_now hc hcredit.priced hstep hversion hreview)
        (paid_concat hfiler hpayments ?_)
      rw [externalCredit_sound.counts]
      rfl
    | reversed userId paymentId payment hrev hpayments hrecorded hreversed =>
      obtain ⟨before, after, hsplit, hset⟩ :=
        FilingFile.setStatus_reversed (h.wellFormed f file hfile).payments hrev.found
      exact absurd hraised (Nat.not_lt.2 (paid_reversed hfiler hsplit (hpayments.trans hset)))

/-! ## External receipts -/

/-- The index entry of every completed credit's receipt leads to the credit. -/
def ReceiptsHeld (db : Store) : Prop :=
  ∀ f file p k, db (.envelope f) = some file → p ∈ file.payments → p.status = .completed →
    p.externalReceiptKey = some k → ∃ ref, db (.externalReceipt k) = some ref ∧ ref.envelopeId = f ∧
    ref.paymentId = p.id

theorem mem_setStatus {id : PaymentId} {status : PaymentStatus} {p : Payment}
    (hp : p ∈ (file.setStatus id status).payments) (hstatus : p.status ≠ status) : p ∈ file.payments := by
  obtain ⟨q, hq, rfl⟩ := List.mem_map.1 hp
  split at hstatus
  · exact absurd rfl hstatus
  · rename_i hne
    rwa [if_neg hne]

theorem PaymentChange.completed (h : PaymentChange cfg r db db' tr f file file') {p : Payment} (hp : p ∈ file'.payments)
    (hstatus : p.status = .completed) {k : ReceiptKey} (hk : p.externalReceiptKey = some k) :
    p ∈ file.payments ∨ ∃ ref, db' (.externalReceipt k) = some ref ∧ ref.envelopeId = f ∧ ref.paymentId = p.id := by
  cases h with
  | same hpayments hledger => exact .inl (hpayments ▸ hp)
  | paid userId caseType payment h hpayments hledger hversion hreview =>
    rw [hpayments] at hp
    rcases List.mem_append.1 hp with hp | hp
    · exact .inl hp
    · cases List.mem_singleton.1 hp
      rw [h.notExternal.2] at hk
      cases hk
  | credited userId key data account caseType basis id h hpayments hrecorded hreversed hversion hreview =>
    rw [hpayments] at hp
    rcases List.mem_append.1 hp with hp | hp
    · exact .inl hp
    · cases List.mem_singleton.1 hp
      cases hk
      exact .inr ⟨_, h.receiptTaken, rfl, rfl⟩
  | reversed userId paymentId payment h hpayments hrecorded hreversed =>
    exact .inl (mem_setStatus (hpayments ▸ hp) (by rw [hstatus]; decide))

/-- **An external receipt leads to its credit until that is reversed.** -/
theorem Run.receiptsHeld (h : Run cfg w₀ w) : ReceiptsHeld w.db := by
  have h₀ : ReceiptsHeld w₀.db := by
    intro f file p k hfile
    rw [h.start.envelope f] at hfile
    cases hfile
  refine Run.store_since ⟨h.start, .refl⟩ h₀ ?_ ?_ h.steps
  · intro db db' heq hI f file p k hfile
    rw [heq (.envelope f) rfl] at hfile
    rw [heq (.externalReceipt k) rfl]
    exact hI f file p k hfile
  · intro w sid s a hrun _ hc hI hchanges f file' p k hfile' hp hstatus hk
    have hkept : ∀ file, w.db (.envelope f) = some file → p ∈ file.payments →
        ∃ ref, commit s.trace w.db (.externalReceipt k) = some ref ∧ ref.envelopeId = f ∧ ref.paymentId = p.id := by
      intro file hfile hp₀
      obtain ⟨ref, hentry, href, hid⟩ := hI f file p k hfile hp₀ hstatus hk
      rcases hchanges (.externalReceipt k) with heq | ⟨ref', _, hnone⟩ | ⟨_, f₁, file₁, q, hfile₁, hq,
        hdone, hqk, file₁', hfile₁', hrev⟩
      · exact ⟨ref, heq.trans hentry, href, hid⟩
      · rw [hnone] at hentry
        cases hentry
      · obtain ⟨ref', hentry', href', hid'⟩ := hI f₁ file₁ q k hfile₁ hq hdone hqk
        cases hentry.symm.trans hentry'
        cases href.symm.trans href'
        cases hfile'.symm.trans hfile₁'
        have hreversed := hrev p hp (hid.symm.trans hid')
        rw [hstatus] at hreversed
        cases hreversed
    rcases hchanges (.envelope f) with heq | ⟨file₂, hfile₂, ⟨userId, data, key, hnew⟩ | ⟨file, hfile, hstep⟩⟩
    · exact hkept file' (heq ▸ hfile') hp
    · cases hfile'.symm.trans hfile₂
      rw [hnew.file_eq] at hp
      cases hp
    · cases hfile'.symm.trans hfile₂
      rcases hstep.payment.completed hp hstatus hk with hold | hnew
      · exact hkept file hfile hold
      · exact hnew

/-- The text consists of these words, with white space between them and perhaps at its ends. -/
inductive ConsistsOf : List Char → List (List Char) → Prop where
  | blank {gap : List Char} (hgap : ∀ c ∈ gap, isSpace c = true) : ConsistsOf gap []
  | word {gap word rest : List Char} {words : List (List Char)} (hgap : ∀ c ∈ gap, isSpace c = true) (hne : word ≠ [])
      (hword : ∀ c ∈ word, isSpace c = false) (hnext : ∀ c ∈ rest.head?, isSpace c = true) (h : ConsistsOf rest words) :
      ConsistsOf (gap ++ word ++ rest) (word :: words)

/-- The same text up to letter case and spacing. -/
def SameText (cfg : Settings) (text text' : String) : Prop :=
  ∃ words, ConsistsOf (cfg.casefold text).toList words ∧ ConsistsOf (cfg.casefold text').toList words

/-- The same receipt, up to letter case and spacing. -/
structure SameReceipt (cfg : Settings) (receipt receipt' : ExternalReceipt) : Prop where
  system : SameText cfg receipt.system receipt'.system
  reference : SameText cfg receipt.reference receipt'.reference

theorem splitOnP_gap {gap : List Char} (hgap : ∀ c ∈ gap, isSpace c = true) (rest : List Char) :
    ((gap ++ rest).splitOnP isSpace).filter (· ≠ []) = (rest.splitOnP isSpace).filter (· ≠ []) := by
  induction gap with
  | nil => rfl
  | cons c gap ih =>
    obtain ⟨hc, hgap⟩ := List.forall_mem_cons.1 hgap
    rw [List.cons_append, List.splitOnP_cons_eq_if_modifyHead, if_pos hc, List.filter_cons_of_neg (by simp), ih hgap]

theorem ConsistsOf.splitOnP_eq {text : List Char} {words : List (List Char)} (h : ConsistsOf text words) :
    (text.splitOnP isSpace).filter (· ≠ []) = words := by
  induction h with
  | @blank gap hgap =>
    have hsplit := splitOnP_gap hgap []
    rw [List.append_nil] at hsplit
    rw [hsplit]
    rfl
  | @word gap word rest words hgap hne hword hnext _ ih =>
    rw [List.append_assoc, splitOnP_gap hgap]
    cases rest with
    | nil =>
      rw [List.append_nil, List.splitOnP_eq_singleton hword, List.filter_cons_of_pos (by simpa using hne), ← ih]
      rfl
    | cons c rest =>
      have hc := hnext c rfl
      rw [List.splitOnP_append_cons_of_forall_mem hword c hc, List.filter_cons_of_pos (by simpa using hne), ← ih,
        List.splitOnP_cons_eq_if_modifyHead, if_pos hc, List.filter_cons_of_neg (by simp)]

theorem SameText.spaced_eq {text text' : String} (h : SameText cfg text text') :
    spaced (cfg.casefold text) = spaced (cfg.casefold text') := by
  obtain ⟨words, hwords, hwords'⟩ := h
  rw [spaced, spaced, split, split, hwords.splitOnP_eq, hwords'.splitOnP_eq]

/-- **A receipt is credited once in its court.** -/
theorem Run.credit_unique (h : Run cfg w₀ w) {f' : FilingId} (hfile : w.db (.envelope f) = some file)
    (hfile' : w.db (.envelope f') = some file') {p p' : Payment} (hp : p ∈ file.payments) (hp' : p' ∈ file'.payments)
    (hcredit : p.isCredit = true) (hcredit' : p'.isCredit = true) (hstatus : p.status ≠ .reversed)
    (hstatus' : p'.status ≠ .reversed) {receipt receipt' : ExternalReceipt} (hr : p.externalReceipt = some receipt)
    (hr' : p'.externalReceipt = some receipt') (hcourt : file.filing.courtId = file'.filing.courtId)
    (hsame : SameReceipt cfg receipt receipt') : f = f' ∧ p = p' := by
  have hkey : ∀ {f : FilingId} {file : FilingFile} {p : Payment} {receipt : ExternalReceipt},
      w.db (.envelope f) = some file → p ∈ file.payments → p.isCredit = true → p.status ≠ .reversed →
      p.externalReceipt = some receipt → ∃ ref, ref.envelopeId = f ∧ ref.paymentId = p.id ∧
        w.db (.externalReceipt (receiptKey cfg file.filing.courtId receipt.system receipt.reference)) = some ref := by
    intro f file p receipt hfile hp hcredit hstatus hr
    obtain ⟨hcases, receipt₁, hr₁, hk⟩ := ((h.paymentsSound f file hfile).sound p hp).credit hcredit
    cases hr.symm.trans hr₁
    obtain ⟨ref, hentry, href, hid⟩ := h.receiptsHeld f file p _ hfile hp (hcases.resolve_right hstatus) hk
    exact ⟨ref, href, hid, hentry⟩
  obtain ⟨ref, href, hid, hentry⟩ := hkey hfile hp hcredit hstatus hr
  obtain ⟨ref', href', hid', hentry'⟩ := hkey hfile' hp' hcredit' hstatus' hr'
  rw [receiptKey, hcourt, hsame.system.spaced_eq, hsame.reference.spaced_eq] at hentry
  cases hentry.symm.trans hentry'
  cases href.symm.trans href'
  cases hfile.symm.trans hfile'
  exact ⟨rfl, List.inj_on_of_nodup_map (h.wellFormed f file hfile).payments hp hp' (hid.symm.trans hid')⟩

/-! ## Replays -/

theorem Run.requested_kept (h : Run cfg w₀ w) (hs : Steps (portal cfg) w w') {key : Uuid}
    (hsome : (w.db (.externalRequest key)).isSome = true) : (w'.db (.externalRequest key)).isSome = true := by
  refine h.row_since (g := .externalRequest key) rfl (I := fun v : Option CreditRef => v.isSome = true) hsome ?_ hs
  rintro w₁ sid s a _ _ _ _ ⟨ref, hnew, _⟩
  rw [hnew]
  rfl

/-- **A request key is used for one credit:** a later request with it changes nothing. -/
theorem Run.credit_replayed (h : Run cfg w₀ w) {sid sid' : Nat} {s s' : Session View Failure Response Request}
    {a a' : Response} {userId userId' : UserId} {f' : FilingId} {key : Uuid} {data data' : ExternalPaymentRequest}
    (hc : Commits (portal cfg) w sid s a) (hr : s.request = .recordExternalPayment userId f key data)
    (hs : Steps (portal cfg) (w.committed sid s a) w') (hc' : Commits (portal cfg) w' sid' s' a')
    (hr' : s'.request = .recordExternalPayment userId' f' key data') : (w'.committed sid' s' a').db = w'.db := by
  have hafter : ((w.committed sid s a).db (.externalRequest key)).isSome = true := by
    have hprogram : (portal cfg).program s.request = recordExternalPayment cfg userId f key data := by rw [hr]; rfl
    have honce := recordExternalPayment_once _ _ (hprogram ▸ hc.ends) (h.guarded.current _ _ hc.found hc.running)
    rcases honce with ⟨_, ref, hlook⟩ | ⟨_, hsome⟩
    · obtain ⟨w₁, hs₁, hs₁', hval⟩ := h.steps.looked_at h.start.idle hc.found hlook
      have h₁ : Run cfg w₀ w₁ := ⟨h.start, hs₁⟩
      exact h₁.requested_kept (hs₁'.tail (.commit sid s a hc)) (by rw [← hval]; rfl)
    · exact hsome
  have hrun := (h.tail (.commit sid s a hc)).trans hs
  have hsome := (h.tail (.commit sid s a hc)).requested_kept hs hafter
  have hprogram : (portal cfg).program s'.request = recordExternalPayment cfg userId' f' key data' := by rw [hr']; rfl
  have honce := recordExternalPayment_once _ _ (hprogram ▸ hc'.ends) (hrun.guarded.current _ _ hc'.found hc'.running)
  rcases honce with ⟨hquiet, _⟩ | ⟨hnone, _⟩
  · exact hquiet.commit w'.db
  · rw [hnone] at hsome
    cases hsome

def FilingFile.Reversed (file : FilingFile) (paymentId : PaymentId) : Prop :=
  ∃ p ∈ file.payments, p.id = paymentId ∧ p.externalRequestKey.isSome = true ∧ p.status = .reversed

theorem PaymentChange.reversed_kept (h : PaymentChange cfg r db db' tr f file file') {paymentId : PaymentId}
    (hI : file.Reversed paymentId) : file'.Reversed paymentId := by
  obtain ⟨p, hp, hid, hcredit, hstatus⟩ := hI
  cases h with
  | same hpayments hledger => exact ⟨p, hpayments ▸ hp, hid, hcredit, hstatus⟩
  | paid userId caseType payment h hpayments hledger hversion hreview =>
    exact ⟨p, hpayments ▸ List.mem_append_left _ hp, hid, hcredit, hstatus⟩
  | credited userId key data account caseType basis id h hpayments hrecorded hreversed hversion hreview =>
    exact ⟨p, hpayments ▸ List.mem_append_left _ hp, hid, hcredit, hstatus⟩
  | reversed userId paymentId' payment h hpayments hrecorded hreversed =>
    refine ⟨if p.id = paymentId' then { p with status := .reversed } else p, ?_, ?_⟩
    · rw [hpayments]
      exact List.mem_map_of_mem hp
    · split
      · exact ⟨hid, hcredit, rfl⟩
      · exact ⟨hid, hcredit, hstatus⟩

/-- **A credit is reversed once:** a later request to reverse it changes nothing. -/
theorem Run.reversal_replayed (h : Run cfg w₀ w) {sid sid' : Nat} {s s' : Session View Failure Response Request}
    {a a' : Response} {userId userId' : UserId} {paymentId : PaymentId} {data data' : ExternalPaymentReversal}
    (hc : Commits (portal cfg) w sid s a) (hr : s.request = .reverseExternalPayment userId f paymentId data)
    (hs : Steps (portal cfg) (w.committed sid s a) w') (hc' : Commits (portal cfg) w' sid' s' a')
    (hr' : s'.request = .reverseExternalPayment userId' f paymentId data') : (w'.committed sid' s' a').db = w'.db := by
  have hprogram : (portal cfg).program s.request = reverseExternalPayment cfg userId f paymentId data := by rw [hr]; rfl
  obtain ⟨_, _, _, _, _, file, hfile, hreversed⟩ :=
    reverseExternalPayment_once _ _ (hprogram ▸ hc.ends) (h.guarded.current _ _ hc.found hc.running)
  have h₁ := h.tail (.commit sid s a hc)
  obtain ⟨file₁, hfile₁, p, hp, hid, hcredit, hstatus⟩ := h₁.file_since (I := fun file => file.Reversed paymentId) hfile
    hreversed (fun _ _ _ _ _ _ _ _ _ _ hI hstep => hstep.payment.reversed_kept hI) hs
  have hrun := h₁.trans hs
  have hprogram' : (portal cfg).program s'.request = reverseExternalPayment cfg userId' f paymentId data' := by
    rw [hr']; rfl
  obtain ⟨file₂, payment, hfile₂, hfound, hquiet, _⟩ :=
    reverseExternalPayment_once _ _ (hprogram' ▸ hc'.ends) (hrun.guarded.current _ _ hc'.found hc'.running)
  cases hfile₁.symm.trans hfile₂
  have hshape := List.find?_some hfound
  simp only [Bool.and_eq_true, beq_iff_eq] at hshape
  have hsame := List.inj_on_of_nodup_map (hrun.wellFormed f file₁ hfile₁).payments (List.mem_of_find?_eq_some hfound) hp
    (hshape.1.trans hid.symm)
  exact (hquiet (hsame ▸ hstatus)).commit w'.db

/-! ## The law -/

/-- **Payments and ledger agree in every run.** No commit takes a paid amount above the total in force; the paid amount
is that of the completed portal payments and of the ledger; every credit is recorded once, and reversed once if it is
reversed; a receipt has one credit that is not reversed; and a replay changes nothing. -/
theorem Run.ledger_balanced (h : Run cfg w₀ w) :
    (∀ sid s a f file file', Commits (portal cfg) w sid s a → w.db (.envelope f) = some file →
      (w.committed sid s a).db (.envelope f) = some file' → paidCents cfg file < paidCents cfg file' →
      ∃ total, (feeState cfg file' ((w.committed sid s a).db (.caseType file'.filing.caseTypeId)) none).totalCents =
        some total ∧ paidCents cfg file' ≤ total) ∧
    (∀ f file, w.db (.envelope f) = some file →
      (∀ caseType viewer, ((feeState cfg file caseType viewer).paidCents : Int) =
        file.portalCents + file.bookedCents .feePaymentRecorded - file.bookedCents .feePaymentReversed) ∧
      ∀ p ∈ file.payments, p.isCredit = true → (file.bookedPayments .feePaymentRecorded).count (some p.id) = 1 ∧
        (file.bookedPayments .feePaymentReversed).count (some p.id) = if p.status = .reversed then 1 else 0) ∧
    (∀ f f' file file' p p' receipt receipt', w.db (.envelope f) = some file → w.db (.envelope f') = some file' →
      p ∈ file.payments → p' ∈ file'.payments → p.isCredit = true → p'.isCredit = true → p.status ≠ .reversed →
      p'.status ≠ .reversed → p.externalReceipt = some receipt → p'.externalReceipt = some receipt' →
      file.filing.courtId = file'.filing.courtId → SameReceipt cfg receipt receipt' → f = f' ∧ p = p') ∧
    ∀ sid s a w' sid' s' a', Commits (portal cfg) w sid s a → Steps (portal cfg) (w.committed sid s a) w' →
      Commits (portal cfg) w' sid' s' a' →
      (∀ userId userId' f f' key data data', s.request = .recordExternalPayment userId f key data →
        s'.request = .recordExternalPayment userId' f' key data' → (w'.committed sid' s' a').db = w'.db) ∧
      ∀ userId userId' f paymentId data data', s.request = .reverseExternalPayment userId f paymentId data →
        s'.request = .reverseExternalPayment userId' f paymentId data' → (w'.committed sid' s' a').db = w'.db := by
  refine ⟨?_, fun f file hfile => ⟨fun caseType viewer => ?_, fun p hp hcredit => ?_⟩, ?_, ?_⟩
  · exact fun sid s a f file file' hc hfile hfile' hraised => h.paid_within hc hfile hfile' hraised
  · have hpaid := (h.paymentsSound f file hfile).paid_eq
    have hsum : (paidCents cfg file : Int) + file.bookedCents .feePaymentReversed =
        file.portalCents + file.bookedCents .feePaymentRecorded := by
      exact_mod_cast hpaid
    exact (Int.sub_eq_iff_eq_add.2 hsum.symm).symm
  · exact (h.paymentsSound f file hfile).once (h.wellFormed f file hfile).payments hp hcredit
  · intro f f' file file' p p' receipt receipt' hfile hfile' hp hp' hcredit hcredit' hstatus hstatus' hr
      hr' hcourt hsame
    exact h.credit_unique hfile hfile' hp hp' hcredit hcredit' hstatus hstatus' hr hr' hcourt hsame
  · intro sid s a w' sid' s' a' hc hs hc'
    exact ⟨fun _ _ _ _ _ _ _ hr hr' => h.credit_replayed hc hr hs hc' hr',
      fun _ _ _ _ _ _ hr hr' => h.reversal_replayed hc hr hs hc' hr'⟩

/-! ## A small portal -/

/-- The demonstration settings, for a court that enters payments from its counter. -/
def Settings.counter : Settings := { Settings.demo with externalPaymentsEnabled := true }

theorem counterPayment_pos : (0 : Cents) < 17500 := by decide

/-- A filing whose fee was paid at the counter; the payment has the number 16. -/
def creditRequests : List (Instant × Request) := [
  (1000, .createFiling 1 smallDraft 7),
  (2000, .uploadDocument 1 10 8 ⟨"COMPLAINT", "Complaint", false⟩ smallUpload),
  (3000, .assessFees 2 10 ⟨1, "Fee schedule", "Filing fee", [⟨"filing", 17500, "Civil filing fee"⟩]⟩),
  (4000, .recordExternalPayment 2 10 9 ⟨2, 0, 17500, "Counter", "R-1", 3500, "Paid at the counter",
    counterPayment_pos, by decide⟩),
  (5000, .reverseExternalPayment 2 10 16 ⟨1, "Entered on the wrong filing", by decide⟩)]

def creditedWorld : PortalWorld := smallWorld.serveAll (portal .counter) 0 creditRequests

theorem creditedWorld_run : Run .counter smallWorld creditedWorld :=
  Run.serveAll smallWorld_initial (by decide +kernel)

/-- The credit of the small portal is recorded once and reversed once, and nothing is paid. -/
theorem Run.ledger_balanced_credited : ∃ file p, creditedWorld.db (.envelope 10) = some file ∧ p ∈ file.payments ∧
    p.isCredit = true ∧ p.status = .reversed ∧ (file.bookedPayments .feePaymentRecorded).count (some p.id) = 1 ∧
    (file.bookedPayments .feePaymentReversed).count (some p.id) = (if p.status = .reversed then 1 else 0) ∧
    ((feeState .counter file none none).paidCents : Int) =
      file.portalCents + file.bookedCents .feePaymentRecorded - file.bookedCents .feePaymentReversed := by
  have hfile : (creditedWorld.db (.envelope 10)).any (fun file =>
      file.payments.any fun p => p.isCredit && p.status == .reversed) = true := by
    decide +kernel
  obtain ⟨file, hfile, hany⟩ := (Option.any_eq_true _ _).1 hfile
  obtain ⟨p, hp, hshape⟩ := List.any_eq_true.1 hany
  obtain ⟨hcredit, hstatus⟩ := Bool.and_eq_true_iff.1 hshape
  obtain ⟨hpaid, honce⟩ := (Run.ledger_balanced creditedWorld_run).2.1 10 file hfile
  exact ⟨file, p, hfile, hp, hcredit, eq_of_beq hstatus, (honce p hp hcredit).1, (honce p hp hcredit).2,
    hpaid none none⟩

end Muefs
