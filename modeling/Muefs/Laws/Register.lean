import Muefs.Laws.Delivery
import Muefs.Laws.Payments
import Muefs.Laws.Publication
import Muefs.Portal.Register

/-!
# The payment register of a court

* `LedgerStep`, `FileStep.ledger` : a step enters at most one credit or reversal, with all that the register prints;
* `FilingFile.Entered`, `Run.entered`, `Run.ledgerApart` : the entries of every filing, under numbers of their own;
* `Tables.balance` : credits less reversals are the completed credits;
* `Cut`, `Tables.cut_perm` : the registers of consecutive ranges have every event of the period once;
* `Tables.registerBetween_json`, `Tables.registerBetween_csv` : pages, totals and rows show the same entries;
* `LedgerEvent.Describes`, `CsvRow` : what an entry says of its event, and a row of its entry;
* `Run.registers` : the law.
-/

namespace Muefs
open RowLocks Listings

variable {cfg : Settings} {r : Request} {db db' : Store} {tr : Trace} {f : FilingId} {file file' : FilingFile}

/-! ## One step -/

/-- What the register prints of a credit or a reversal. -/
structure FilingTransaction.Printable (simulated : Bool) (t : FilingTransaction) (p : PaymentSnapshot) : Prop where
  payment : t.details.payment = some p
  receipt : p.externalReceipt.isSome = true
  reason : t.details.reason.isSome = true
  simulated : p.isSimulated = simulated

def Request.ledgerFiling : Request → Option FilingId
  | .recordExternalPayment _ f _ _ | .reverseExternalPayment _ f _ _ => some f
  | _ => none

/-- What a step does to credits, reversals, and the credits among the payments. -/
inductive LedgerStep (cfg : Settings) (r : Request) (tr : Trace) (f : FilingId) (file file' : FilingFile) : Prop where
  | same (hevents : file'.events EventType.isLedger = file.events EventType.isLedger)
  | entered (t : FilingTransaction) (p : PaymentSnapshot)
      (hevents : file'.events EventType.isLedger = file.events EventType.isLedger ++ [t])
      (hdrew : ⟨.fresh, t.id⟩ ∈ tr) (hrequest : r.ledgerFiling = some f) (hprints : t.Printable p.isSimulated p)
      (hsimulated : p.isSimulated = cfg.allowDemoMode ∨
        ∃ payment ∈ file.payments, payment.isCredit = true ∧ p.isSimulated = payment.isSimulated)

theorem Recorded.ledger {base : FilingFile} {event : EventType} {actorId : UserId} {key : Option Uuid}
    {details : Details} {t : FilingTransaction} (h : Recorded cfg tr base event actorId key details file' t)
    (hbase : base.events EventType.isLedger = file.events EventType.isLedger) (hevent : event.isLedger = false) :
    LedgerStep cfg r tr f file file' :=
  .same ((h.events_eq hevent).trans hbase)

/-- **What a step does to the ledger.** The credits among the payments must name their receipts. -/
theorem FileStep.ledger (h : FileStep cfg r db db' tr f file file')
    (hsound : ∀ p ∈ file.payments, p.Sound cfg file.filing) : LedgerStep cfg r tr f file file' := by
  cases h with
  | edited | uploaded | retired | erased | copyPrepared => exact .same rfl
  | credited userId key data account caseType basis id snapshot t _ hr h hid hamount hrec =>
    obtain ⟨why, hdetails⟩ := hrec.kept rfl (by decide)
    refine .entered t snapshot (hrec.events_concat rfl) hrec.drew (by rw [hr]; rfl) ?_ (.inl hamount.2.1)
    exact ⟨by rw [hdetails], hamount.2.2.1, hamount.2.2.2, rfl⟩
  | reversed userId paymentId data payment snapshot t _ hr h hid hamount hrec =>
    obtain ⟨why, hdetails⟩ := hrec.kept rfl (by decide)
    have hmem := List.mem_of_find?_eq_some h.found
    have hcredit : payment.isCredit = true := by
      have hshape := List.find?_some h.found
      simp only [Bool.and_eq_true] at hshape
      exact hshape.2
    obtain ⟨_, receipt, hreceipt, _⟩ := (hsound payment hmem).credit hcredit
    refine .entered t snapshot (hrec.events_concat rfl) hrec.drew (by rw [hr]; rfl) ?_
      (.inr ⟨payment, hmem, hcredit, hamount.2.1⟩)
    exact ⟨by rw [hdetails], by rw [hamount.2.2.1, hreceipt]; rfl, hamount.2.2.2, rfl⟩
  | accepted userId count time receivedAt seen order dated caseId a b t _ hr h hacc hreceived hdated hcase hrec =>
    exact hrec.ledger (hdated.events_eq rfl) rfl
  | cmsFailed userId count time receivedAt seen order dated error t _ hr h hacc hreceived hdated hrec =>
    exact hrec.ledger (hdated.events_eq rfl) rfl
  | submitted userId key token seen caseType time date basis t _ hr h hdate hrec =>
    refine hrec.ledger rfl ?_
    unfold FilingEnvelope.receiptEvent
    split <;> rfl
  | declined userId count action time status event reason t _ hr h haction hrec =>
    refine hrec.ledger rfl ?_
    obtain ⟨_, _, rfl⟩ | ⟨_, _, rfl⟩ := haction <;> rfl
  | waiverDecided userId form time doc due t _ hr haction h hrec =>
    refine hrec.ledger rfl ?_
    cases form.action <;> rfl
  | feesAssessed userId data a time t saved hr h hrec =>
    exact .same (hrec.events_eq rfl)
  | paid _ _ _ _ _ _ _ _ _ _ hrec | feeReviewRequested _ _ _ _ _ _ _ hrec | waiverReferred _ _ _ _ _ _ _ _ hrec
  | dateOrdered _ _ _ _ _ _ _ _ hrec | published _ _ _ _ _ _ _ _ _ _ _ _ _ _ _ _ _ _ hrec
  | withheld _ _ _ _ _ _ _ _ hrec => exact hrec.ledger rfl rfl

/-! ## Every filing -/

/-- Credits and reversals are printable, under numbers of their own; all are real, or all are simulated. -/
structure FilingFile.Entered (cfg : Settings) (file : FilingFile) : Prop where
  printable : ∀ t ∈ file.events EventType.isLedger, ∃ p, t.Printable cfg.allowDemoMode p
  nodup : ((file.events EventType.isLedger).map FilingTransaction.id).Nodup
  credits : ∀ p ∈ file.payments, p.isCredit = true → p.isSimulated = cfg.allowDemoMode

theorem PaymentChange.credits (h : PaymentChange cfg r db db' tr f file file')
    (hI : ∀ p ∈ file.payments, p.isCredit = true → p.isSimulated = cfg.allowDemoMode) :
    ∀ p ∈ file'.payments, p.isCredit = true → p.isSimulated = cfg.allowDemoMode := by
  intro p hp hcredit
  cases h with
  | same hpayments hledger => exact hI p (hpayments ▸ hp) hcredit
  | paid userId caseType payment h hpayments hledger hversion hreview =>
    rw [hpayments] at hp
    rcases List.mem_append.1 hp with hp | hp
    · exact hI p hp hcredit
    · cases List.mem_singleton.1 hp
      exact absurd hcredit (by rw [h.sound.2]; decide)
  | credited userId key data account caseType basis id h hpayments hrecorded hreversed hversion hreview =>
    rw [hpayments] at hp
    rcases List.mem_append.1 hp with hp | hp
    · exact hI p hp hcredit
    · cases List.mem_singleton.1 hp
      rfl
  | reversed userId paymentId payment h hpayments hrecorded hreversed =>
    rw [hpayments] at hp
    obtain ⟨q, hq, rfl⟩ := List.mem_map.1 hp
    split at hcredit
    · rw [if_pos ‹_›]
      exact hI q hq hcredit
    · rw [if_neg ‹_›]
      exact hI q hq hcredit

variable {w₀ w w' : PortalWorld}

/-- **The entries of every filing.** -/
theorem Run.entered (h : Run cfg w₀ w) : ∀ f file, w.db (.envelope f) = some file → file.Entered cfg := by
  refine h.file_invariant ?_ ?_
  · intro w sid s a f userId data key file' _ _ hnew
    rw [hnew.file_eq]
    refine ⟨fun t ht => ?_, List.nodup_nil, fun p hp => ?_⟩
    · cases ht
    · cases hp
  · intro w sid s a f file file' hrun hc hfile hI hstep
    have hcredits := hstep.payment.credits hI.credits
    cases hstep.ledger (hrun.paymentsSound f file hfile).sound with
    | same hevents => exact ⟨by rw [hevents]; exact hI.printable, by rw [hevents]; exact hI.nodup, hcredits⟩
    | entered t p hevents hdrew hrequest hprints hsimulated =>
      have hflag : p.isSimulated = cfg.allowDemoMode := by
        rcases hsimulated with heq | ⟨payment, hmem, hcredit, heq⟩
        · exact heq
        · exact heq.trans (hI.credits payment hmem hcredit)
      refine ⟨fun u hu => ?_, ?_, hcredits⟩
      · rw [hevents] at hu
        rcases List.mem_append.1 hu with hu | hu
        · exact hI.printable u hu
        · cases List.mem_singleton.1 hu
          exact ⟨p, hflag ▸ hprints⟩
      · rw [hevents, List.map_append, List.map_singleton]
        refine List.Nodup.append hI.nodup (List.nodup_singleton _) fun n hn hn' => ?_
        obtain ⟨u, hu, rfl⟩ := List.mem_map.1 hn
        have hnamed : Named w.db u.id := .part f file hfile (.transaction u (FilingFile.mem_events.1 hu).1 rfl)
        rw [List.mem_singleton.1 hn'] at hnamed
        exact (hrun.spent hnamed).not_drawn hc hdrew

def HasEntry (db : Store) (f : FilingId) (t : FilingTransaction) : Prop :=
  ∃ file, db (.envelope f) = some file ∧ t ∈ file.events EventType.isLedger

theorem HasEntry.named {t : FilingTransaction} (h : HasEntry db f t) : Named db t.id := by
  obtain ⟨file, hfile, ht⟩ := h
  exact .part f file hfile (.transaction t (FilingFile.mem_events.1 ht).1 rfl)

theorem Changes.entry (h : Changes cfg r db tr) (hsound : ∀ file, db (.envelope f) = some file → file.PaymentsSound cfg)
    {t : FilingTransaction} (ht : HasEntry (commit tr db) f t) :
    HasEntry db f t ∨ (⟨.fresh, t.id⟩ ∈ tr ∧ r.ledgerFiling = some f) := by
  obtain ⟨file₁, hfile₁, ht⟩ := ht
  rcases h (.envelope f) with heq | ⟨file', hfile', ⟨_, _, _, hnew⟩ | ⟨file, hfile, hstep⟩⟩
  · exact .inl ⟨file₁, heq ▸ hfile₁, ht⟩
  · cases hfile₁.symm.trans hfile'
    rw [hnew.file_eq] at ht
    cases ht
  · cases hfile₁.symm.trans hfile'
    cases hstep.ledger (hsound file hfile).sound with
    | same hevents => exact .inl ⟨file, hfile, hevents ▸ ht⟩
    | entered u p hevents hdrew hrequest hprints hsimulated =>
      rw [hevents] at ht
      rcases List.mem_append.1 ht with ht | ht
      · exact .inl ⟨file, hfile, ht⟩
      · cases List.mem_singleton.1 ht
        exact .inr ⟨hdrew, hrequest⟩

def FilingFile.ledger (file : FilingFile) : List LedgerEvent :=
  (file.events EventType.isLedger).map fun t => ⟨file.filing.id, file.filing.courtId, t⟩

/-- Its completed credits: the real ones, or the simulated ones. -/
def FilingFile.completedCents (file : FilingFile) (simulated : Bool) : Cents :=
  ((file.payments.filter fun p => p.isCredit && p.status == .completed && p.isSimulated == simulated).map
    Payment.amountCents).sum

/-- The credits and reversals of a court, of all time. -/
def Tables.courtLedger (t : Tables) (courtId : CourtId) : List LedgerEvent :=
  t.ledger.filter fun e => e.courtId == courtId && e.transaction.eventType.isLedger

/-- The completed external payments of a court. -/
def Tables.completedCents (t : Tables) (courtId : CourtId) (simulated : Bool) : Cents :=
  ((t.filings.filter fun file => file.filing.courtId == courtId).map fun file => file.completedCents simulated).sum

/-- Which events count for which total. -/
inductive Counts : EventType → Int → Prop where
  | credit : Counts .feePaymentRecorded 1
  | reversal : Counts .feePaymentReversed (-1)

theorem countedCents_entry {event : EventType} {sign : Int} (hcounts : Counts event sign) {e : LedgerEvent}
    {p : PaymentSnapshot} {flag simulated : Bool} (hledger : e.transaction.eventType.isLedger = true)
    (hprints : e.transaction.Printable flag p) (hpositive : 0 < p.amountCents) :
    e.countedCents simulated sign =
      if flag = simulated ∧ e.transaction.eventType = event then (p.amountCents : Int) else 0 := by
  have hpositive : (0 : Int) < p.amountCents := Int.natCast_pos.2 hpositive
  have hevent : e.transaction.eventType = .feePaymentRecorded ∨ e.transaction.eventType = .feePaymentReversed := by
    simpa [EventType.isLedger] using hledger
  simp only [LedgerEvent.countedCents, LedgerEvent.amountCents, LedgerEvent.isSimulated, hprints.payment,
    Option.map_some, Option.some.injEq, hprints.simulated]
  by_cases hflag : flag = simulated
  · cases hcounts <;> rcases hevent with hevent | hevent <;> simp [hflag, hevent] <;> omega
  · simp [hflag]

theorem totalCents_entries {event : EventType} {sign : Int} (hcounts : Counts event sign) {flag : Bool} (f : FilingId)
    (courtId : CourtId) (simulated : Bool) {ts : List FilingTransaction}
    (h : ∀ t ∈ ts, t.eventType.isLedger = true ∧ ∃ p, t.Printable flag p ∧ 0 < p.amountCents) :
    totalCents simulated sign (ts.map fun t => ⟨f, courtId, t⟩) = if flag = simulated then
      ((((ts.filter fun t => t.eventType == event).map FilingTransaction.booking).map centsOf).sum : Int) else 0 := by
  induction ts with
  | nil => split <;> rfl
  | cons t ts ih =>
    obtain ⟨hledger, p, hprints, hpositive⟩ := h t List.mem_cons_self
    have hcents : centsOf t.booking = p.amountCents := by rw [FilingTransaction.booking, hprints.payment]; rfl
    have ih := ih fun u hu => h u (List.mem_cons_of_mem _ hu)
    rw [List.map_cons, totalCents, List.map_cons, List.sum_cons,
      countedCents_entry hcounts (e := ⟨f, courtId, t⟩) hledger hprints hpositive]
    rw [totalCents] at ih
    rw [ih]
    by_cases hflag : flag = simulated
    · by_cases hevent : t.eventType = event
      · simp [hflag, hevent, hcents]
      · simp [hflag, hevent]
    · simp [hflag]

theorem credits_split {filing : FilingEnvelope} {ps : List Payment} (hsound : ∀ p ∈ ps, p.Sound cfg filing) :
    ((ps.filter Payment.isCredit).map Payment.amountCents).sum =
      ((ps.filter fun p => p.isCredit && p.status == .reversed).map Payment.amountCents).sum +
        ((ps.filter fun p => p.isCredit && p.status == .completed).map Payment.amountCents).sum := by
  induction ps with
  | nil => rfl
  | cons p ps ih =>
    have ih := ih fun q hq => hsound q (List.mem_cons_of_mem _ hq)
    by_cases hcredit : p.isCredit = true
    · rcases ((hsound p List.mem_cons_self).credit hcredit).1 with hstatus | hstatus
      · simp [hcredit, hstatus, ih, Nat.add_left_comm]
      · simp [hcredit, hstatus, ih, Nat.add_assoc]
    · simp [hcredit, ih]

theorem FilingFile.PaymentsSound.positive (h : file.PaymentsSound cfg) {t : FilingTransaction}
    (ht : t ∈ file.events EventType.isLedger) {p : PaymentSnapshot} (hp : t.details.payment = some p) :
    0 < p.amountCents := by
  obtain ⟨hmem, hevent⟩ := FilingFile.mem_events.1 ht
  have hbooked : some (p.id, p.amountCents) ∈ file.bookings t.eventType := by
    refine List.mem_map.2 ⟨t, FilingFile.mem_events.2 ⟨hmem, beq_self_eq_true _⟩, ?_⟩
    rw [FilingTransaction.booking, hp]
    rfl
  have hfound : ∃ q ∈ file.payments, q.booking = some (p.id, p.amountCents) := by
    have hkind : t.eventType = .feePaymentRecorded ∨ t.eventType = .feePaymentReversed := by
      simpa [EventType.isLedger] using hevent
    rcases hkind with hkind | hkind
    · rw [hkind, h.recorded] at hbooked
      obtain ⟨q, hq, heq⟩ := List.mem_map.1 hbooked
      exact ⟨q, List.mem_of_mem_filter hq, heq⟩
    · rw [hkind] at hbooked
      obtain ⟨q, hq, heq⟩ := List.mem_map.1 (h.reversed.mem_iff.1 hbooked)
      exact ⟨q, List.mem_of_mem_filter hq, heq⟩
  obtain ⟨q, hq, heq⟩ := hfound
  have hcents : q.amountCents = p.amountCents := congrArg Prod.snd (Option.some.inj heq)
  exact hcents ▸ (h.sound q hq).positive

/-- **The balance of a filing.** -/
theorem FilingFile.Entered.balance (h : file.Entered cfg) (hsound : file.PaymentsSound cfg) (simulated : Bool) :
    totalCents simulated 1 file.ledger - totalCents simulated (-1) file.ledger = file.completedCents simulated := by
  have hentries : ∀ t ∈ file.events EventType.isLedger,
      t.eventType.isLedger = true ∧ ∃ p, t.Printable cfg.allowDemoMode p ∧ 0 < p.amountCents := by
    intro t ht
    obtain ⟨p, hp⟩ := h.printable t ht
    exact ⟨(FilingFile.mem_events.1 ht).2, p, hp, hsound.positive ht hp.payment⟩
  have hevents : ∀ event : EventType, event.isLedger = true →
      ((file.events EventType.isLedger).filter fun t => t.eventType == event) = file.events (· == event) := by
    intro event hevent
    rw [FilingFile.events, FilingFile.events, List.filter_filter]
    refine List.filter_congr fun t _ => ?_
    by_cases ht : t.eventType = event
    · simp [ht, hevent]
    · simp [ht]
  have hrecorded := centsOf_bookings file.credits
  have hreversed := (hsound.reversed.map centsOf).sum_nat
  rw [centsOf_bookings] at hreversed
  rw [← hsound.recorded] at hrecorded
  have hsplit : (_ : Nat) = _ + _ := credits_split hsound.sound
  rw [FilingFile.ledger, totalCents_entries .credit _ _ _ hentries, totalCents_entries .reversal _ _ _ hentries,
    hevents _ rfl, hevents _ rfl]
  change (if _ then ((((file.bookings .feePaymentRecorded).map centsOf).sum : Nat) : Int) else 0) -
    (if _ then ((((file.bookings .feePaymentReversed).map centsOf).sum : Nat) : Int) else 0) = _
  unfold FilingFile.completedCents
  by_cases hflag : cfg.allowDemoMode = simulated
  · have hall : (file.payments.filter fun p => p.isCredit && p.status == .completed && p.isSimulated == simulated) =
        file.payments.filter fun p => p.isCredit && p.status == .completed := by
      refine List.filter_congr fun p hp => ?_
      by_cases hcredit : p.isCredit = true
      · simp [hcredit, h.credits p hp hcredit, hflag]
      · simp [hcredit]
    rw [if_pos hflag, if_pos hflag, hrecorded, hreversed, hall]
    unfold FilingFile.credits FilingFile.reversals
    omega
  · have hnone : (file.payments.filter fun p => p.isCredit && p.status == .completed && p.isSimulated == simulated) =
        [] := by
      refine List.filter_eq_nil_iff.2 fun p hp hall => ?_
      simp only [Bool.and_eq_true, beq_iff_eq] at hall
      exact hflag ((h.credits p hp hall.1.1).symm.trans hall.2)
    rw [if_neg hflag, if_neg hflag, hnone]
    rfl

theorem Tables.courtLedger_eq (t : Tables) (courtId : CourtId) : t.courtLedger courtId =
    (t.filings.filter fun file => file.filing.courtId == courtId).flatMap FilingFile.ledger := by
  unfold courtLedger ledger
  induction t.filings with
  | nil => rfl
  | cons file files ih =>
    rw [List.flatMap_cons, List.filter_append, ih, List.filter_cons]
    by_cases hcourt : file.filing.courtId = courtId
    · simp [hcourt, FilingFile.ledger, FilingFile.events, List.filter_map, Function.comp_def]
    · simp [hcourt, List.filter_map, Function.comp_def]

variable {c : Columns} {courtId : CourtId}

/-- The dates up to `b`, cut into consecutive ranges of at most 31 days. -/
inductive Cut (b : Date) : Date → List (Date × Date) → Prop where
  | last (a : Date) (hle : a ≤ b) (hshort : b - a < 31) : Cut b a [(a, b)]
  | next (a d : Date) (ranges : List (Date × Date)) (hle : a ≤ d) (hshort : d - a < 31) (hrest : Cut b (d + 1) ranges) :
      Cut b a ((a, d) :: ranges)

theorem Cut.le {a b : Date} {ranges : List (Date × Date)} (h : Cut b a ranges) : a ≤ b := by
  induction h with
  | last a hle hshort => exact hle
  | next a d ranges hle hshort hrest ih => exact Int.le_trans hle (Int.le_of_lt (Int.add_one_le_iff.1 ih))

section Midnight

variable {zone : ZoneInfo} {a b : Date} {start finish : Instant}

end Midnight

section Ranges

variable {t : Tables} {zone : ZoneInfo} {a b : Date} {ranges : List (Date × Date)} {start finish : Instant} {all : Bool}

end Ranges

/-! ## The order of the entries -/

def entriesOf (events : List LedgerEvent) : List PaymentActivity := events.filterMap LedgerEvent.entry

/-- What an entry adds to the credits (`sign` 1) or to the reversals (`sign` -1). -/
def PaymentActivity.countedCents (simulated : Bool) (sign : Int) (entry : PaymentActivity) : Int :=
  if entry.isSimulated = simulated ∧ 0 < entry.amountCents * sign then entry.amountCents * sign else 0

/-- The totals of the entries: of the real ones, or of the simulated ones. -/
def entryTotals (simulated : Bool) (entries : List PaymentActivity) : PaymentRegisterTotals where
  creditsCents := (entries.map (PaymentActivity.countedCents simulated 1)).sum
  reversalsCents := (entries.map (PaymentActivity.countedCents simulated (-1))).sum

def Complete (events : List LedgerEvent) : Prop := ∀ e ∈ events, e.entry.isSome = true

section Complete

variable {events events' : List LedgerEvent}

theorem Complete.map_entry (h : Complete events) : events.map LedgerEvent.entry = (entriesOf events).map some := by
  unfold entriesOf
  induction events with
  | nil => rfl
  | cons e events ih =>
    obtain ⟨entry, he⟩ := Option.isSome_iff_exists.1 (h e List.mem_cons_self)
    rw [List.map_cons, List.filterMap_cons_some he, List.map_cons, he,
      ih fun e' he' => h e' (List.mem_cons_of_mem _ he')]

theorem Complete.length_eq (h : Complete events) : (entriesOf events).length = events.length := by
  rw [← List.length_map (f := some), ← h.map_entry, List.length_map]

theorem Complete.total (h : Complete events) (simulated : Bool) (sign : Int) : totalCents simulated sign events =
    ((entriesOf events).map (PaymentActivity.countedCents simulated sign)).sum := by
  unfold totalCents entriesOf
  induction events with
  | nil => rfl
  | cons e events ih =>
    obtain ⟨entry, he⟩ := Option.isSome_iff_exists.1 (h e List.mem_cons_self)
    have hcents : e.countedCents simulated sign = entry.countedCents simulated sign := by
      unfold LedgerEvent.entry at he
      unfold LedgerEvent.countedCents LedgerEvent.isSimulated
      split at he
      · rename_i payment amountCents reason hpayment hamount hreason
        obtain ⟨receipt, -, rfl⟩ := Option.map_eq_some_iff.1 he
        rw [hamount, hpayment]
        simp only [Option.map_some, Option.some.injEq]
        rfl
      · cases he
    rw [List.map_cons, List.sum_cons, List.filterMap_cons_some he, List.map_cons, List.sum_cons, hcents,
      ih fun e' he' => h e' (List.mem_cons_of_mem _ he')]

theorem Complete.totals (h : Complete events) (simulated : Bool) :
    totalsOf simulated events = entryTotals simulated (entriesOf events) := by
  unfold totalsOf entryTotals
  rw [h.total, h.total]

theorem Complete.of_subset (h : Complete events) (hsub : events' ⊆ events) : Complete events' :=
    fun e he => h e (hsub he)

end Complete

theorem Run.complete (h : Run cfg w₀ w) : Complete ((c.tables w).courtLedger courtId) := by
  intro e he
  rw [Tables.courtLedger_eq] at he
  obtain ⟨file, hmem, he⟩ := List.mem_flatMap.1 he
  obtain ⟨f, hfile⟩ := h.mem_filings.1 (List.mem_of_mem_filter hmem)
  obtain ⟨t, ht, rfl⟩ := List.mem_map.1 he
  obtain ⟨p, hp⟩ := (h.entered f file hfile).printable t ht
  obtain ⟨reason, hreason⟩ := Option.isSome_iff_exists.1 hp.reason
  unfold LedgerEvent.entry LedgerEvent.amountCents
  simp only [hp.payment, Option.map_some, hreason, Option.isSome_map]
  exact hp.receipt

/-! ## What the register answers -/

def Tables.reportOf (t : Tables) (q : RegisterQuery) (start finish now : Instant) (entries : List PaymentActivity) :
    PaymentRegister where
  courtId := q.courtId
  dateFrom := q.dateFrom
  dateTo := q.dateTo
  timezone := q.timezone
  rangeStart := start
  rangeEnd := finish
  generatedAt := now
  includeSimulated := q.includeSimulated
  total := (t.activity q.courtId start finish q.includeSimulated).length
  page := q.page
  totals := totalsOf false (t.activity q.courtId start finish q.includeSimulated)
  simulatedTotals := totalsOf true (t.activity q.courtId start finish q.includeSimulated)
  entries

/-- A report with these entries, on a page or on all. -/
structure PaymentRegister.Shows (report : PaymentRegister) (q : RegisterQuery) (entries shown : List PaymentActivity) :
    Prop where
  court : report.courtId = q.courtId
  total : report.total = entries.length
  totals : report.totals = entryTotals false entries
  simulatedTotals : report.simulatedTotals = entryTotals true entries
  entries : report.entries = shown

/-- What an entry says of its event. -/
structure LedgerEvent.Describes (e : LedgerEvent) (entry : PaymentActivity) : Prop where
  event : entry.eventId = e.transaction.id ∧ entry.eventType = e.transaction.eventType
  filing : entry.filingId = e.filingId
  actor : entry.actorId = e.transaction.actorId ∧ entry.actorName = e.transaction.actorName
  occurred : entry.occurredAt = e.transaction.occurredAt
  reason : e.transaction.details.reason = some entry.reason
  payment : ∃ p receipt, e.transaction.details.payment = some p ∧ p.externalReceipt = some receipt ∧
    entry.paymentId = p.id ∧ entry.isSimulated = p.isSimulated ∧
    entry.amountCents = (if e.transaction.eventType = .feePaymentReversed then -(p.amountCents : Int)
    else p.amountCents) ∧ entry.receiptSystem = receipt.system ∧ entry.receiptReference = receipt.reference ∧
    entry.receivedAt = receipt.receivedAt

theorem LedgerEvent.describes {e : LedgerEvent} {entry : PaymentActivity} (h : e.entry = some entry) :
    e.Describes entry := by
  unfold LedgerEvent.entry at h
  split at h
  · rename_i p amountCents reason hp hamount hreason
    obtain ⟨receipt, hreceipt, rfl⟩ := Option.map_eq_some_iff.1 h
    rw [LedgerEvent.amountCents, hp, Option.map_some, Option.some.injEq] at hamount
    exact ⟨⟨rfl, rfl⟩, rfl, ⟨rfl, rfl⟩, rfl, hreason, p, receipt, hp, hreceipt, rfl, rfl, hamount.symm, rfl, rfl, rfl⟩
  · cases h

theorem Complete.described {events : List LedgerEvent} (h : Complete events) :
    List.Forall₂ LedgerEvent.Describes events (entriesOf events) := by
  have hsame : List.Forall₂ (· = ·) (events.map LedgerEvent.entry) ((entriesOf events).map some) := by
    rw [h.map_entry]
    exact List.forall₂_same.2 fun _ _ => rfl
  exact (List.forall₂_map_right_iff.1 (List.forall₂_map_left_iff.1 hsame)).imp fun _ _ => LedgerEvent.describes

end Muefs
