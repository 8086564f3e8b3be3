import Muefs.Listings.Pages
import Muefs.Portal.Mail
import Muefs.Portal.Reading
import Muefs.Portal.Traffic

/-!
# The payment register

* `ZoneInfo`, `ZoneInfo.midnight` : the beginning of a local date, as an instant;
* `LedgerEvent`, `Tables.activity` : the external credits and reversals of a court between two instants;
* `totalCents`, `newestFirst` : their totals and their order;
* `Tables.paymentRegister` : one page of them, or all of them as rows of a table.
-/

namespace Muefs
open Listings

/-! ## Dates and instants -/

/-- A transaction with the filing that it belongs to. -/
structure LedgerEvent where
  filingId : FilingId
  courtId : CourtId
  transaction : FilingTransaction
  deriving DecidableEq

/-- `fee_payment_recorded` or `fee_payment_reversed` -/
def EventType.isLedger (event : EventType) : Bool := event == .feePaymentRecorded || event == .feePaymentReversed

def LedgerEvent.isSimulated (e : LedgerEvent) : Option Bool :=
  e.transaction.details.payment.map PaymentSnapshot.isSimulated

/-- The amount of a reversal is negative. -/
def LedgerEvent.amountCents (e : LedgerEvent) : Option Int :=
  e.transaction.details.payment.map fun p =>
    if e.transaction.eventType = .feePaymentReversed then -(p.amountCents : Int) else p.amountCents

/-- The transactions of all filings. -/
def Tables.ledger (t : Tables) : List LedgerEvent :=
  t.filings.flatMap fun file => file.transactions.map fun tx => ⟨file.filing.id, file.filing.courtId, tx⟩

/-- The `activity` of a court from one instant to before another. -/
def Tables.activity (t : Tables) (courtId : CourtId) (start finish : Instant) (includeSimulated : Bool) :
    List LedgerEvent :=
  t.ledger.filter fun e => e.courtId == courtId && e.transaction.eventType.isLedger &&
    decide (start ≤ e.transaction.occurredAt) && decide (e.transaction.occurredAt < finish) &&
    (includeSimulated || e.isSimulated == some false)

/-- What an event adds to the credits (`sign` 1) or to the reversals (`sign` -1). -/
def LedgerEvent.countedCents (simulated : Bool) (sign : Int) (e : LedgerEvent) : Int :=
  match e.amountCents with
  | some amount => if e.isSimulated = some simulated ∧ 0 < amount * sign then amount * sign else 0
  | none => 0

def totalCents (simulated : Bool) (sign : Int) (events : List LedgerEvent) : Int :=
  (events.map (LedgerEvent.countedCents simulated sign)).sum

/-- `PaymentActivity` -/
structure PaymentActivity where
  eventId : TransactionId
  filingId : FilingId
  eventType : EventType
  actorId : UserId
  actorName : String
  occurredAt : Instant
  paymentId : PaymentId
  amountCents : Int
  isSimulated : Bool
  receiptSystem : String
  receiptReference : String
  receivedAt : Instant
  reason : String
  deriving DecidableEq

/-- `PaymentActivity.model_validate`. An entry without its receipt or its reason is refused. -/
def LedgerEvent.entry (e : LedgerEvent) : Option PaymentActivity :=
  match e.transaction.details.payment, e.amountCents, e.transaction.details.reason with
  | some payment, some amountCents, some reason => payment.externalReceipt.map fun receipt => {
      eventId := e.transaction.id
      filingId := e.filingId
      eventType := e.transaction.eventType
      actorId := e.transaction.actorId
      actorName := e.transaction.actorName
      occurredAt := e.transaction.occurredAt
      paymentId := payment.id
      amountCents
      isSimulated := payment.isSimulated
      receiptSystem := receipt.system
      receiptReference := receipt.reference
      receivedAt := receipt.receivedAt
      reason }
  | _, _, _ => none

structure PaymentRegisterTotals where
  creditsCents : Int
  reversalsCents : Int
  deriving DecidableEq

/-- `PaymentRegister` -/
structure PaymentRegister where
  courtId : CourtId
  dateFrom : Date
  dateTo : Date
  timezone : String
  rangeStart : Instant
  rangeEnd : Instant
  generatedAt : Instant
  includeSimulated : Bool
  total : Nat
  page : Nat
  totals : PaymentRegisterTotals
  simulatedTotals : PaymentRegisterTotals
  entries : List PaymentActivity
  deriving DecidableEq

/-- What `GET /clerk/payment-register` asks for. -/
structure RegisterQuery where
  courtId : CourtId
  dateFrom : Date
  dateTo : Date
  timezone : String
  includeSimulated : Bool := false
  page : Nat := 1
  csv : Bool := false
  positive : 1 ≤ page := by decide

def totalsOf (simulated : Bool) (events : List LedgerEvent) : PaymentRegisterTotals where
  creditsCents := totalCents simulated 1 events
  reversalsCents := totalCents simulated (-1) events

/-! ## Rows of a table -/

inductive CsvCell where
  | text (s : String)
  | number (n : Int)
  | flag (b : Bool)
  | time (t : Instant)
  | key (id : TransactionId)
  | event (event : EventType)
  deriving DecidableEq

/-- What a spreadsheet takes for a formula. -/
def formulaStarts : List Char := ['=', '+', '-', '@', '＝', '＋', '－', '＠']

/-- A text that a spreadsheet would take for a formula begins with an apostrophe instead. -/
def CsvCell.guarded : CsvCell → CsvCell
  | .text s =>
    if ((s.toList.dropWhile isSpace).head?.any formulaStarts.contains) = true then .text ("'" ++ s) else .text s
  | cell => cell

/-- The row of an entry. -/
def PaymentRegister.row (report : PaymentRegister) (entry : PaymentActivity) : List CsvCell :=
  [.number report.courtId, .time report.rangeStart, .time report.rangeEnd, .text report.timezone,
    .time report.generatedAt, .text "USD", .key entry.eventId, .number entry.filingId, .event entry.eventType,
    .number entry.actorId, .text entry.actorName, .time entry.occurredAt, .number entry.paymentId,
    .number entry.amountCents, .flag entry.isSimulated, .text entry.receiptSystem, .text entry.receiptReference,
    .time entry.receivedAt, .text entry.reason].map CsvCell.guarded

end Muefs
