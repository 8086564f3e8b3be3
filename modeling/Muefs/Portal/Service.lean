import Muefs.Portal.Record

/-!
# Delivering recorded documents

`currentSource` : the receipt whose documents may be delivered.
-/

namespace Muefs

/-- Submitted and not declined. -/
def FilingStatus.isDeliverable (status : FilingStatus) : Bool :=
  status == .submitted || status == .underReview || status == .accepted || status == .served

/-- The query of `current_source`, without its limit. -/
def FilingFile.sources (file : FilingFile) : List FilingTransaction :=
  file.transactions.filter fun t => t.submissionNumber == file.filing.submissionCount && t.eventType.isReceipt

/-- `current_source` -/
def currentSource (file : FilingFile) : Except Failure FilingTransaction :=
  if file.filing.status.isDeliverable = false then
    .error (.http 409 "Record the current documents before selecting them for delivery")
  else
    match file.sources.take 2 with
    | [source] =>
      let receipt := source.details.receipt
      if receipt.bind ReceiptDetails.caseId ≠ file.filing.caseId ∨
          receipt.map ReceiptDetails.courtId ≠ some file.filing.courtId ∨
          receipt.map ReceiptDetails.filingType ≠ some file.filing.filingType then
        .error (.http 409 "The retained receipt and filing destination need court review")
      else .ok source
    | _ => .error (.http 409 "This filing needs a retained submission receipt before delivery")

end Muefs
