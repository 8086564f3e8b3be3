import Muefs.Steps.Administration
import Muefs.Steps.Fees
import Muefs.Steps.Filer
import Muefs.Steps.Publication
import Muefs.Steps.Review

/-!
# Every commit

`program_changes` : whatever the request, its commit changes rows by `RowStep`s only.
-/

namespace Muefs
open RowLocks

theorem thenSaved_changes {α : Type} {cfg : Settings} {r : Request} {db : Store} {p : Portal α}
    (h : Meets db p fun tr _ => Changes cfg r db tr) : Meets db (thenSaved p) fun tr _ => Changes cfg r db tr := by
  simp only [thenSaved, meets_bind, meets_pure]
  refine h.mono fun tr _ h => ?_
  rwa [List.append_nil]

/-- **Every commit changes rows by `RowStep`s only.** -/
theorem program_changes (cfg : Settings) (db : Store) (r : Request) :
    Meets db (program cfg r) fun tr _ => Changes cfg r db tr := by
  cases r with
  | createFiling => exact createFiling_changes
  | updateFiling => exact updateFiling_changes
  | submitFiling => exact submitFiling_changes
  | uploadDocument => exact uploadDocument_changes
  | removeDocument => exact removeDocument_changes
  | requestFeeReview => exact requestFeeReview_changes
  | assessFees => exact assessFees_changes
  | decideFeeWaiver => exact decideFeeWaiver_changes
  | processPayment => exact processPayment_changes
  | recordExternalPayment => exact recordExternalPayment_changes
  | reverseExternalPayment => exact reverseExternalPayment_changes
  | reviewFiling => exact reviewFiling_changes
  | batchReviewFilings => exact batchReviewFilings_changes
  | recordFilingDateOrder => exact recordFilingDateOrder_changes
  | prepareCopy => exact prepareCopy_changes
  | publishCopy => exact publishCopy_changes
  | withholdDocument => exact withholdDocument_changes
  | cleanupNext => exact cleanupNext_changes
  | publishIntake => exact thenSaved_changes publishIntake_changes
  | publishCalendar => exact thenSaved_changes publishCalendar_changes
  | changeParticipant => exact thenSaved_changes (changeParticipant_access.mono fun _ _ h => h.changes)
  | changePublicAccess => exact thenSaved_changes (changePublicAccess_access.mono fun _ _ h => h.changes)
  | createAccount => exact thenSaved_changes (createAccount_step.mono fun _ _ => AccountChanges.changes)
  | updateAccount => exact thenSaved_changes (updateAccount_step.mono fun _ _ => AccountChanges.changes)
  | changeCourtRole => exact thenSaved_changes (changeCourtRole_step.mono fun _ _ => AccountChanges.changes)
  | bootstrap => exact thenSaved_changes (bootstrap_step.mono fun _ _ => AccountChanges.changes)
  | registerUser => exact thenSaved_changes (registerUser_step.mono fun _ _ => AccountChanges.changes)
  | signIn => exact getProfile_step.mono fun _ _ => AccountChanges.changes
  | storageChange key content =>
    refine thenSaved_changes ?_
    simp only [meets_act]
    exact .of_quiet (by simp [Writes])

end Muefs
