import Muefs.Portal.Record

/-!
# Where a filing may go

* `validateFilingDestination` : court, case type and, for an existing case, the filer's participation;
* `Accepts` : what it finds, said of a store; `validateFilingDestination_meets` : with locks, said of the store at the
  commit.
-/

namespace Muefs
open RowLocks

/-- The columns that `validate_filing_destination` reads from the request or the filing. -/
structure Destination where
  courtId : CourtId
  caseId : Option CaseId
  caseTypeId : CaseTypeId
  filingType : FilingType
  deriving DecidableEq

def CreationFields.destination (data : CreationFields) : Destination where
  courtId := data.courtId
  caseId := data.caseId
  caseTypeId := data.caseTypeId
  filingType := data.filingType

def FilingEnvelope.destination (filing : FilingEnvelope) : Destination where
  courtId := filing.courtId
  caseId := filing.caseId
  caseTypeId := filing.caseTypeId
  filingType := filing.filingType

/-- Read a row, with a shared lock if asked to. -/
def readRow (lock : Bool) (g : Row) : Portal (View g) := if lock = true then lockShare g else look g

/-- The part of `validate_filing_destination` on an existing case. -/
def validateCase (dest : Destination) (filer : Option Viewer) (lock : Bool) : Portal (Option CaseFile) :=
  match dest.caseId with
  | none => return none
  | some caseId => do
    let row ← readRow lock (.case caseId)
    let case ← expect row (.destination 404 "Case not found")
    require (filer.all (fun v => userMayFileOnCase v.id v.account case) = true)
      (.destination 403 "Court-reviewed case participation is required to file on this case")
    require (case.row.courtId = dest.courtId) (.destination 400 "Case does not belong to the selected court")
    require (case.row.caseTypeId = dest.caseTypeId) (.destination 400 "Case type does not match the selected case")
    return some case

/-- `validate_filing_destination`. Without a filer it is the check before an acceptance. -/
def validateFilingDestination (dest : Destination) (filer : Option Viewer) (lock : Bool) :
    Portal (Option CaseFile) := do
  require (dest.filingType = .initial ∨ dest.filingType = .subsequent ∨ dest.filingType = .motion ∨
      dest.filingType = .serviceOnly)
    (.destination 409 "This record has an unsupported filing type and needs correction.")
  require (filer.isSome = true ∨ dest.filingType ≠ .serviceOnly)
    (.destination 409 "A service-only record cannot be accepted as a court filing")
  require (filer.isNone = true ∨ (dest.filingType = .initial ↔ dest.caseId = none))
    (.destination 409 "The filing type does not match its case reference. Start a new draft.")
  let courtRow ← readRow lock (.court dest.courtId)
  let caseTypeRow ← readRow lock (.caseType dest.caseTypeId)
  let court ← expect courtRow (.destination 404 "The selected court or case type was not found")
  let caseType ← expect caseTypeRow (.destination 404 "The selected court or case type was not found")
  require (caseType.courtId = dest.courtId) (.destination 400 "Case type does not belong to the selected court")
  require (filer.isNone = true ∨ court.isEfilingEnabled = true) (.destination 409
    ("This court is not accepting electronic filings. " ++
      (court.intakeNotice.filter (· ≠ "")).getD "Contact the court for filing options."))
  require (filer.isNone = true ∨ caseType.isActive = true) (.destination 409
    ("This case type is not accepting electronic filings. " ++
      (court.intakeNotice.filter (· ≠ "")).getD "Contact the court for guidance."))
  validateCase dest filer lock

/-! ## What it finds -/

/-- The store accepts filings of this filer at this destination. -/
structure Accepts (db : Store) (dest : Destination) (filer : Viewer) : Prop where
  court : ∃ c, db (.court dest.courtId) = some c ∧ c.isEfilingEnabled = true
  caseType : ∃ t, db (.caseType dest.caseTypeId) = some t ∧ t.courtId = dest.courtId ∧ t.isActive = true
  shape : dest.filingType = .initial ↔ dest.caseId = none
  case : ∀ id, dest.caseId = some id → ∃ c, db (.case id) = some c ∧
    userMayFileOnCase filer.id filer.account c = true ∧ c.row.courtId = dest.courtId ∧
    c.row.caseTypeId = dest.caseTypeId

theorem readRow_meets (db : Store) (lock : Bool) (g : Row) :
    Meets db (readRow lock g) fun tr v => Quiet tr ∧ (lock = true → v = db g) := by
  cases lock <;> simp [readRow, Writes]

theorem validateCase_meets (db : Store) (dest : Destination) (filer : Option Viewer) (lock : Bool) :
    Meets db (validateCase dest filer lock) fun tr case => Quiet tr ∧ (lock = true →
      case = dest.caseId.bind (fun id => db (.case id)) ∧
      ∀ id, dest.caseId = some id → ∃ c, db (.case id) = some c ∧
        (∀ v, filer = some v → userMayFileOnCase v.id v.account c = true) ∧ c.row.courtId = dest.courtId ∧
        c.row.caseTypeId = dest.caseTypeId) := by
  unfold validateCase
  cases hid : dest.caseId with
  | none => simp [Writes]
  | some id =>
    simp only [meets_bind, meets_expect, meets_require, meets_pure]
    refine (readRow_meets db lock (.case id)).mono ?_
    rintro tr row ⟨hq, hrow⟩ case rfl hfile hcourt htype
    refine ⟨by simp [hq], fun hl => ?_⟩
    rw [Option.all_eq_true] at hfile
    refine ⟨(hrow hl).symm ▸ rfl, ?_⟩
    intro id' hid'
    cases hid'
    exact ⟨case, (hrow hl).symm, fun v hv => hfile v hv, hcourt, htype⟩

theorem validateFilingDestination_meets (db : Store) (dest : Destination) (filer : Option Viewer) (lock : Bool) :
    Meets db (validateFilingDestination dest filer lock) fun tr case => Quiet tr ∧ (lock = true →
      case = dest.caseId.bind (fun id => db (.case id)) ∧
      (∀ id, dest.caseId = some id → ∃ c, db (.case id) = some c ∧ c.row.courtId = dest.courtId ∧
        c.row.caseTypeId = dest.caseTypeId) ∧
      (filer = none → dest.filingType ≠ .serviceOnly) ∧ ∀ v, filer = some v → Accepts db dest v) := by
  simp only [validateFilingDestination, meets_bind, meets_require, meets_expect]
  intro _ hservice hshape
  refine (readRow_meets db lock (.court dest.courtId)).mono ?_
  rintro trc courtRow ⟨hqc, hcourt⟩
  refine (readRow_meets db lock (.caseType dest.caseTypeId)).mono ?_
  rintro trt typeRow ⟨hqt, htype⟩ court rfl caseType rfl hbelongs henabled hactive
  refine (validateCase_meets db dest filer lock).mono ?_
  rintro tr case ⟨hq, hcase⟩
  refine ⟨by simp [hqc, hqt, hq], fun hl => ?_⟩
  obtain ⟨hceq, hall⟩ := hcase hl
  refine ⟨hceq, fun id hid => ?_, fun hn => ?_, fun v hv => ?_⟩
  · obtain ⟨c, hc, _, h1, h2⟩ := hall id hid
    exact ⟨c, hc, h1, h2⟩
  · subst hn
    simpa using hservice
  · subst hv
    exact {
      court := ⟨court, (hcourt hl).symm, by simpa using henabled⟩
      caseType := ⟨caseType, (htype hl).symm, hbelongs, by simpa using hactive⟩
      shape := by simpa using hshape
      case := fun id hid => by
        obtain ⟨c, hc, hf, h1, h2⟩ := hall id hid
        exact ⟨c, hc, hf v rfl, h1, h2⟩ }

end Muefs
