import Muefs.Portal.Submission
import Mathlib.Data.List.Sort

/-!
# Required documents

* `getFilingRequirements` : the panel of requirements of a case type;
* `MotionDocument`, `Enforced` : the documented rules, when a row that is shown is also enforced;
* `validateFiling_requirements` : the validator reports the rows of the panel that the rules enforce, and no others.
-/

namespace Muefs

variable {cfg : Settings}

/-- `GET /courts/{court_id}/case-types/{case_type_id}/requirements`, on the rows of the court. The required rows come
first. Without a filing type all rows are shown. -/
def getFilingRequirements (cfg : Settings) (rows : List FilingRequirement) (caseTypeId : CaseTypeId)
    (filingType : Option FilingType) : List FilingRequirement :=
  let requirements := (rows.filter fun r => r.caseTypeId == some caseTypeId).mergeSort
    fun a b => a.isRequired || !b.isRequired
  match filingType with
  | some filingType => requirementsForFilingType cfg requirements filingType
  | none => requirements

def MotionDocument (code : String) : Prop := code = "MOTION" ∨ "MOT_".toList <+: code.toList

/-- **The documented rules.** A required row is enforced unless its document is filed; a service-only filing has to meet
none, and a subsequent filing only with a motion; a motion stands for any other; and the good-faith certificate belongs
to discovery motions. -/
structure Enforced (filingType : FilingType) (filed : List String) (code : String) : Prop where
  unfiled : code ∉ filed
  checked : filingType ≠ .serviceOnly
  moved : filingType = .subsequent → ∃ d ∈ filed, MotionDocument d
  uncovered : MotionDocument code → ∀ d ∈ filed, ¬ MotionDocument d
  disputed : code = "DISC_CERT_GF" → ∃ d ∈ filed, d ∈ discoveryMotionCodes

def FilingRequirement.reported (r : FilingRequirement) : String :=
  r.description ++ match r.mcrReference with
    | some text => if text = "" then "" else ". See " ++ text ++ "."
    | none => ""

/-- The entry for the fee waiver form, which no row requires. -/
def waiverForm (file : FilingFile) : List String :=
  if file.filing.waiverPending && !(file.currentDocuments.map FilingDocument.documentTypeCode).contains
    "FEE_WAIVER" then
    ["Completed, signed Fee Waiver Request (MC 20), nonpublic"]
  else []

theorem isMotionType_iff (code : String) : isMotionType code = true ↔ MotionDocument code := by
  unfold isMotionType MotionDocument startsWith
  rw [Bool.or_eq_true, beq_iff_eq, List.isPrefixOf_iff_prefix, or_comm]

theorem requirementsForFilingType_filter (cfg : Settings) (filingType : FilingType) : ∃ p :
    FilingRequirement → Bool, ∀ rows, requirementsForFilingType cfg rows filingType = rows.filter p := by
  cases filingType with
  | initial => exact ⟨_, fun _ => rfl⟩
  | subsequent => exact ⟨_, fun _ => rfl⟩
  | motion => exact ⟨_, fun _ => rfl⟩
  | serviceOnly => exact ⟨fun _ => true, fun rows => (List.filter_true rows).symm⟩
  | other name => exact ⟨fun _ => true, fun rows => (List.filter_true rows).symm⟩

theorem mem_getFilingRequirements {rows : List FilingRequirement} {caseTypeId : CaseTypeId} {filingType : FilingType}
    {p : FilingRequirement → Bool} (hp : ∀ rows, requirementsForFilingType cfg rows filingType = rows.filter p)
    (r : FilingRequirement) : r ∈ getFilingRequirements cfg rows caseTypeId (some filingType) ↔
      r ∈ rows ∧ r.caseTypeId = some caseTypeId ∧ p r = true := by
  unfold getFilingRequirements
  simp only [hp, List.mem_filter, List.mem_mergeSort, beq_iff_eq, and_assoc]

theorem requirementSatisfied_iff {filed : List String} {code : String} :
    requirementSatisfied filed code = false ↔
      code ∉ filed ∧ (MotionDocument code → ∀ d ∈ filed, ¬ MotionDocument d) ∧
        (code = "DISC_CERT_GF" → ∃ d ∈ filed, d ∈ discoveryMotionCodes) := by
  unfold requirementSatisfied
  rw [Bool.or_eq_false_iff, Bool.or_eq_false_iff, and_assoc]
  refine and_congr ?_ (and_congr ?_ ?_)
  · simp
  · rw [Bool.and_eq_false_imp, isMotionType_iff]
    refine imp_congr_right fun _ => ?_
    rw [Bool.eq_false_iff, ne_eq, List.any_eq_true]
    simp only [isMotionType_iff, not_exists, not_and]
  · rw [Bool.and_eq_false_imp, beq_iff_eq]
    refine imp_congr_right fun _ => ?_
    rw [Bool.not_eq_false', List.any_eq_true]
    simp only [List.contains_iff_mem]

/-- The rows that the validator finds missing. -/
def missingRows (cfg : Settings) (file : FilingFile) (rows : List FilingRequirement) : List FilingRequirement :=
  let filed := file.currentDocuments.map FilingDocument.documentTypeCode
  let required := requirementsForFilingType cfg
    (rows.filter fun r => r.caseTypeId == some file.filing.caseTypeId && r.isRequired) file.filing.filingType
  if file.filing.filingType = .serviceOnly then []
  else if file.filing.filingType = .subsequent ∧ filed.any isMotionType = false then []
  else required.filter fun r => !requirementSatisfied filed r.documentTypeCode

theorem validateFiling_missing (cfg : Settings) (file : FilingFile) (rows : List FilingRequirement) :
    (validateFiling cfg file rows).missingRequiredDocuments =
      waiverForm file ++ (missingRows cfg file rows).map FilingRequirement.reported := by
  unfold validateFiling waiverForm missingRows
  refine congrArg₂ _ rfl ?_
  by_cases hservice : file.filing.filingType = .serviceOnly
  · simp only [hservice, beq_self_eq_true, if_true, List.map_nil]
  · by_cases hsubsequent : file.filing.filingType = .subsequent ∧
        (file.currentDocuments.map FilingDocument.documentTypeCode).any isMotionType = false
    · simp only [hsubsequent.1, hsubsequent.2, beq_self_eq_true, Bool.not_false, Bool.and_self, if_true, and_self]
      rfl
    · have hsubsequent' : (file.filing.filingType == .subsequent &&
          !(file.currentDocuments.map FilingDocument.documentTypeCode).any isMotionType) = false := by
        simpa using hsubsequent
      simp only [beq_eq_false_iff_ne.2 hservice, hsubsequent', if_neg hservice, if_neg hsubsequent, Bool.false_eq_true,
        if_false]
      rfl

theorem missingRows_sublist (cfg : Settings) (file : FilingFile) (rows : List FilingRequirement) :
    (missingRows cfg file rows).Sublist rows := by
  obtain ⟨p, hp⟩ := requirementsForFilingType_filter cfg file.filing.filingType
  unfold missingRows
  dsimp only
  split
  · exact List.nil_sublist _
  · split
    · exact List.nil_sublist _
    · rw [hp]
      exact (List.filter_sublist.trans List.filter_sublist).trans List.filter_sublist

theorem mem_missingRows (cfg : Settings) (file : FilingFile) (rows : List FilingRequirement) (r : FilingRequirement) :
    r ∈ missingRows cfg file rows ↔
      r ∈ getFilingRequirements cfg rows file.filing.caseTypeId (some file.filing.filingType) ∧ r.isRequired = true ∧
        Enforced file.filing.filingType (file.currentDocuments.map FilingDocument.documentTypeCode)
          r.documentTypeCode := by
  obtain ⟨p, hp⟩ := requirementsForFilingType_filter cfg file.filing.filingType
  rw [mem_getFilingRequirements hp]
  unfold missingRows
  dsimp only
  by_cases hservice : file.filing.filingType = .serviceOnly
  · rw [if_pos hservice]
    simp only [List.not_mem_nil, false_iff]
    exact fun h => h.2.2.checked hservice
  · rw [if_neg hservice, hp]
    by_cases hsubsequent : file.filing.filingType = .subsequent ∧
        (file.currentDocuments.map FilingDocument.documentTypeCode).any isMotionType = false
    · rw [if_pos hsubsequent]
      simp only [List.not_mem_nil, false_iff]
      rintro ⟨_, _, h⟩
      obtain ⟨d, hd, hmotion⟩ := h.moved hsubsequent.1
      have hany := List.any_eq_true.2 ⟨d, hd, (isMotionType_iff d).2 hmotion⟩
      rw [hsubsequent.2] at hany
      cases hany
    · rw [if_neg hsubsequent]
      simp only [List.mem_filter, Bool.and_eq_true, beq_iff_eq, Bool.not_eq_true', requirementSatisfied_iff]
      constructor
      · rintro ⟨⟨⟨hrow, htype, hrequired⟩, hshown⟩, hunfiled, hmotion, hgood⟩
        refine ⟨⟨hrow, htype, hshown⟩, hrequired, hunfiled, hservice, fun hs => ?_, hmotion, hgood⟩
        obtain ⟨d, hd, hmotion⟩ := List.any_eq_true.1 (Bool.of_not_eq_false fun hno => hsubsequent ⟨hs, hno⟩)
        exact ⟨d, hd, (isMotionType_iff d).1 hmotion⟩
      · rintro ⟨⟨hrow, htype, hshown⟩, hrequired, h⟩
        exact ⟨⟨⟨hrow, htype, hrequired⟩, hshown⟩, h.unfiled, h.uncovered, h.disputed⟩

/-- **The validator agrees with the panel.** It reports the required rows of the panel that the rules enforce, so only
rows whose documents are not filed, and none where each required row of the panel has its document. -/
theorem validateFiling_requirements (cfg : Settings) (file : FilingFile) (rows : List FilingRequirement) :
    ∃ missing : List FilingRequirement, missing.Sublist rows ∧
      (validateFiling cfg file rows).missingRequiredDocuments = waiverForm file ++
      missing.map FilingRequirement.reported ∧ (∀ r, r ∈ missing ↔
        r ∈ getFilingRequirements cfg rows file.filing.caseTypeId (some file.filing.filingType) ∧ r.isRequired = true ∧
        Enforced file.filing.filingType (file.currentDocuments.map FilingDocument.documentTypeCode)
          r.documentTypeCode) ∧
      (∀ r ∈ missing, r.documentTypeCode ∉ file.currentDocuments.map FilingDocument.documentTypeCode) ∧
      ((∀ r ∈ getFilingRequirements cfg rows file.filing.caseTypeId (some file.filing.filingType), r.isRequired = true →
        r.documentTypeCode ∈ file.currentDocuments.map FilingDocument.documentTypeCode) → missing = []) := by
  have hmem := mem_missingRows cfg file rows
  refine ⟨missingRows cfg file rows, missingRows_sublist cfg file rows, validateFiling_missing cfg file rows, hmem,
    fun r hr => ((hmem r).1 hr).2.2.unfiled, fun hall => ?_⟩
  rw [List.eq_nil_iff_forall_not_mem]
  intro r hr
  obtain ⟨hshown, hrequired, h⟩ := (hmem r).1 hr
  exact h.unfiled (hall r hshown hrequired)

end Muefs
