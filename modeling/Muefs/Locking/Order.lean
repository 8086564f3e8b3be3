import Mathlib.Data.Prod.Lex
import Muefs.RowLocks.LockOrder
import Muefs.Steps.Asks

/-!
# The order of row locks

* `Rank`, `lockTurn` : users and filings, each by their ids, then courts, case types and cases; a case type is locked
  for an update only under its court;
* `AtHome` : the court of each case type, as the store tells it; `portalOrder` : the order with what the requests of the
  portal change;
* `lockCurrentUser_descends`, `lockFiling_descends`, `validateFilingDestination_descends` : the parts that lock;
* `Easy` parts, such as `recordTransaction_easy`.
-/

namespace Muefs
open RowLocks Txn

/-! ## Ranks -/

/-- Locks are taken from high ranks to low ones. -/
abbrev Rank := Nat ×ₗ Int

instance rankPreorder : Preorder Rank :=
  @Prod.Lex.instPreorder Nat Int Nat.instPreorder Int.instLinearOrder.toPartialOrder.toPreorder

def rank (n : Nat) (k : Int) : Rank := toLex (n, k)

@[simp] theorem rank_lt {n n' : Nat} {k k' : Int} : rank n k < rank n' k' ↔ n < n' ∨ n = n' ∧ k < k' :=
  Prod.Lex.toLex_lt_toLex

@[simp] theorem rank_le {n n' : Nat} {k k' : Int} : rank n k ≤ rank n' k' ↔ n < n' ∨ n = n' ∧ k ≤ k' :=
  Prod.Lex.toLex_le_toLex

/-- When each row may be locked, where `home` gives the court of a case type. Entries of unique indexes are no part of
the order. -/
def lockTurn (home : CaseTypeId → CourtId) : Mode → Row → Turn Row Rank
  | _, .user id => .ranked (rank 7 (-id))
  | _, .envelope id => .ranked (rank 6 (-id))
  | .update, .court _ | .update, .case _ => .ranked (rank 5 0)
  | .share, .court _ | .share, .caseType _ | .share, .case _ => .ranked (rank 4 0)
  | .update, .caseType id => .guarded (.court (home id))
  | _, .document _ => .ranked (rank 3 0)
  | _, .deletion _ => .ranked (rank 1 0)
  | _, _ => .apart

/-- A case type belongs to this court, and a court lists its own case types only. -/
def AtHome (home : CaseTypeId → CourtId) : (g : Row) → View g → Prop
  | .caseType id, v => ∀ caseType, v = some caseType → caseType.courtId = home id
  | .courtCaseTypes courtId, ids => ∀ id ∈ ids, home id = courtId
  | _, _ => True

/-- Which case types a court has never changes. -/
def KeepsLists : Op View → Prop
  | .write (.courtCaseTypes _) _ | .act (.courtCaseTypes _) _ => False
  | _ => True

/-- The order of row locks. -/
def portalOrder (home : CaseTypeId → CourtId) : LockOrder View Rank where
  turn := lockTurn home
  changes := KeepsLists
  known := AtHome home

@[simp] theorem portalOrder_locks (home : CaseTypeId → CourtId) :
    (portalOrder home).rules.locks = MayAsk (lockTurn home) := rfl

section Turns

variable {home : CaseTypeId → CourtId} {locks : Set (Mode × Row)} {b : Rank}

theorem clears_user {m : Mode} {id : UserId} (hb : b < rank 7 (-id)) : Clears (lockTurn home) locks m (.user id) b := by
  intro m' _
  cases m' <;> exact hb

theorem clears_envelope {m : Mode} {id : FilingId} (hb : b < rank 6 (-id)) :
    Clears (lockTurn home) locks m (.envelope id) b := by
  intro m' _
  cases m' <;> exact hb

theorem clears_court {id : CourtId} (hb : b < rank 5 0) : Clears (lockTurn home) locks .share (.court id) b := by
  intro m' hm
  cases m' with
  | share => exact absurd trivial hm
  | update => exact hb

theorem clears_case {id : CaseId} (hb : b < rank 5 0) : Clears (lockTurn home) locks .share (.case id) b := by
  intro m' hm
  cases m' with
  | share => exact absurd trivial hm
  | update => exact hb

theorem clears_caseType {id : CaseTypeId} {m : Mode} (hcourt : (m, .court (home id)) ∈ locks) :
    Clears (lockTurn home) locks .share (.caseType id) b := by
  intro m' hm
  cases m' with
  | share => exact absurd trivial hm
  | update => exact ⟨m, hcourt⟩

theorem clears_document {m : Mode} {id : DocumentId} : Clears (lockTurn home) locks m (.document id) (rank 2 0) := by
  intro m' _
  cases m' <;> exact rank_lt.2 (by simp)

theorem clears_deletion {m : Mode} {id : Nat} : Clears (lockTurn home) locks m (.deletion id) (rank 0 0) := by
  intro m' _
  cases m' <;> exact rank_lt.2 (by simp)

theorem clears_court_update {id : CourtId} {m : Mode} (hb : b < rank 4 0) :
    Clears (lockTurn home) locks m (.court id) b := by
  intro m' _
  cases m' with
  | share => exact hb
  | update => exact hb.trans (by simp)

theorem clears_case_update {id : CaseId} {m : Mode} (hb : b < rank 4 0) :
    Clears (lockTurn home) locks m (.case id) b := by
  intro m' _
  cases m' with
  | share => exact hb
  | update => exact hb.trans (by simp)

theorem clears_caseType_update {id : CaseTypeId} {m m' : Mode} (hb : b < rank 4 0)
    (hcourt : (m', .court (home id)) ∈ locks) : Clears (lockTurn home) locks m (.caseType id) b := by
  intro m'' _
  cases m'' with
  | share => exact hb
  | update => exact ⟨m', hcourt⟩

end Turns

/-! ## Requests outside the order -/

/-- Entries of unique indexes. -/
def isIndex : Row → Bool
  | .accountKey _ | .usersTable | .creationKey _ _ | .caseNumber _ _ | .externalRequest _ | .externalReceipt _ => true
  | _ => false

/-- The rows that requests write. -/
def isWritten : Row → Bool
  | .courtCaseTypes _ => false
  | _ => true

/-- A request that waits for no row of the order, and changes no list. -/
def Easy : Op View → Prop
  | .lock _ g => isIndex g = true
  | .write g _ => isWritten g = true
  | .act (.object _) _ | .clock | .fresh | .look _ | .snapshot => True
  | _ => False

theorem Easy.order {home : CaseTypeId → CourtId} {o : Op View} (h : Easy o) : (portalOrder home).Easy o := by
  cases o with
  | lock m g =>
    cases g with
    | accountKey | usersTable | creationKey | caseNumber | externalRequest | externalReceipt =>
      exact fun m' => by cases m' <;> rfl
    | _ => cases h
  | write g f =>
    cases g with
    | courtCaseTypes => cases h
    | _ => trivial
  | act g f =>
    cases g with
    | object => trivial
    | _ => exact h.elim
  | tryLock | keep | letGo => exact h.elim
  | _ => trivial

section Easy

variable {cfg : Settings} {userId : UserId} {filingId : FilingId}

@[simp] theorem easy_clock : Easy .clock := trivial
@[simp] theorem easy_fresh : Easy .fresh := trivial
@[simp] theorem easy_look (g : Row) : Easy (.look g) := trivial
@[simp] theorem easy_object (key : FileKey) (f : Option Content → Option Content) :
    Easy (.act (.object key) f) := trivial
@[simp] theorem easy_write (g : Row) (f : View g → View g) : Easy (.write g f) ↔ isWritten g = true := Iff.rfl
@[simp] theorem easy_lock (m : Mode) (g : Row) : Easy (.lock m g) ↔ isIndex g = true := Iff.rfl

attribute [simp] isIndex isWritten

@[simp] theorem getCurrentUser_easy : (getCurrentUser userId).Asks Easy := by
  unfold getCurrentUser
  repeat' with_reducible first | refine Asks.bind ?_ fun _ => ?_ | refine Asks.ite ?_ ?_ | split | dsimp only
  all_goals simp

@[simp] theorem signedInFiler_easy : (signedInFiler userId).Asks Easy :=
  getCurrentUser_easy.bind fun _ => by simp [requireUserMayManageEfilings]

@[simp] theorem getFiling_easy : (getFiling filingId).Asks Easy := by
  unfold getFiling
  repeat' with_reducible first | refine Asks.bind ?_ fun _ => ?_ | refine Asks.ite ?_ ?_ | split | dsimp only
  all_goals simp

@[simp] theorem ownedFiling_easy (file : Option FilingFile) (refusal : String) :
    (ownedFiling file userId refusal).Asks Easy := by
  unfold ownedFiling
  repeat' with_reducible first | refine Asks.bind ?_ fun _ => ?_ | refine Asks.ite ?_ ?_ | split | dsimp only
  all_goals simp

@[simp] theorem saveFiling_easy (file : FilingFile) : (saveFiling filingId file).Asks Easy := by
  simp [saveFiling]

@[simp] theorem recordTransaction_easy (file : FilingFile) (event : EventType) (reason : Option String)
    (key : Option Uuid) (details : Details) :
    (recordTransaction cfg file event userId reason key details).Asks Easy := by
  unfold recordTransaction eventDetails receiptDetails lookCase notifyFilingStatusChange
  repeat' with_reducible first | refine Asks.bind ?_ fun _ => ?_ | refine Asks.ite ?_ ?_ | split | dsimp only
  all_goals simp

@[simp] theorem verifyFilingDocuments_easy (file : FilingFile) (order : Option FilingDocument) :
    (verifyFilingDocuments file order).Asks Easy := by
  have hdocs : ∀ docs, (verifyDocuments docs).Asks Easy := by
    intro docs
    induction docs with
    | nil => simp [verifyDocuments]
    | cons doc docs ih =>
      exact Asks.bind (by simp) fun stored => .bind (by simp) fun content => .bind (by simp) fun _ => ih
  exact Asks.bind (by simp) fun _ => hdocs _

@[simp] theorem checkSubmission_easy (locked : Bool) (file : FilingFile) (token : SubmissionToken) (key : Option Uuid) :
    (checkSubmission cfg locked file token key).Asks Easy := by
  unfold checkSubmission relatedRows
  repeat' with_reducible first | refine Asks.bind ?_ fun _ => ?_ | refine Asks.ite ?_ ?_ | split | dsimp only
  all_goals simp

@[simp] theorem inspectUpload_easy {file : Upload} {requirePdf : Bool} :
    (inspectUpload cfg file requirePdf).Asks Easy := by
  unfold inspectUpload readUpload
  repeat' with_reducible first | refine Asks.bind ?_ fun _ => ?_ | refine Asks.ite ?_ ?_ | split | dsimp only
  all_goals simp

@[simp] theorem storeDocumentUpload_easy (file : Upload) (code title : String) (isConfidential : Bool) :
    (storeDocumentUpload cfg filingId file code title isConfidential).Asks Easy := by
  unfold storeDocumentUpload
  repeat' with_reducible first | refine Asks.bind ?_ fun _ => ?_ | refine Asks.ite ?_ ?_ | split | dsimp only
  all_goals simp

@[simp] theorem insertDocument_easy (doc : FilingDocument) : (insertDocument filingId doc).Asks Easy := by
  unfold insertDocument
  repeat' with_reducible first | refine Asks.bind ?_ fun _ => ?_ | refine Asks.ite ?_ ?_ | split | dsimp only
  all_goals simp

@[simp] theorem selectUsers_easy (p : UserId → User → Bool) : (selectUsers p).Asks Easy := by
  have hread : ∀ ids, (readUsers p ids).Asks Easy := by
    intro ids
    induction ids with
    | nil => simp [readUsers]
    | cons id ids ih => exact Asks.bind (by simp) fun row => ih.bind fun rest => by simp
  exact Asks.bind (by simp) fun ids => hread ids

@[simp] theorem documentContext_easy (id : DocumentId) : (documentContext userId id).Asks Easy := by
  unfold documentContext mayDecide
  repeat' with_reducible first | refine Asks.bind ?_ fun _ => ?_ | refine Asks.ite ?_ ?_ | split | dsimp only
  all_goals simp

end Easy

/-! ## Parts that lock -/

section Parts

variable {home : CaseTypeId → CourtId} {userId : UserId} {filingId : FilingId} {b b' : Rank} {α : Type}

theorem descends_of_easy {p : Portal α} (h : p.Asks Easy) (hle : b' ≤ b) : Descends (portalOrder home) b b' p :=
  .of_easy (h.mono fun _ => Easy.order) hle

theorem lockUser_descends {m : Mode} :
    Descends (portalOrder home) (rank 8 0) (rank 6 0) (Txn.lock m (Row.user userId) : Portal (View (.user userId))) :=
  .lock rfl (by simp) (by simp) fun _ => clears_user (by simp)

theorem lockCurrentUser_descends : Descends (portalOrder home) (rank 8 0) (rank 6 0) (lockCurrentUser userId) :=
  lockUser_descends.bind fun row => descends_of_easy (Asks.bind (by simp) fun account =>
    .bind (by simp) fun _ => by simp)
    le_rfl

theorem lockFiler_descends : Descends (portalOrder home) (rank 8 0) (rank 6 0) (lockFiler userId) :=
  lockCurrentUser_descends.bind fun account => descends_of_easy
    (Asks.bind (by simp [requireUserMayManageEfilings]) fun _ => by simp) le_rfl

theorem lockFiling_descends : Descends (portalOrder home) (rank 6 (-filingId)) (rank 6 (-filingId - 1))
    (lockFiling filingId) :=
  .lock rfl (by simp) (by simp) fun _ => clears_envelope (by simp)

theorem lockFiling_first : Descends (portalOrder home) (rank 6 0) (rank 5 0) (lockFiling filingId) :=
  lockFiling_descends.mono (by simp) (by simp)

/-- **The locks of a destination.** The check of the case type against the court comes before the next lock. -/
theorem validateFilingDestination_descends (dest : Destination) (filer : Option Viewer) :
    Descends (portalOrder home) (rank 4 0) (rank 4 0) (validateFilingDestination dest filer true) := by
  refine ⟨fun locks hready => ?_⟩
  simp only [validateFilingDestination, obeys_bind, obeys_require, obeys_expect, readRow, if_true, obeys_lock,
    portalOrder_locks]
  intro _ _ _
  have hcourt : Ready (lockTurn home) (insert (.share, .court dest.courtId) locks) (rank 4 0) :=
    hready.insert (clears_court (by simp))
  refine ⟨hready.mayAsk rfl le_rfl, fun courtRow _ => ⟨hcourt.mayAsk rfl le_rfl,
    fun caseTypeRow hhome court hc caseType ht hbelongs _ _ => ?_⟩⟩
  have hsame : home dest.caseTypeId = dest.courtId := (hhome caseType ht).symm.trans hbelongs
  have htype : Ready (lockTurn home) (insert (.share, .caseType dest.caseTypeId) (insert (.share,
    .court dest.courtId) locks))
      (rank 4 0) := by
    refine hcourt.insert (clears_caseType (m := .share) ?_)
    rw [hsame]
    exact Set.mem_insert _ _
  have hmore : locks ⊆ insert (.share, .caseType dest.caseTypeId) (insert (.share, .court dest.courtId) locks) :=
    (Set.subset_insert _ _).trans (Set.subset_insert _ _)
  unfold validateCase
  split
  · exact ⟨htype, hmore⟩
  · simp only [obeys_bind, obeys_require, obeys_expect, readRow, if_true, obeys_lock, obeys_pure,
      portalOrder_locks]
    refine ⟨htype.mayAsk rfl le_rfl, fun row _ case _ _ _ _ => ⟨?_, hmore.trans (Set.subset_insert _ _)⟩⟩
    exact htype.insert (clears_case (by simp))

theorem validateFilingDestination_easy (dest : Destination) (filer : Option Viewer) :
    (validateFilingDestination dest filer false).Asks Easy := by
  unfold validateFilingDestination validateCase readRow
  simp only [Bool.false_eq_true, if_false]
  repeat' with_reducible first | refine Asks.bind ?_ fun _ => ?_ | refine Asks.ite ?_ ?_ | split | dsimp only
  all_goals simp

end Parts

end Muefs
