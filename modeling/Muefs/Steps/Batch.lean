import Mathlib.Data.List.Count
import Mathlib.Data.List.Perm.Basic
import Muefs.Steps.Review

/-!
# What a batch reports

* `batchVerified`, `batchRecorded` : the two halves of `batch_review_filings`;
* `verifyBatch_accounts`, `recordBatch_accounts` : each loop reports every filing once, as accepted or as failed;
* `batchReviewFilings_accounts` : so does the batch.
-/

namespace Muefs
open RowLocks

variable {cfg : Settings} {userId : UserId} {cms : Cms}

/-! ## The two halves -/

/-- `batch_review_filings` up to the end of its first loop. -/
def batchVerified (userId : UserId) (data : BatchReviewRequest) :
    Portal (List (BatchReviewItem × ReviewEvidence) × BatchResult) := do
  let account ← lockCurrentUser userId
  verifyBatch userId account (data.filings.mergeSort fun a b => a.filingId ≤ b.filingId) [] {}

/-- `batch_review_filings` after its first loop. -/
def batchRecorded (cfg : Settings) (cms : Cms) (userId : UserId)
    (verified : List (BatchReviewItem × ReviewEvidence) × BatchResult) : Portal Response := do
  lockFilings (verified.1.map fun v => v.1.filingId)
  let result ← recordBatch cfg cms userId verified.1 verified.2
  return .batch result.succeeded (result.failed.mergeSort fun a b => a ≤ b) result.errors

theorem batchReviewFilings_eq (data : BatchReviewRequest) : batchReviewFilings cfg cms userId data =
    batchVerified userId data >>= batchRecorded cfg cms userId := by
  simp only [batchReviewFilings, batchVerified, bind_assoc]
  rfl

/-! ## Every filing once -/

def BatchResult.Explained (result : BatchResult) : Prop := result.errors.map Prod.fst = result.failed

def BatchResult.reported (result : BatchResult) : List FilingId := result.succeeded ++ result.failed

theorem BatchResult.explained_fail {result : BatchResult} (h : result.Explained) (f : FilingId) (text : String) :
    (result.fail f text).Explained := by
  simp only [Explained, fail, List.map_append, List.map_cons, List.map_nil] at *
  rw [h]

theorem BatchResult.count_fail (result : BatchResult) (f g : FilingId) (text : String) :
    (result.fail f text).reported.count g = result.reported.count g + [f].count g := by
  simp [reported, fail, List.count_append, Nat.add_assoc]

theorem BatchResult.count_succeed (result : BatchResult) (f g : FilingId) :
    (result.succeed f).reported.count g = result.reported.count g + [f].count g := by
  simp only [reported, succeed, List.count_append]
  omega

theorem verifyBatch_accounts {account : Account} {items : List BatchReviewItem}
    {verified : List (BatchReviewItem × ReviewEvidence)} {result : BatchResult} {tr : Trace}
    {out : List (BatchReviewItem × ReviewEvidence) × BatchResult}
    (h : (verifyBatch userId account items verified result).Ends tr out) (hexp : result.Explained) :
    out.2.Explained ∧ ∀ g, (out.1.map fun v => v.1.filingId).count g + out.2.reported.count g =
      (verified.map fun v => v.1.filingId).count g + result.reported.count g +
        (items.map BatchReviewItem.filingId).count g := by
  induction items generalizing verified result tr with
  | nil =>
    obtain ⟨_, rfl⟩ := Txn.ends_done.1 h
    exact ⟨hexp, fun g => by simp⟩
  | cons item items ih =>
    obtain ⟨tr₁, tr₂, checked, rfl, _, hrest⟩ := Txn.ends_bind.1 h
    have hcons : ∀ g, ((item :: items).map BatchReviewItem.filingId).count g =
        [item.filingId].count g + (items.map BatchReviewItem.filingId).count g := by
      intro g
      rw [← List.count_append]
      rfl
    rcases checked with x | (_ | evidence)
    · obtain ⟨hexp', hcount⟩ := ih hrest (result.explained_fail hexp _ _)
      refine ⟨hexp', fun g => ?_⟩
      rw [hcount, hcons, BatchResult.count_fail]
      omega
    · obtain ⟨hexp', hcount⟩ := ih hrest (result.explained_fail hexp _ _)
      refine ⟨hexp', fun g => ?_⟩
      rw [hcount, hcons, BatchResult.count_fail]
      omega
    · obtain ⟨hexp', hcount⟩ := ih hrest hexp
      refine ⟨hexp', fun g => ?_⟩
      rw [hcount, hcons, List.map_append, List.count_append]
      simp only [List.map_cons, List.map_nil]
      omega

theorem recordBatch_accounts {items : List (BatchReviewItem × ReviewEvidence)} {result out : BatchResult} {tr : Trace}
    (h : (recordBatch cfg cms userId items result).Ends tr out) (hexp : result.Explained) :
    out.Explained ∧ ∀ g, out.reported.count g = result.reported.count g +
      (items.map fun v => v.1.filingId).count g := by
  induction items generalizing result tr with
  | nil =>
    obtain ⟨_, rfl⟩ := Txn.ends_done.1 h
    exact ⟨hexp, fun g => by simp⟩
  | cons v items ih =>
    obtain ⟨tr₁, tr₂, outcome, rfl, _, hrest⟩ := Txn.ends_bind.1 h
    have hcons : ∀ g, ((v :: items).map fun v => v.1.filingId).count g =
        [v.1.filingId].count g + (items.map fun v => v.1.filingId).count g := by
      intro g
      rw [← List.count_append]
      rfl
    have hfail : ∀ text, (recordBatch cfg cms userId items (result.fail v.1.filingId text)).Ends tr₂ out →
        out.Explained ∧ ∀ g, out.reported.count g = result.reported.count g +
          ((v :: items).map fun v => v.1.filingId).count g := by
      intro text hrest
      obtain ⟨hexp', hcount⟩ := ih hrest (result.explained_fail hexp _ _)
      refine ⟨hexp', fun g => ?_⟩
      rw [hcount, hcons, BatchResult.count_fail]
      omega
    rcases outcome with x | (_ | _ | _)
    · exact hfail _ hrest
    · exact hfail _ hrest
    · exact hfail _ hrest
    · obtain ⟨hexp', hcount⟩ := ih hrest hexp
      refine ⟨hexp', fun g => ?_⟩
      rw [hcount, hcons, BatchResult.count_succeed]
      omega

/-- **A batch reports each of its filings once, as accepted or as failed with an error.** -/
theorem batchReviewFilings_accounts {data : BatchReviewRequest} {tr : Trace} {a : Response}
    (h : (batchReviewFilings cfg cms userId data).Ends tr a) : ∃ result : BatchResult,
      a = .batch result.succeeded (result.failed.mergeSort fun a b => a ≤ b) result.errors ∧ result.Explained ∧
      result.reported.Perm (data.filings.map BatchReviewItem.filingId) ∧ result.reported.Nodup := by
  rw [batchReviewFilings_eq] at h
  obtain ⟨_, _, verified, _, hfirst, hsecond⟩ := Txn.ends_bind.1 h
  obtain ⟨_, _, account, _, _, hverify⟩ := Txn.ends_bind.1 hfirst
  obtain ⟨_, _, _, _, _, hloop⟩ := Txn.ends_bind.1 hsecond
  obtain ⟨_, _, result, _, hrecord, hdone⟩ := Txn.ends_bind.1 hloop
  obtain ⟨_, rfl⟩ := Txn.ends_done.1 hdone
  obtain ⟨hexp₁, hcount₁⟩ := verifyBatch_accounts hverify (by simp [BatchResult.Explained])
  obtain ⟨hexp₂, hcount₂⟩ := recordBatch_accounts hrecord hexp₁
  have hperm : result.reported.Perm (data.filings.map BatchReviewItem.filingId) := by
    refine .trans (List.perm_iff_count.2 fun g => ?_)
      ((List.mergeSort_perm data.filings fun a b => a.filingId ≤ b.filingId).map BatchReviewItem.filingId)
    have h₁ := hcount₁ g
    rw [hcount₂, Nat.add_comm, h₁]
    simp [BatchResult.reported]
  exact ⟨result, rfl, hexp₂, hperm, hperm.nodup_iff.2 data.unique⟩

end Muefs
