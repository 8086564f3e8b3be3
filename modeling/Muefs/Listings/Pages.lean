import Mathlib.Data.List.Basic
import Mathlib.Data.List.Flatten
import Mathlib.Data.List.Nodup
import Mathlib.Data.List.Range

/-!
# Lists in pages

* `page size xs n` : the page `n` of a list, counted from zero;
* `flatMap_page` : the pages one after the other are the list;
* `exists_page_unique` : what the elements give, under keys that are all different, is on one page and there once.
-/

namespace Listings

variable {α : Type}

/-- The page `n`, counted from zero. -/
def page (size : Nat) (xs : List α) (n : Nat) : List α := (xs.drop (n * size)).take size

theorem page_sublist (size : Nat) (xs : List α) (n : Nat) : (page size xs n).Sublist xs :=
  (List.take_sublist _ _).trans (List.drop_sublist _ _)

theorem flatMap_page_take (size count : Nat) (xs : List α) :
    (List.range count).flatMap (page size xs) = xs.take (count * size) := by
  induction count with
  | zero => rw [Nat.zero_mul, List.take_zero, List.range_zero, List.flatMap_nil]
  | succ count ih =>
    rw [List.range_succ, List.flatMap_append, ih, List.flatMap_singleton, Nat.succ_mul, List.take_add]
    rfl

/-- **The pages, one after the other, are the list.** -/
theorem flatMap_page {size count : Nat} {xs : List α} (h : xs.length ≤ count * size) :
    (List.range count).flatMap (page size xs) = xs := by
  rw [flatMap_page_take, List.take_of_length_le h]

theorem exists_page {size : Nat} {xs : List α} {x : α} (hsize : 0 < size) (hx : x ∈ xs) : ∃ n, x ∈ page size xs n := by
  have hlength : xs.length ≤ xs.length * size := Nat.le_mul_of_pos_right _ hsize
  rw [← flatMap_page hlength] at hx
  obtain ⟨n, -, hn⟩ := List.mem_flatMap.1 hx
  exact ⟨n, hn⟩

theorem page_append_sublist {size m n : Nat} {xs : List α} (h : m < n) :
    (page size xs m ++ page size xs n).Sublist xs := by
  have hsplit : page size xs m ++ (xs.drop (m * size)).drop size = xs.drop (m * size) := List.take_append_drop _ _
  refine List.Sublist.trans ?_ (List.drop_sublist (m * size) xs)
  rw [← hsplit]
  refine List.Sublist.append_left ((List.take_sublist _ _).trans ?_) _
  have hle : m * size + size ≤ n * size := by
    rw [← Nat.succ_mul]
    exact Nat.mul_le_mul_right size h
  rw [List.drop_drop, ← Nat.add_sub_cancel' hle, ← List.drop_drop]
  exact List.drop_sublist _ _

theorem filter_key_eq {β κ : Type} [DecidableEq κ] {key : β → κ} {l : List β} (hnodup : (l.map key).Nodup) {b : β}
    (hb : b ∈ l) : (l.filter fun b' => decide (key b' = key b)) = [b] := by
  induction l with
  | nil => cases hb
  | cons a l ih =>
    rw [List.map_cons, List.nodup_cons] at hnodup
    rcases List.mem_cons.1 hb with rfl | hb
    · have hrest : (l.filter fun b' => decide (key b' = key b)) = [] := by
        refine List.filter_eq_nil_iff.2 fun b' hb' heq => hnodup.1 ?_
        rw [← of_decide_eq_true heq]
        exact List.mem_map_of_mem hb'
      rw [List.filter_cons, if_pos (decide_eq_true rfl), hrest]
    · have hne : ¬ decide (key a = key b) = true := by
        intro heq
        exact hnodup.1 (of_decide_eq_true heq ▸ List.mem_map_of_mem hb)
      rw [List.filter_cons, if_neg hne]
      exact ih hnodup.2 hb

/-- What elements of a list give, under keys that are all different: one page gives it, once, and no other page does. -/
theorem exists_page_unique {β κ : Type} [DecidableEq κ] {g : α → List β} {key : β → κ} {size : Nat} {xs : List α}
    (hnodup : ((xs.flatMap g).map key).Nodup) (hsize : 0 < size) {x : α} {b : β} (hx : x ∈ xs) (hb : b ∈ g x) :
    ∃ n, (((page size xs n).flatMap g).filter fun b' => decide (key b' = key b)) = [b] ∧
      ∀ m, m ≠ n → (((page size xs m).flatMap g).filter fun b' => decide (key b' = key b)) = [] := by
  obtain ⟨n, hn⟩ := exists_page hsize hx
  have hmem : b ∈ (page size xs n).flatMap g := List.mem_flatMap.2 ⟨x, hn, hb⟩
  have hsub : ∀ {ys : List α}, ys.Sublist xs → ((ys.flatMap g).map key).Nodup :=
    fun h => ((h.flatMap g).map key).nodup hnodup
  refine ⟨n, filter_key_eq (hsub (page_sublist size xs n)) hmem, fun m hne => List.filter_eq_nil_iff.2 ?_⟩
  intro b' hb' heq
  have hkey := of_decide_eq_true heq
  have hapart : ∀ {i j}, i < j → ∀ a ∈ (page size xs i).flatMap g, ∀ a' ∈ (page size xs j).flatMap g,
      key a ≠ key a' := by
    intro i j hij a ha a' ha'
    have hboth : (((page size xs i ++ page size xs j).flatMap g).map key).Nodup := hsub (page_append_sublist hij)
    rw [List.flatMap_append, List.map_append, List.nodup_append] at hboth
    exact hboth.2.2 _ (List.mem_map_of_mem ha) _ (List.mem_map_of_mem ha')
  rcases Nat.lt_or_gt_of_ne hne with hlt | hgt
  · exact hapart hlt b' hb' b hmem hkey
  · exact hapart hgt b hmem b' hb' hkey.symm

end Listings
