import Mathlib.Data.List.Nodup
import Mathlib.Order.Lattice
import Muefs.Listings.Generators

/-!
# Reading a table in order of its key

* `keysetPage` : the next rows after a key, `… WHERE key > last ORDER BY key LIMIT n`;
* `inOrder` : the rows in order of their keys; `keysetPage_eq` : a page is the next piece of it;
* `keysetLoop` : the loop that reads page after page until one is empty, one unit of fuel for each page;
* `gives_keysetLoop` : the rule for the loop: it ends, and it has seen every row once.
-/

namespace Listings

variable {α κ : Type} [LinearOrder κ]

/-- The row is after the last key. -/
def after (key : α → κ) (last : Option κ) (x : α) : Bool := last.all fun k => decide (k < key x)

def keyLe (key : α → κ) (a b : α) : Bool := decide (key a ≤ key b)

/-- The rows in order of their keys. -/
def inOrder (key : α → κ) (rows : List α) : List α := rows.mergeSort (keyLe key)

/-- The first rows after the last key. -/
def keysetPage (key : α → κ) (rows : List α) (limit : Nat) (last : Option κ) : List α :=
  (inOrder key (rows.filter (after key last))).take limit

section Order

variable {key : α → κ} {rows done rest : List α}

theorem inOrder_perm : (inOrder key rows).Perm rows := List.mergeSort_perm _ _

theorem inOrder_pairwise (key : α → κ) (rows : List α) : (inOrder key rows).Pairwise fun a b =>
    keyLe key a b = true := by
  refine List.pairwise_mergeSort (fun a b c hab hbc => ?_) (fun a b => ?_) rows
  · unfold keyLe at hab hbc ⊢
    rw [decide_eq_true_eq] at hab hbc ⊢
    exact le_trans hab hbc
  · unfold keyLe
    rw [Bool.or_eq_true, decide_eq_true_eq, decide_eq_true_eq]
    exact le_total _ _

theorem inOrder_strict (hnodup : (rows.map key).Nodup) : (inOrder key rows).Pairwise fun a b => key a < key b := by
  have hnodup : ((inOrder key rows).map key).Nodup := (inOrder_perm.map key).nodup_iff.2 hnodup
  rw [List.Nodup, List.pairwise_map] at hnodup
  refine (inOrder_pairwise key rows).imp₂ (fun a b hle hne => ?_) hnodup
  exact lt_of_le_of_ne (of_decide_eq_true hle) hne

theorem inOrder_filter (hnodup : (rows.map key).Nodup) (p : α → Bool) :
    inOrder key (rows.filter p) = (inOrder key rows).filter p := by
  refine List.Perm.eq_of_pairwise (fun a b ha hb hab hba => ?_)
    (inOrder_pairwise key _) ((inOrder_pairwise key _).filter p) ?_
  · have ha := List.mem_of_mem_filter (inOrder_perm.mem_iff.1 ha)
    have hb := inOrder_perm.mem_iff.1 (List.mem_of_mem_filter hb)
    exact List.inj_on_of_nodup_map hnodup ha hb (le_antisymm (of_decide_eq_true hab) (of_decide_eq_true hba))
  · exact inOrder_perm.trans (inOrder_perm.symm.filter p)

/-- **A page is the next piece of the rows in order.** -/
theorem keysetPage_eq (hnodup : (rows.map key).Nodup) (hsplit : inOrder key rows = done ++ rest) (limit : Nat) :
    keysetPage key rows limit (done.getLast?.map key) = rest.take limit := by
  have hstrict := inOrder_strict hnodup
  rw [hsplit, List.pairwise_append] at hstrict
  obtain ⟨hdone, -, hacross⟩ := hstrict
  have hold : done.filter (after key (done.getLast?.map key)) = [] := by
    refine List.filter_eq_nil_iff.2 fun a ha hafter => ?_
    cases hlast : done.getLast? with
    | none => exact List.not_mem_nil (List.getLast?_eq_none_iff.1 hlast ▸ ha)
    | some b =>
      rw [hlast, Option.map_some, after, Option.all_some, decide_eq_true_eq] at hafter
      rw [← List.dropLast_append_getLast? b hlast] at ha hdone
      rcases List.mem_append.1 ha with ha | ha
      · exact lt_asymm hafter ((List.pairwise_append.1 hdone).2.2 a ha b List.mem_cons_self)
      · exact lt_irrefl _ (List.mem_singleton.1 ha ▸ hafter)
  have hnew : rest.filter (after key (done.getLast?.map key)) = rest := by
    refine List.filter_eq_self.2 fun a ha => ?_
    cases hlast : done.getLast? with
    | none => rfl
    | some b =>
      rw [Option.map_some, after, Option.all_some, decide_eq_true_eq]
      exact hacross b (List.mem_of_getLast? hlast) a ha
  rw [keysetPage, inOrder_filter hnodup, hsplit, List.filter_append, hold, hnew, List.nil_append]

end Order

/-! ## The loop -/

variable {ρ ε σ : Type}

/-- `while rows := fetch(last): body(rows); last = rows[-1].id`. Without fuel it raises `endless`. -/
def keysetLoop (endless : ε) (fetch : Option κ → Gen ρ ε (List α)) (key : α → κ) (body : σ → List α → Gen ρ ε σ) :
    Nat → Option κ → σ → Gen ρ ε σ
  | 0, _, _ => .raise endless
  | fuel + 1, last, s => do
    let rows ← fetch last
    match rows.getLast? with
    | none => return s
    | some row =>
      let s ← body s rows
      keysetLoop endless fetch key body fuel (some (key row)) s

variable {key : α → κ} {rows : List α} {limit : Nat} {endless : ε} {fetch : Option κ → Gen ρ ε (List α)}
  {body : σ → List α → Gen ρ ε σ} {Q : ε → Prop} {I : List α → List ρ → σ → Prop}

/-- **The rule for the loop.** If every query reads its page and every page keeps `I`, then the loop ends, and `I` holds
of all rows in order. It raises what a query or a page raises, and nothing else. -/
theorem gives_keysetLoop (hlimit : 0 < limit) (hnodup : (rows.map key).Nodup)
    (hfetch : ∀ last, (fetch last).Gives (fun rs page => rs = [] ∧ page = keysetPage key rows limit last) Q)
    (hbody : ∀ d page o s, d ++ page <+: inOrder key rows → page ≠ [] → page.length ≤ limit → I d o s →
      (body s page).Gives (fun rs s' => I (d ++ page) (o ++ rs) s') Q)
    {fuel : Nat} {d rest : List α} {o : List ρ} {s : σ} (hfuel : rest.length < fuel)
    (hsplit : inOrder key rows = d ++ rest) (hI : I d o s) :
    (keysetLoop endless fetch key body fuel (d.getLast?.map key) s).Gives
      (fun rs s' => I (inOrder key rows) (o ++ rs) s') Q := by
  induction fuel generalizing d rest o s with
  | zero => exact absurd hfuel (Nat.not_lt_zero _)
  | succ fuel ih =>
    rw [keysetLoop, Gen.gives_bind]
    refine (hfetch _).imp fun rs page ⟨hrs, hpage⟩ => ?_
    rw [keysetPage_eq hnodup hsplit] at hpage
    subst hrs hpage
    cases hlast : (rest.take limit).getLast? with
    | none =>
      have hempty := List.getLast?_eq_none_iff.1 hlast
      have hrest : rest = [] := by
        cases rest with
        | nil => rfl
        | cons x rest =>
          obtain ⟨n, rfl⟩ := Nat.exists_eq_succ_of_ne_zero (Nat.pos_iff_ne_zero.1 hlimit)
          cases hempty
      subst hrest
      rw [List.append_nil] at hsplit
      simpa [hsplit] using hI
    | some row =>
      have hne : rest.take limit ≠ [] := fun hempty => by simp [hempty] at hlast
      have hsplit' : inOrder key rows = (d ++ rest.take limit) ++ rest.drop limit := by
        rw [List.append_assoc, List.take_append_drop, hsplit]
      have hshort : (rest.drop limit).length < fuel := by
        have hpos : 0 < rest.length := List.length_pos_iff.2 fun hnil => hne (by rw [hnil, List.take_nil])
        rw [List.length_drop]
        omega
      have hrow : (d ++ rest.take limit).getLast?.map key = some (key row) := by
        rw [List.getLast?_append, hlast]
        rfl
      dsimp only
      rw [Gen.gives_bind]
      refine (hbody d _ o s ⟨_, hsplit'.symm⟩ hne (List.length_take_le _ _) hI).imp fun rs s' hI' => ?_
      rw [← hrow]
      refine (ih hshort hsplit' hI').imp fun rs' s'' hI'' => ?_
      rw [List.append_assoc] at hI''
      exact hI''

end Listings
