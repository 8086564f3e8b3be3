import Mathlib.Algebra.Order.Group.Defs
import Mathlib.Algebra.Order.Sub.Defs
import Mathlib.Data.List.Basic
import Mathlib.Order.Lattice
import Mathlib.Tactic.Common

/-!
# A sliding window

* `Decision` : a request of a key at a time, and whether it was allowed; `admitted` : the times at which
  a key was allowed;
* `recent` : the times that are in the window before a moment;
* `Slides` : the rule: a request is allowed if its key was allowed fewer times than its limit in the window before it;
* `Slides.bounded` : within one window a key is allowed no more often than its limit; `Slides.denied` : a request is
  denied if the limit is reached, and only then;
* `Slides.replayed` : the decisions for a key follow from the requests of the key.
-/

namespace Listings

/-! ## Decisions -/

structure Decision (κ T : Type) where
  key : κ
  time : T
  allowed : Bool
  deriving DecidableEq

variable {κ T : Type} [DecidableEq κ] {key : κ} {ds es : List (Decision κ T)} {d : Decision κ T}

/-- The decisions for a key. -/
def decisionsFor (key : κ) (ds : List (Decision κ T)) : List (Decision κ T) := ds.filter fun d => decide (d.key = key)

/-- The times at which a key was allowed. -/
def admitted (key : κ) (ds : List (Decision κ T)) : List T :=
  ((decisionsFor key ds).filter Decision.allowed).map Decision.time

@[simp] theorem admitted_nil : admitted key ([] : List (Decision κ T)) = [] := rfl

theorem decisionsFor_append : decisionsFor key (ds ++ es) = decisionsFor key ds ++ decisionsFor key es :=
  List.filter_append ..

theorem decisionsFor_single_self : decisionsFor d.key [d] = [d] := by
  unfold decisionsFor
  rw [List.filter_cons_of_pos (by rw [decide_eq_true_eq]), List.filter_nil]

theorem decisionsFor_single_ne (h : d.key ≠ key) : decisionsFor key [d] = [] := by
  unfold decisionsFor
  rw [List.filter_cons_of_neg (by rw [decide_eq_true_eq]; exact h), List.filter_nil]

theorem decisionsFor_idem : decisionsFor key (decisionsFor key ds) = decisionsFor key ds := by
  unfold decisionsFor
  rw [List.filter_filter]
  simp only [Bool.and_self]

theorem admitted_append : admitted key (ds ++ es) = admitted key ds ++ admitted key es := by
  unfold admitted
  rw [decisionsFor_append, List.filter_append, List.map_append]

theorem admitted_single_allowed (h : d.allowed = true) : admitted d.key [d] = [d.time] := by
  unfold admitted
  rw [decisionsFor_single_self, List.filter_cons_of_pos h]
  rfl

theorem admitted_single_denied (h : d.allowed = false) : admitted key [d] = [] := by
  by_cases hkey : d.key = key
  · subst hkey
    unfold admitted
    rw [decisionsFor_single_self, List.filter_cons_of_neg (Bool.eq_false_iff.1 h)]
    rfl
  · unfold admitted
    rw [decisionsFor_single_ne hkey]
    rfl

theorem admitted_single_ne (h : d.key ≠ key) : admitted key [d] = [] := by
  unfold admitted
  rw [decisionsFor_single_ne h]
  rfl

theorem admitted_decisionsFor : admitted key (decisionsFor key ds) = admitted key ds := by
  unfold admitted
  rw [decisionsFor_idem]

theorem mem_admitted {t : T} (h : t ∈ admitted key ds) : ∃ d ∈ ds, d.time = t := by
  obtain ⟨d, hd, rfl⟩ := List.mem_map.1 h
  exact ⟨d, List.mem_of_mem_filter (List.mem_of_mem_filter hd), rfl⟩

/-! ## The window before a moment -/

variable [AddCommGroup T] [LinearOrder T] {window now later t : T} {times : List T}

/-- The times that are less than the window before a moment. -/
def recent (window now : T) (times : List T) : List T := times.filter fun t => decide (now - t < window)

@[simp] theorem recent_nil : recent window now [] = [] := rfl

theorem recent_append {xs ys : List T} : recent window now (xs ++ ys) = recent window now xs ++ recent window now ys :=
  List.filter_append ..

theorem recent_recent [IsOrderedAddMonoid T] (h : now ≤ later) : recent window later (recent window now times) =
    recent window later times := by
  unfold recent
  rw [List.filter_filter]
  refine List.filter_congr fun t _ => ?_
  by_cases ht : later - t < window
  · have hnow : now - t < window := lt_of_le_of_lt (sub_le_sub_right h t) ht
    rw [decide_eq_true ht, decide_eq_true hnow, Bool.and_self]
  · rw [decide_eq_false ht, Bool.false_and]

theorem recent_eq_nil [IsOrderedAddMonoid T] (h : ∀ s ∈ times, s ≤ t) (ht : window ≤ now - t) :
    recent window now times = [] := by
  refine List.filter_eq_nil_iff.2 fun s hs => ?_
  rw [decide_eq_true_eq, not_lt]
  exact ht.trans (sub_le_sub_left (h s hs) now)

/-! ## The rule -/

/-- **The sliding window.** A request is allowed if its key was allowed fewer times than its limit in the
window before it. -/
inductive Slides (window : T) (limit : κ → Int) : List (Decision κ T) → Prop where
  | nil : Slides window limit []
  | snoc {ds : List (Decision κ T)} {d : Decision κ T} (h : Slides window limit ds)
      (rule : d.allowed = decide (((recent window d.time (admitted d.key ds)).length : Int) < limit d.key)) :
      Slides window limit (ds ++ [d])

variable {limit : κ → Int}

theorem Slides.split (h : Slides window limit ds) {pre post : List (Decision κ T)} (hds : ds = pre ++ d :: post) :
    Slides window limit pre ∧
      d.allowed = decide (((recent window d.time (admitted d.key pre)).length : Int) < limit d.key) := by
  induction h generalizing post with
  | nil => cases pre <;> cases hds
  | @snoc ds e h rule ih =>
    rcases List.eq_nil_or_concat post with rfl | ⟨post, f, rfl⟩
    · obtain ⟨rfl, hde⟩ := List.append_inj' hds rfl
      cases hde
      exact ⟨h, rule⟩
    · rw [List.concat_eq_append, ← List.cons_append, ← List.append_assoc] at hds
      exact ih (List.append_inj' hds rfl).1

/-- **No window has more than the limit.** `inside` are times that lie less than the window apart. A limit below zero
counts as none. -/
theorem Slides.bounded (h : Slides window limit ds) (key : κ) (inside : T → Bool)
    (hinside : ∀ s t, inside s = true → inside t = true → t - s < window) :
    ((admitted key ds).filter inside).length ≤ (limit key).toNat := by
  induction h with
  | nil => exact Nat.zero_le _
  | @snoc ds d h rule ih =>
    rw [admitted_append, List.filter_append, List.length_append]
    by_cases hcounts : d.key = key ∧ d.allowed = true ∧ inside d.time = true
    · obtain ⟨rfl, hallowed, hin⟩ := hcounts
      have hsub : ((admitted d.key ds).filter inside).length ≤ (recent window d.time (admitted d.key ds)).length := by
        refine (List.monotone_filter_right _ fun s hs => ?_).length_le
        exact decide_eq_true (hinside s d.time hs hin)
      have hfew := of_decide_eq_true (rule.symm.trans hallowed)
      rw [admitted_single_allowed hallowed, List.filter_cons_of_pos hin, List.filter_nil, List.length_singleton]
      omega
    · have hnone : (admitted key [d]).filter inside = [] := by
        by_cases hkey : d.key = key
        · subst hkey
          cases hallowed : d.allowed with
          | false => rw [admitted_single_denied hallowed, List.filter_nil]
          | true =>
            have hout : ¬ inside d.time = true := fun hin => hcounts ⟨rfl, hallowed, hin⟩
            rw [admitted_single_allowed hallowed, List.filter_cons_of_neg hout, List.filter_nil]
        · rw [admitted_single_ne hkey, List.filter_nil]
      rw [hnone, List.length_nil, Nat.add_zero]
      exact ih

theorem Slides.denied [IsOrderedAddMonoid T] (h : Slides window limit ds) {pre post : List (Decision κ T)}
    (hds : ds = pre ++ d :: post)
    (horder : ∀ e ∈ pre, e.time ≤ d.time) : d.allowed = false ↔
      ((admitted d.key pre).filter fun t => decide (d.time - window < t ∧ t ≤ d.time)).length =
      (limit d.key).toNat := by
  obtain ⟨hpre, hrule⟩ := h.split hds
  have hrecent : recent window d.time (admitted d.key pre) =
      (admitted d.key pre).filter fun t => decide (d.time - window < t ∧ t ≤ d.time) := by
    refine List.filter_congr fun t ht => ?_
    obtain ⟨e, he, rfl⟩ := mem_admitted ht
    rw [decide_eq_decide, sub_lt_comm]
    exact ⟨fun hlow => ⟨hlow, horder e he⟩, fun hboth => hboth.1⟩
  have hbound := hpre.bounded d.key (fun t => decide (d.time - window < t ∧ t ≤ d.time)) fun s t hs ht => by
    rw [decide_eq_true_eq] at hs ht
    exact lt_of_le_of_lt (sub_le_sub_right ht.2 s) (sub_lt_comm.1 hs.1)
  rw [hrule, hrecent, decide_eq_false_iff_not]
  omega

/-! ## One key at a time -/

/-- The decisions for requests of one key, at these times. -/
def replay (window : T) (limit : Int) (key : κ) (times : List T) : List (Decision κ T) :=
  times.foldl (fun ds now => ds ++ [⟨key, now, decide (((recent window now (admitted key ds)).length : Int) < limit)⟩])
    []

theorem replay_snoc (window : T) (limit : Int) (key : κ) (times : List T) (now : T) :
    replay window limit key (times ++ [now]) = replay window limit key times ++ [⟨key, now,
      decide (((recent window now (admitted key (replay window limit key times))).length : Int) < limit)⟩] := by
  unfold replay
  rw [List.foldl_append]
  rfl

/-- **The decisions for a key follow from the requests of the key.** -/
theorem Slides.replayed (h : Slides window limit ds) (key : κ) :
    decisionsFor key ds = replay window (limit key) key ((decisionsFor key ds).map Decision.time) := by
  induction h with
  | nil => rfl
  | @snoc ds d h rule ih =>
    rw [decisionsFor_append]
    by_cases hkey : d.key = key
    · subst hkey
      rw [decisionsFor_single_self, List.map_append, List.map_singleton, replay_snoc, ← ih,
        admitted_decisionsFor, ← rule]
    · rw [decisionsFor_single_ne hkey, List.append_nil]
      exact ih

end Listings
