import Muefs.Formats.Json

/-!
# Dictionaries

* `getKey_mem`, `getKey_isSome`, `getKey_eq_some`, `getKey_perm` : what a key is set to;
* `getKey_setKey_self`, `getKey_setKey_ne`, `map_setKey` : after an assignment; `getKey_filter` : after deletions;
* `nodup_setKey` : an assignment sets no key twice.
-/

namespace Formats

variable {α : Type}

/-! ## Reading -/

theorem getKey_mem {d : List (String × α)} {k : String} {v : α} (h : getKey d k = some v) : (k, v) ∈ d := by
  obtain ⟨⟨k', v'⟩, hfind, hv⟩ := Option.map_eq_some_iff.1 h
  have hk : k' = k := by simpa using List.find?_some hfind
  cases hv
  exact hk ▸ List.mem_of_find?_eq_some hfind

theorem getKey_isSome {d : List (String × α)} {k : String} (h : k ∈ d.map (·.1)) : ∃ v, getKey d k = some v := by
  obtain ⟨p, hp, hk⟩ := List.mem_map.1 h
  have hfind : (d.find? (·.1 == k)).isSome := List.find?_isSome.2 ⟨p, hp, beq_iff_eq.2 hk⟩
  obtain ⟨q, hq⟩ := Option.isSome_iff_exists.1 hfind
  exact ⟨q.2, by rw [getKey, hq]; rfl⟩

theorem getKey_eq_some {d : List (String × α)} (h : (d.map (·.1)).Nodup) {k : String} {v : α} :
    getKey d k = some v ↔ (k, v) ∈ d := by
  induction d with
  | nil => simp [getKey]
  | cons p d ih =>
    rw [List.map_cons, List.nodup_cons] at h
    unfold getKey at ih ⊢
    rw [List.find?_cons]
    by_cases hk : p.1 = k
    · have hnew : (k, v) ∉ d := fun hmem => h.1 (hk ▸ List.mem_map_of_mem (f := (·.1)) hmem)
      subst hk
      simp only [beq_self_eq_true, Option.map_some, Option.some.injEq, List.mem_cons, hnew, or_false]
      exact ⟨fun hv => hv ▸ rfl, fun hv => by rw [← hv]⟩
    · rw [beq_false_of_ne hk]
      simp only [ih h.2, List.mem_cons]
      exact ⟨.inr, fun hmem => hmem.resolve_left fun heq => hk (heq ▸ rfl)⟩

theorem getKey_perm {d d' : List (String × α)} (h : (d.map (·.1)).Nodup) (hperm : d'.Perm d) (k : String) :
    getKey d' k = getKey d k := by
  have h' : (d'.map (·.1)).Nodup := (hperm.map _).nodup_iff.2 h
  ext v
  rw [getKey_eq_some h, getKey_eq_some h', hperm.mem_iff]

theorem getKey_filter {d : List (String × α)} (h : (d.map (·.1)).Nodup) (keep : String × α → Bool) (k : String) :
    getKey (d.filter keep) k = (getKey d k).filter fun v => keep (k, v) := by
  have h' : ((d.filter keep).map (·.1)).Nodup := (List.filter_sublist.map _).nodup h
  ext v
  rw [getKey_eq_some h', List.mem_filter, Option.filter_eq_some_iff, getKey_eq_some h]

/-! ## Assignments -/

theorem setKey_new {d : List (String × α)} {k : String} {v : α} (h : k ∉ d.map (·.1)) :
    setKey d k v = d ++ [(k, v)] := by
  unfold setKey
  refine if_neg fun hany => h ?_
  obtain ⟨p, hp, hk⟩ := List.any_eq_true.1 hany
  exact List.mem_map.2 ⟨p, hp, beq_iff_eq.1 hk⟩

theorem getKey_setKey_self (d : List (String × α)) (k : String) (v : α) : getKey (setKey d k v) k = some v := by
  unfold setKey
  split_ifs with h
  · obtain ⟨p, hp, hk⟩ := List.any_eq_true.1 h
    have hmem : k ∈ ((d.map fun p => if p.1 = k then (k, v) else p).map (·.1)) := by
      refine List.mem_map.2 ⟨(k, v), List.mem_map.2 ⟨p, hp, if_pos (beq_iff_eq.1 hk)⟩, rfl⟩
    obtain ⟨w, hw⟩ := getKey_isSome hmem
    obtain ⟨q, -, hq⟩ := List.mem_map.1 (getKey_mem hw)
    split_ifs at hq with hqk
    · rw [hw]; exact congrArg some (Prod.ext_iff.1 hq).2.symm
    · exact absurd (congrArg Prod.fst hq) hqk
  · have hfresh : k ∉ d.map (·.1) := by
      intro hmem
      obtain ⟨p, hp, hk⟩ := List.mem_map.1 hmem
      exact h (List.any_eq_true.2 ⟨p, hp, beq_iff_eq.2 hk⟩)
    have hnone : d.find? (fun p => p.1 == k) = none := by
      rw [List.find?_eq_none]
      exact fun p hp hk => hfresh (List.mem_map.2 ⟨p, hp, beq_iff_eq.1 hk⟩)
    simp [getKey, List.find?_append, hnone]

theorem getKey_setKey_ne {d : List (String × α)} {k k' : String} (v : α) (h : k' ≠ k) :
    getKey (setKey d k v) k' = getKey d k' := by
  unfold setKey getKey
  congr 1
  split_ifs with hany
  · clear hany
    induction d with
    | nil => rfl
    | cons p d ih =>
      rw [List.map_cons, List.find?_cons, List.find?_cons]
      by_cases hp : p.1 = k
      · rw [if_pos hp, beq_false_of_ne (Ne.symm h), hp, beq_false_of_ne (Ne.symm h)]
        exact ih
      · rw [if_neg hp]
        cases p.1 == k'
        · exact ih
        · rfl
  · rw [List.find?_append]
    cases d.find? (fun p => p.1 == k') with
    | some p => rfl
    | none => simp [Ne.symm h]

theorem map_setKey {β : Type} {d : List (String × α)} {k : String} {v v' : α} (h : (d.map (·.1)).Nodup)
    (hv : getKey d k = some v) {f : α → β} (hf : f v' = f v) :
    (setKey d k v').map (fun p => (p.1, f p.2)) = d.map fun p => (p.1, f p.2) := by
  unfold setKey
  rw [if_pos (List.any_eq_true.2 ⟨(k, v), getKey_mem hv, beq_self_eq_true k⟩), List.map_map]
  refine List.map_congr_left fun p hp => ?_
  by_cases hk : p.1 = k
  · have hp' : getKey d k = some p.2 := (getKey_eq_some h).2 (hk ▸ hp)
    rw [hv] at hp'
    rw [Function.comp_apply, if_pos hk, hk, hf, Option.some.inj hp']
  · rw [Function.comp_apply, if_neg hk]

theorem setKey_same {d : List (String × α)} {k : String} {v : α} (h : (d.map (·.1)).Nodup) (hv : getKey d k = some v) :
    setKey d k v = d := by
  simpa using map_setKey h hv (f := id) rfl

theorem nodup_snoc {d : List (String × α)} {p : String × α} (h : (d.map (·.1)).Nodup) (hp : p.1 ∉ d.map (·.1)) :
    ((d ++ [p]).map (·.1)).Nodup := by
  rw [List.map_append, List.map_singleton, List.nodup_append]
  refine ⟨h, by simp, fun k hk k' hk' heq => hp ?_⟩
  rw [List.mem_singleton] at hk'
  rw [← hk', ← heq]
  exact hk

theorem nodup_setKey {d : List (String × α)} (h : (d.map (·.1)).Nodup) (k : String) (v : α) :
    ((setKey d k v).map (·.1)).Nodup := by
  by_cases hk : k ∈ d.map (·.1)
  · have hkeys : ((d.map fun p => if p.1 = k then (k, v) else p).map (·.1)) = d.map (·.1) := by
      rw [List.map_map]
      refine List.map_congr_left fun p _ => ?_
      by_cases hp : p.1 = k
      · rw [Function.comp_apply, if_pos hp, hp]
      · rw [Function.comp_apply, if_neg hp]
    obtain ⟨p, hp, hpk⟩ := List.mem_map.1 hk
    have hany : (d.any fun p => p.1 == k) = true := List.any_eq_true.2 ⟨p, hp, beq_iff_eq.2 hpk⟩
    unfold setKey
    rw [if_pos hany, hkeys]
    exact h
  · rw [setKey_new hk]
    exact nodup_snoc h hk

end Formats
