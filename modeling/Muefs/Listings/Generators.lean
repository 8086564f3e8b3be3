/-!
# Generators

* `Gen` : a program that yields values, and returns or raises; a monad;
* `Gen.Gives P Q` : if it returns, then `P` holds of what it has yielded and of its result; if it raises, `Q` holds;
* `Gen.gives_foldlM` : the rule for a loop over a list.
-/

namespace Listings

/-- What a generator does: the values that it yields, and how it ends. -/
structure Gen (ρ ε α : Type) where
  yielded : List ρ
  result : Except ε α

namespace Gen

variable {ρ ε α β σ : Type}

instance : Monad (Gen ρ ε) where
  pure a := ⟨[], .ok a⟩
  bind g k :=
    match g.result with
    | .ok a => ⟨g.yielded ++ (k a).yielded, (k a).result⟩
    | .error e => ⟨g.yielded, .error e⟩

def yield (r : ρ) : Gen ρ ε Unit := ⟨[r], .ok ()⟩

def raise (e : ε) : Gen ρ ε α := ⟨[], .error e⟩

/-- Partial correctness, and what the generator may raise. -/
def Gives (g : Gen ρ ε α) (P : List ρ → α → Prop) (Q : ε → Prop) : Prop :=
  match g.result with
  | .ok a => P g.yielded a
  | .error e => Q e

variable {P : List ρ → α → Prop} {Q : ε → Prop}

@[simp] theorem gives_pure {a : α} : (pure a : Gen ρ ε α).Gives P Q ↔ P [] a := Iff.rfl

@[simp] theorem gives_yield {P : List ρ → Unit → Prop} {r : ρ} : (yield r : Gen ρ ε Unit).Gives P Q ↔
    P [r] () := Iff.rfl

@[simp] theorem gives_raise {e : ε} : (raise e : Gen ρ ε α).Gives P Q ↔ Q e := Iff.rfl

@[simp] theorem gives_bind {g : Gen ρ ε α} {k : α → Gen ρ ε β} {P : List ρ → β → Prop} :
    (g >>= k).Gives P Q ↔ g.Gives (fun rs a => (k a).Gives (fun rs' b => P (rs ++ rs') b) Q) Q := by
  obtain ⟨out, result⟩ := g
  cases result with
  | error e => rfl
  | ok a => rfl

theorem Gives.mono {g : Gen ρ ε α} {P' : List ρ → α → Prop} {Q' : ε → Prop} (h : g.Gives P Q)
    (hP : ∀ rs a, P rs a → P' rs a) (hQ : ∀ e, Q e → Q' e) : g.Gives P' Q' := by
  unfold Gives at h ⊢
  split
  · rename_i a ha
    rw [ha] at h
    exact hP _ _ h
  · rename_i e he
    rw [he] at h
    exact hQ _ h

theorem Gives.imp {g : Gen ρ ε α} {P' : List ρ → α → Prop} (h : g.Gives P Q) (hP : ∀ rs a, P rs a → P' rs a) :
    g.Gives P' Q := h.mono hP fun _ he => he

/-- **The rule for a loop over a list.** `I` holds before the loop and is kept by every pass. -/
theorem gives_foldlM {k : σ → β → Gen ρ ε σ} {I : List β → List ρ → σ → Prop} {xs d : List β} {o : List ρ} {s : σ}
    (h₀ : I d o s) (hstep : ∀ d o s, ∀ x ∈ xs, I d o s →
      (k s x).Gives (fun rs s' => I (d ++ [x]) (o ++ rs) s') Q) :
    (xs.foldlM k s).Gives (fun rs s' => I (d ++ xs) (o ++ rs) s') Q := by
  induction xs generalizing d o s with
  | nil =>
    rw [List.foldlM_nil, gives_pure, List.append_nil, List.append_nil]
    exact h₀
  | cons x xs ih =>
    rw [List.foldlM_cons, gives_bind]
    refine (hstep d o s x List.mem_cons_self h₀).imp fun rs s' hI => ?_
    refine (ih hI fun d o s y hy => hstep d o s y (List.mem_cons_of_mem _ hy)).imp fun rs' s'' hI' => ?_
    rw [List.append_assoc, List.append_assoc] at hI'
    exact hI'

end Gen

end Listings
