import Muefs.RowLocks.History

/-!
# What a program comes to

`Meets` speaks of the runs that commit, over the store they commit to. Here a program is followed through answers of any
age, to its end or to what it raises.

* `Yields A E tr p Q` : after the trace `tr`, as long as the answers are as `A` says, `p` returns as `Q` and
  raises as `E` says;
* one rule for each operation, `Yields.mono`, `yields_onRaise`, `Yields.savepoint`;
* `Entry.Reads` : what the answer of a read satisfies;
* `Steps.yielded` : what a session of a run came to.
-/

namespace RowLocks

variable {G : Type} {V : G → Type} {ε α β ι : Type}

namespace Txn

/-- What a program that has come to the trace `tr` makes of it, as long as each answer satisfies `A`, given the trace
before it: what it returns satisfies `Q`, and what it raises `E`. -/
def Yields (A : List (Entry V) → Entry V → Prop) (E : List (Entry V) → ε → Prop) :
    List (Entry V) → Txn V ε α → (List (Entry V) → α → Prop) → Prop
  | tr, done a, Q => Q tr a
  | tr, raise x, _ => E tr x
  | tr, ask o n, Q => ∀ x, A tr ⟨o, x⟩ → (n x).Yields A E (tr ++ [⟨o, x⟩]) Q

section Rules

variable {A : List (Entry V) → Entry V → Prop} {E : List (Entry V) → ε → Prop} {tr : List (Entry V)}

@[simp] theorem yields_pure {a : α} {Q : List (Entry V) → α → Prop} :
    Yields A E tr (pure a : Txn V ε α) Q ↔ Q tr a := Iff.rfl
@[simp] theorem yields_raise {x : ε} {Q : List (Entry V) → α → Prop} :
    Yields A E tr (raise x : Txn V ε α) Q ↔ E tr x := Iff.rfl

@[simp] theorem yields_bind {p : Txn V ε α} {k : α → Txn V ε β} {Q : List (Entry V) → β → Prop} :
    Yields A E tr (p >>= k) Q ↔ Yields A E tr p fun tr a => Yields A E tr (k a) Q := by
  change Yields A E tr (p.bind k) Q ↔ _
  induction p generalizing tr with
  | done a => rfl
  | raise x => rfl
  | ask o n ih => simp only [bind, Yields, ih]

@[simp] theorem yields_now {Q : List (Entry V) → Int → Prop} :
    Yields A E tr (now : Txn V ε Int) Q ↔ ∀ t, A tr ⟨.clock, t⟩ → Q (tr ++ [⟨.clock, t⟩]) t := Iff.rfl
@[simp] theorem yields_newId {Q : List (Entry V) → Nat → Prop} :
    Yields A E tr (newId : Txn V ε Nat) Q ↔ ∀ n, A tr ⟨.fresh, n⟩ → Q (tr ++ [⟨.fresh, n⟩]) n := Iff.rfl
@[simp] theorem yields_look {g : G} {Q : List (Entry V) → V g → Prop} :
    Yields A E tr (look g : Txn V ε (V g)) Q ↔ ∀ v, A tr ⟨.look g, v⟩ → Q (tr ++ [⟨.look g, v⟩]) v := Iff.rfl
@[simp] theorem yields_lock {m : Mode} {g : G} {Q : List (Entry V) → V g → Prop} :
    Yields A E tr (lock m g : Txn V ε (V g)) Q ↔ ∀ v, A tr ⟨.lock m g, v⟩ → Q (tr ++ [⟨.lock m g, v⟩]) v := Iff.rfl
@[simp] theorem yields_write {g : G} {f : V g → V g} {Q : List (Entry V) → Unit → Prop} :
    Yields A E tr (write g f : Txn V ε Unit) Q ↔ (A tr ⟨.write g f, ()⟩ → Q (tr ++ [⟨.write g f, ()⟩]) ()) :=
  ⟨fun h => h (), fun h _ => h⟩
@[simp] theorem yields_act {g : G} {f : V g → V g} {Q : List (Entry V) → Unit → Prop} :
    Yields A E tr (act g f : Txn V ε Unit) Q ↔ (A tr ⟨.act g f, ()⟩ → Q (tr ++ [⟨.act g f, ()⟩]) ()) :=
  ⟨fun h => h (), fun h _ => h⟩

@[simp] theorem yields_require {c : Prop} [Decidable c] {x : ε} {Q : List (Entry V) → Unit → Prop} :
    Yields A E tr (require c x : Txn V ε Unit) Q ↔ (c → Q tr ()) ∧ (¬ c → E tr x) := by
  unfold require
  split <;> simp_all [Yields]

@[simp] theorem yields_expect {o : Option α} {x : ε} {Q : List (Entry V) → α → Prop} :
    Yields A E tr (expect o x : Txn V ε α) Q ↔ (∀ a, o = some a → Q tr a) ∧ (o = none → E tr x) := by
  cases o <;> simp [expect, Yields]

@[simp] theorem yields_ofExcept {r : Except ε α} {Q : List (Entry V) → α → Prop} :
    Yields A E tr (ofExcept r) Q ↔ (∀ a, r = .ok a → Q tr a) ∧ ∀ x, r = .error x → E tr x := by
  cases r <;> simp [ofExcept, Yields]

@[simp] theorem yields_ite {c : Prop} [Decidable c] {p q : Txn V ε α} {Q : List (Entry V) → α → Prop} :
    Yields A E tr (if c then p else q) Q ↔ (c → Yields A E tr p Q) ∧ (¬ c → Yields A E tr q Q) := by
  split <;> simp_all

theorem Yields.mono {A' : List (Entry V) → Entry V → Prop} {E' : List (Entry V) → ε → Prop} {p : Txn V ε α}
    {Q Q' : List (Entry V) → α → Prop} (h : Yields A E tr p Q) (hA : ∀ tr e, A' tr e → A tr e)
    (hE : ∀ tr x, E tr x → E' tr x) (hQ : ∀ tr a, Q tr a → Q' tr a) : Yields A' E' tr p Q' := by
  induction p generalizing tr with
  | done a => exact hQ _ _ h
  | raise x => exact hE _ _ h
  | ask o n ih => exact fun x hx => ih x (h x (hA _ _ hx))

theorem yields_of_asks {P : Op V → Prop} {p : Txn V ε α} {Q : List (Entry V) → α → Prop} (h : p.Asks P)
    (hE : ∀ new x, (∀ e ∈ new, P e.op) → E (tr ++ new) x) (hQ : ∀ new a, (∀ e ∈ new, P e.op) → Q (tr ++ new) a) :
    Yields A E tr p Q := by
  induction p generalizing tr with
  | done a => simpa [Yields] using hQ [] a (by simp)
  | raise x => simpa [Yields] using hE [] x (by simp)
  | ask o n ih =>
    have hnext : ∀ x, ∀ new : List (Entry V), (∀ e ∈ new, P e.op) → ∀ e ∈ (⟨o, x⟩ :: new : List (Entry V)), P e.op := by
      intro x new hnew e he
      rcases List.mem_cons.1 he with rfl | he
      · exact h.1
      · exact hnew e he
    refine fun x _ => ih x (h.2 x) (fun new y hnew => ?_) fun new a hnew => ?_
    · simpa using hE _ y (hnext x new hnew)
    · simpa using hQ _ a (hnext x new hnew)

@[simp] theorem yields_onRaise {p : Txn V ε α} {c : Txn V ε Unit} {Q : List (Entry V) → α → Prop} :
    Yields A E tr (p.onRaise c) Q ↔ Yields A (fun tr x => Yields A E tr c fun tr _ => E tr x) tr p Q := by
  induction p generalizing tr with
  | done a => rfl
  | raise x =>
    change Yields A E tr (c >>= fun _ => raise x) Q ↔ _
    simp only [yields_bind, Yields]
  | ask o n ih => simp only [onRaise, Yields, ih]

theorem Yields.after {p q : Txn V ε α} {Q : List (Entry V) → α → Prop} {new : List (Entry V)}
    (h : Yields A E tr p Q) (hq : After p new q) (hA : ∀ tr₁ e tr₂, new = tr₁ ++ e :: tr₂ → A (tr ++ tr₁) e) :
    Yields A E (tr ++ new) q Q := by
  induction new generalizing p tr with
  | nil =>
    cases hq
    rwa [List.append_nil]
  | cons e new ih =>
    obtain ⟨r, hf, hr⟩ := hq
    cases hf with
    | ask o n x =>
      have hx : A tr ⟨o, x⟩ := by simpa using hA [] _ _ rfl
      rw [show tr ++ ⟨o, x⟩ :: new = (tr ++ [⟨o, x⟩]) ++ new by simp]
      refine ih (h x hx) hr fun tr₁ e tr₂ heq => ?_
      have := hA (⟨o, x⟩ :: tr₁) e tr₂ (by simp [heq])
      simpa using this

end Rules

/-! ## Nested transactions -/

/-- What a request of a nested transaction asks of the database at once. -/
def tried : Entry V → List (Entry V)
  | ⟨.lock m g, v⟩ => [⟨.tryLock m g, v⟩]
  | ⟨.keep _ _ _, _⟩ | ⟨.write _ _, _⟩ => []
  | e => [e]

variable {A : List (Entry V) → Entry V → Prop} {E : List (Entry V) → ε → Prop}

theorem yields_settle {os : List (Op V)} {a : α} {tr : List (Entry V)} {Q : List (Entry V) → α → Prop}
    (h : ∀ new, (∀ e ∈ new, tried e = []) → Q (tr ++ new) a) : Yields A E tr (settle os (done a)) Q := by
  induction os generalizing tr with
  | nil =>
    change Q tr a
    simpa using h [] (by simp)
  | cons o os ih =>
    have hnext : ∀ e : Entry V, tried e = [] → ∀ new, (∀ e ∈ new, tried e = []) → Q (tr ++ [e] ++ new) a := by
      intro e he new hnew
      rw [List.append_assoc]
      exact h _ (by simpa [he] using hnew)
    cases o with
    | keep m g v => exact fun _ _ => ih (hnext _ rfl)
    | write g f => exact fun _ _ => ih (hnext _ rfl)
    | _ => exact ih h

theorem Yields.savepointFrom {E' : List (Entry V) → ε → Prop} {p : Txn V ε α} {os : List (Op V)}
    {tr tr₀ : List (Entry V)} {Q' : List (Entry V) → α → Prop} {Q : List (Entry V) → Except ε α → Prop}
    (h : Yields (fun tr' e => ∀ e' ∈ tried e, A (tr ++ tr'.flatMap tried) e') E' tr₀ p Q')
    (hok : ∀ tr' a, Q' tr' a → ∀ new, (∀ e ∈ new, tried e = []) → Q (tr ++ tr'.flatMap tried ++ new) (.ok a))
    (herror : ∀ tr' x, E' tr' x → Q (tr ++ tr'.flatMap tried ++ [⟨.letGo, ()⟩]) (.error x)) :
    Yields A E (tr ++ tr₀.flatMap tried) (p.savepointFrom os) Q := by
  induction p generalizing os tr₀ with
  | done a => exact yields_settle (hok _ _ h)
  | raise x => exact fun _ _ => herror _ _ h
  | ask o n ih =>
    have hnow : ∀ x, (∀ e' ∈ tried ⟨o, x⟩, A (tr ++ tr₀.flatMap tried) e') → ∀ os,
        Yields A E (tr ++ tr₀.flatMap tried ++ tried ⟨o, x⟩) ((n x).savepointFrom os) Q := by
      intro x hx os
      have hrest : Yields A E (tr ++ (tr₀ ++ [(⟨o, x⟩ : Entry V)]).flatMap tried) ((n x).savepointFrom os)
        Q := ih x (h x hx)
      rwa [List.flatMap_append, ← List.append_assoc, List.flatMap_singleton] at hrest
    cases o with
    | keep m g v =>
      have hrest := hnow () (by simp [tried]) (os ++ [.keep m g v])
      rwa [tried, List.append_nil] at hrest
    | write g f =>
      have hrest := hnow () (by simp [tried]) (os ++ [.write g f])
      rwa [tried, List.append_nil] at hrest
    | lock m g => exact fun v hv => hnow v (by simpa [tried] using hv) _
    | _ => exact fun x hx => hnow x (by simpa [tried] using hx) _

/-- **A nested transaction yields what its program yields, with its locks tried and its writes put off.** -/
theorem Yields.savepoint {E' : List (Entry V) → ε → Prop} {p : Txn V ε α} {tr : List (Entry V)}
    {Q' : List (Entry V) → α → Prop} {Q : List (Entry V) → Except ε α → Prop}
    (h : Yields (fun tr' e => ∀ e' ∈ tried e, A (tr ++ tr'.flatMap tried) e') E' [] p Q')
    (hok : ∀ tr' a, Q' tr' a → ∀ new, (∀ e ∈ new, tried e = []) → Q (tr ++ tr'.flatMap tried ++ new) (.ok a))
    (herror : ∀ tr' x, E' tr' x → Q (tr ++ tr'.flatMap tried ++ [⟨.letGo, ()⟩]) (.error x)) :
    Yields A E tr p.savepoint Q := by
  have hfrom : Yields A E (tr ++ [].flatMap tried) (p.savepointFrom []) Q := Yields.savepointFrom h hok herror
  rwa [List.flatMap_nil, List.append_nil] at hfrom

end Txn

/-! ## Runs -/

variable [DecidableEq G] {sys : System V ε α ι}

/-- What a request read satisfies `P`. -/
def Entry.Reads (P : (g : G) → V g → Prop) : Entry V → Prop
  | ⟨.look g, v⟩ | ⟨.lock _ g, v⟩ | ⟨.tryLock _ g, v⟩ => P g v
  | ⟨.snapshot, v⟩ => ∀ g, P g (v g)
  | _ => True

omit [DecidableEq G] in
theorem World.Admits.reads {w : World V ε α ι} {sid : Nat} {e : Entry V} (h : w.Admits sys sid e)
    {P : (g : G) → V g → Prop} (hP : ∀ g, P g (w.db g)) : e.Reads P := by
  obtain ⟨o, v⟩ := e
  cases o with
  | look g => exact (show v = w.db g from h) ▸ hP g
  | snapshot => exact (show v = w.db from h) ▸ hP
  | lock m g => exact (show v = w.db g from h.2.1) ▸ hP g
  | tryLock m g => exact (show v = w.db g from h.2.1) ▸ hP g
  | _ => trivial

/-- Every entry was admitted somewhere between `w` and `w'`. -/
def AskedSince (sys : System V ε α ι) (sid : Nat) (w w' : World V ε α ι) (tr : List (Entry V)) : Prop :=
  ∀ e ∈ tr, ∃ w₁, Steps sys w w₁ ∧ Steps sys w₁ w' ∧ w₁.Admits sys sid e

theorem Steps.asked {w w' : World V ε α ι} (h : Steps sys w w') {sid : Nat} (hnew : w.sessions sid = none)
    {s : Session V ε α ι} (hs : w'.sessions sid = some s) {tr₁ tr₂ : List (Entry V)} {e : Entry V}
    (htr : s.trace = tr₁ ++ e :: tr₂) :
    ∃ w₁, Steps sys w w₁ ∧ Steps sys w₁ w' ∧ w₁.Admits sys sid e ∧ AskedSince sys sid w w₁ tr₁ := by
  induction h generalizing s tr₂ with
  | refl => exact absurd (hnew.symm.trans hs) (by simp)
  | @tail wₘ w₂ hsteps hstep ih =>
    rcases hstep.session_cases hs with hnil | ⟨sₘ, hsₘ, _, htrace, _⟩ | ⟨sₘ, e', hsₘ, _, _, htrace, ha, _⟩
    · exact absurd (hnil.symm.trans htr) (by simp)
    · obtain ⟨w₁, h₁, h₂, h₃⟩ := ih hsₘ (htrace.trans htr)
      exact ⟨w₁, h₁, h₂.tail hstep, h₃⟩
    · rw [htrace] at htr
      rcases List.eq_nil_or_concat tr₂ with rfl | ⟨tr₃, e₃, rfl⟩
      · obtain ⟨rfl, rfl⟩ : sₘ.trace = tr₁ ∧ e' = e := by simpa using htr
        refine ⟨wₘ, hsteps, .tail .refl hstep, ha, fun e he => ?_⟩
        obtain ⟨w₁, hans⟩ := Steps.answered_since hsteps hnew hsₘ he
        exact ⟨w₁, hans.reached, hans.later, hans.admits⟩
      · rw [List.concat_eq_append, ← List.cons_append, ← List.append_assoc] at htr
        obtain ⟨hfirst, rfl⟩ : sₘ.trace = tr₁ ++ e :: tr₃ ∧ e' = e₃ := by simpa using List.append_inj' htr rfl
        obtain ⟨w₁, h₁, h₂, h₃⟩ := ih hsₘ hfirst
        exact ⟨w₁, h₁, h₂.tail hstep, h₃⟩

/-- **What a session came to that began in `w`**, where each answer is as `A` says of a world that admits it. -/
theorem Steps.yielded {A : List (Entry V) → Entry V → Prop} {E : List (Entry V) → ε → Prop}
    {Q : List (Entry V) → α → Prop} {w w' : World V ε α ι} (h : Steps sys w w') (hw' : Guarded sys w') {sid : Nat}
    (hnew : w.sessions sid = none) {s : Session V ε α ι} (hs : w'.sessions sid = some s)
    (hA : ∀ w₁ tr e, Steps sys w w₁ → Steps sys w₁ w' → AskedSince sys sid w w₁ tr → w₁.Admits sys sid e → A tr e)
    (hyields : (sys.program s.request).Yields A E [] Q) :
    (∀ x, s.status = .failed x → E s.trace x) ∧ ∀ a, s.status = .committed a → Q s.trace a := by
  have hasked : ∀ tr₁ e tr₂, s.trace = tr₁ ++ e :: tr₂ → A ([] ++ tr₁) e := by
    intro tr₁ e tr₂ htr
    obtain ⟨w₁, h₁, h₂, ha, hsince⟩ := h.asked hnew hs htr
    exact hA w₁ tr₁ e h₁ h₂ hsince ha
  have hpath := hw'.path sid s hs
  unfold OnPath at hpath
  refine ⟨fun x hx => ?_, fun a ha => ?_⟩
  · rw [hx] at hpath
    exact hyields.after hpath hasked
  · rw [ha] at hpath
    exact hyields.after hpath hasked

end RowLocks
