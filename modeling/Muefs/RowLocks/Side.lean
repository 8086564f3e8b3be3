import Muefs.RowLocks.Machine

/-!
# Two stores side by side

A transaction over one store runs in a larger one, where other names stand beside its own.

* `Side V W` : the values of both families of names; `leftDb` : the part of the store that the smaller one is;
* `Txn.left` : the program in the larger store, with what it makes of the operations; `Beside tr' tr` : the trace it
  leaves there, and the one of the program;
* `after_left`, `Meets.left`, `Txn.Asks.left` : what the program does there is what it does alone;
* `Beside.commit_left`, `Beside.commit_right` : its commit changes its own side as alone, and nothing on the other.
-/

namespace RowLocks

variable {G H : Type} {V : G → Type} {W : H → Type} {ε α β : Type}

abbrev Side (V : G → Type) (W : H → Type) : G ⊕ H → Type
  | .inl g => V g
  | .inr h => W h

instance Side.lawfulBEq [BEq G] [BEq H] [LawfulBEq G] [LawfulBEq H] : LawfulBEq (G ⊕ H) where
  eq_of_beq {a b} h := by
    cases a <;> cases b <;> first | exact congrArg _ (eq_of_beq h) | cases h
  rfl {a} := by
    cases a with
    | inl g => exact (BEq.rfl : (g == g) = true)
    | inr k => exact (BEq.rfl : (k == k) = true)

/-- The left side of a store. -/
def leftDb (db : Db (Side V W)) : Db V := fun g => db (.inl g)

@[simp] theorem leftDb_apply (db : Db (Side V W)) (g : G) : leftDb db g = db (.inl g) := rfl

/-! ## Programs -/

/-- The same request, in the larger store. -/
def Op.left (W : H → Type) : Op V → Op (Side V W)
  | .clock => .clock
  | .fresh => .fresh
  | .look g => .look (.inl g)
  | .snapshot => .snapshot
  | .lock m g => .lock m (.inl g)
  | .tryLock m g => .tryLock m (.inl g)
  | .keep m g v => .keep m (.inl g) v
  | .letGo => .letGo
  | .write g f => .write (.inl g) f
  | .act g f => .act (.inl g) f

/-- What the answer says of the left side. -/
def Op.heard : (o : Op V) → (o.left W).Answer → o.Answer
  | .clock, t => t
  | .fresh, n => n
  | .look _, v | .lock _ _, v | .tryLock _ _, v => v
  | .snapshot, db => leftDb db
  | .keep _ _ _, _ | .letGo, _ | .write _ _, _ | .act _ _, _ => ()

/-- The same program, in the larger store. -/
def Txn.left (W : H → Type) : Txn V ε α → Txn (Side V W) ε α
  | .done a => .done a
  | .raise e => .raise e
  | .ask o n => .ask (o.left W) fun x => (n (o.heard x)).left W

@[simp] theorem left_look (g : G) :
    (Txn.look g : Txn V ε (V g)).left W = Txn.look (V := Side V W) (Sum.inl g) := rfl

@[simp] theorem left_lock (m : Mode) (g : G) :
    (Txn.lock m g : Txn V ε (V g)).left W = Txn.lock (V := Side V W) m (Sum.inl g) := rfl

/-- The first trace is the second one, in the larger store. -/
inductive Beside : List (Entry (Side V W)) → List (Entry V) → Prop where
  | nil : Beside [] []
  | cons (o : Op V) (x : (o.left W).Answer) {tr' : List (Entry (Side V W))} {tr : List (Entry V)} (h : Beside tr' tr) :
    Beside (⟨o.left W, x⟩ :: tr') (⟨o, o.heard x⟩ :: tr)

/-- **Where the program is in the larger store, it can be alone.** -/
theorem after_left {p : Txn V ε α} {tr' : List (Entry (Side V W))} {q' : Txn (Side V W) ε α}
    (h : (p.left W).After tr' q') : ∃ tr q, Beside tr' tr ∧ p.After tr q ∧ q' = q.left W := by
  induction p generalizing tr' with
  | done a =>
    obtain ⟨rfl, rfl⟩ := Txn.after_done.1 h
    exact ⟨[], .done a, .nil, rfl, rfl⟩
  | raise e =>
    obtain ⟨rfl, rfl⟩ := Txn.after_raise.1 h
    exact ⟨[], .raise e, .nil, rfl, rfl⟩
  | ask o n ih =>
    rcases Txn.after_ask.1 h with ⟨rfl, rfl⟩ | ⟨x, rest, rfl, hr⟩
    · exact ⟨[], .ask o n, .nil, rfl, rfl⟩
    · obtain ⟨tr, q, hside, hq, rfl⟩ := ih (o.heard x) hr
      exact ⟨⟨o, o.heard x⟩ :: tr, q, .cons o x hside, Txn.after_ask.2 (.inr ⟨_, tr, rfl, hq⟩), rfl⟩

theorem ends_left {p : Txn V ε α} {tr' : List (Entry (Side V W))} {a : α} (h : (p.left W).Ends tr' a) :
    ∃ tr, Beside tr' tr ∧ p.Ends tr a := by
  obtain ⟨tr, q, hside, hq, hdone⟩ := after_left h
  cases q with
  | done b =>
    cases hdone
    exact ⟨tr, hside, hq⟩
  | _ => cases hdone

theorem Txn.Asks.left {p : Txn V ε α} {P : Op V → Prop} {P' : Op (Side V W) → Prop} (h : p.Asks P)
    (hP : ∀ o, P o → P' (o.left W)) : (p.left W).Asks P' := by
  induction p with
  | done a => trivial
  | raise e => trivial
  | ask o n ih => exact ⟨hP o h.1, fun x => ih (o.heard x) (h.2 (o.heard x))⟩

/-! ## Traces -/

section Traces

variable {tr' : List (Entry (Side V W))} {tr : List (Entry V)} {db : Db (Side V W)}

theorem Beside.current (h : Beside tr' tr) (hc : Current db tr') : Current (leftDb db) tr := by
  induction h with
  | nil => trivial
  | cons o x _ ih =>
    cases o with
    | lock | keep => exact ⟨hc.1, ih hc.2⟩
    | _ => exact ih hc

theorem Beside.draws (h : Beside tr' tr) : draws tr' = draws tr := by
  induction h with
  | nil => rfl
  | cons o x _ ih =>
    cases o with
    | fresh => exact congrArg _ ih
    | _ => exact ih

theorem Beside.fresh (h : Beside tr' tr) {n : Nat} : (⟨.fresh, n⟩ : Entry V) ∈ tr ↔ ⟨.fresh, n⟩ ∈ tr' := by
  rw [← mem_draws, ← mem_draws, h.draws]

theorem Beside.look (h : Beside tr' tr) {g : G} {v : V g} (hv : (⟨.look g, v⟩ : Entry V) ∈ tr) :
    ⟨.look (.inl g), v⟩ ∈ tr' := by
  induction h with
  | nil => cases hv
  | cons o x _ ih =>
    rcases List.mem_cons.1 hv with heq | hv
    · cases o with
      | look =>
        cases heq
        exact List.mem_cons_self
      | _ => cases heq
    · exact List.mem_cons_of_mem _ (ih hv)

theorem Beside.writes (h : Beside tr' tr) {P : (g : G) → V g → Prop} {P' : (g : G ⊕ H) → Side V W g → Prop}
    (hP : ∀ g v, P g v → P' (.inl g) v) (hw : Writes P tr) : Writes P' tr' := by
  induction h with
  | nil => trivial
  | cons o x _ ih =>
    cases o with
    | write g f => exact ⟨fun v => hP g _ (hw.1 v), ih hw.2⟩
    | _ => exact ih hw

section Commit

variable [DecidableEq G] [DecidableEq H]

/-- **A commit changes the left side as it does alone.** -/
theorem Beside.commit_left (h : Beside tr' tr) : leftDb (commit tr' db) = commit tr (leftDb db) := by
  induction h generalizing db with
  | nil => rfl
  | cons o x _ ih =>
    cases o with
    | write g f =>
      refine ih.trans (congrArg (commit _) ?_)
      funext g'
      by_cases hg : g' = g
      · subst hg
        simp [Op.applied, Op.left]
      · simp [Op.applied, Op.left, hg]
    | _ => exact ih

/-- **It changes nothing on the right side.** -/
theorem Beside.commit_right (h : Beside tr' tr) (k : H) : commit tr' db (.inr k) = db (.inr k) := by
  induction h generalizing db with
  | nil => rfl
  | cons o x _ ih =>
    cases o with
    | write g f => exact ih.trans (by simp [Op.applied, Op.left])
    | _ => exact ih

end Commit

end Traces

/-- **What a program meets alone, it meets in the larger store.** -/
theorem Meets.left {db : Db (Side V W)} {p : Txn V ε α} {Q : List (Entry V) → α → Prop} (h : Meets (leftDb db) p Q) :
    Meets db (p.left W) fun tr' a => ∃ tr, Beside tr' tr ∧ Q tr a := by
  intro tr' a he hc
  obtain ⟨tr, hside, hends⟩ := ends_left he
  exact ⟨tr, hside, h tr a hends (hside.current hc)⟩

end RowLocks
