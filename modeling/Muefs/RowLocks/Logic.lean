import Muefs.RowLocks.Program

/-!
# What a transaction does to the values it locked

A transaction that holds its locks to the end commits over the very values it read. So one judgement about a fixed store
says what a commit does, whatever ran beside it.

* `commit tr db` : the store after the writes of `tr`;
* `Current db tr` : every lock of `tr` read the value that `db` has;
* `Writes P tr` : every value that `tr` writes at `g` satisfies `P g`; `Writes.commit` says what the store then holds;
* `Meets db p Q` : every run of `p` to its end, with its locks current in `db`, satisfies `Q`;
* one rule for each operation (`meets_lock`, `meets_look`, `meets_require`, …), `Meets.mono`, `Meets.both`;
* `Meets.savepoint` : a nested transaction is all of `p` or nothing.
-/

namespace RowLocks

variable {G : Type} {V : G → Type} {ε α β : Type}

abbrev Db (V : G → Type) : Type := (g : G) → V g

/-- Every lock of the trace that lasts to the end read the value `db` has. -/
def Current (db : Db V) : List (Entry V) → Prop
  | [] => True
  | ⟨.lock _ g, v⟩ :: tr => v = db g ∧ Current db tr
  | ⟨.keep _ g v, _⟩ :: tr => v = db g ∧ Current db tr
  | ⟨.clock, _⟩ :: tr | ⟨.fresh, _⟩ :: tr | ⟨.look _, _⟩ :: tr | ⟨.tryLock _ _, _⟩ :: tr | ⟨.letGo, _⟩ :: tr
  | ⟨.snapshot, _⟩ :: tr | ⟨.write _ _, _⟩ :: tr | ⟨.act _ _, _⟩ :: tr => Current db tr

theorem current_append {db : Db V} {tr₁ tr₂ : List (Entry V)} :
    Current db (tr₁ ++ tr₂) ↔ Current db tr₁ ∧ Current db tr₂ := by
  induction tr₁ with
  | nil => simp [Current]
  | cons e tr₁ ih =>
    obtain ⟨o, x⟩ := e
    cases o <;> simp only [List.cons_append, Current, ih, and_assoc]

section Commit

variable [DecidableEq G]

/-- The store after one request of a committed transaction. -/
def Op.applied (db : Db V) : Op V → Db V
  | .write g f => Function.update db g (f (db g))
  | _ => db

/-- The store after the writes of a trace. -/
def commit : List (Entry V) → Db V → Db V
  | [], db => db
  | e :: tr, db => commit tr (e.op.applied db)

@[simp] theorem commit_nil (db : Db V) : commit [] db = db := rfl

theorem commit_append (tr₁ tr₂ : List (Entry V)) (db : Db V) :
    commit (tr₁ ++ tr₂) db = commit tr₂ (commit tr₁ db) := by
  induction tr₁ generalizing db with
  | nil => rfl
  | cons e tr₁ ih => exact ih _

/-- What a commit leaves at a name comes of what was there. -/
theorem commit_congr {db db' : Db V} {g : G} (tr : List (Entry V)) (h : db g = db' g) :
    commit tr db g = commit tr db' g := by
  induction tr generalizing db db' with
  | nil => exact h
  | cons e tr ih =>
    obtain ⟨o, x⟩ := e
    refine ih ?_
    cases o with
    | write g' f =>
      by_cases hg : g = g'
      · subst hg
        simp only [Op.applied, Function.update_self, h]
      · simp only [Op.applied, Function.update_of_ne hg, h]
    | _ => exact h

/-- Every value that the trace writes at `g` satisfies `P g`. -/
def Writes (P : (g : G) → V g → Prop) : List (Entry V) → Prop
  | [] => True
  | ⟨.write g f, _⟩ :: tr => (∀ v, P g (f v)) ∧ Writes P tr
  | ⟨.clock, _⟩ :: tr | ⟨.fresh, _⟩ :: tr | ⟨.look _, _⟩ :: tr | ⟨.lock _ _, _⟩ :: tr | ⟨.tryLock _ _, _⟩ :: tr
  | ⟨.snapshot, _⟩ :: tr | ⟨.keep _ _ _, _⟩ :: tr | ⟨.letGo, _⟩ :: tr | ⟨.act _ _, _⟩ :: tr => Writes P tr

omit [DecidableEq G] in
@[simp] theorem writes_append {P : (g : G) → V g → Prop} {tr₁ tr₂ : List (Entry V)} :
    Writes P (tr₁ ++ tr₂) ↔ Writes P tr₁ ∧ Writes P tr₂ := by
  induction tr₁ with
  | nil => simp [Writes]
  | cons e tr₁ ih =>
    obtain ⟨o, x⟩ := e
    cases o <;> simp only [List.cons_append, Writes, ih, and_assoc]

omit [DecidableEq G] in
theorem Writes.mono {P Q : (g : G) → V g → Prop} {tr : List (Entry V)} (h : Writes P tr)
    (hPQ : ∀ g v, P g v → Q g v) : Writes Q tr := by
  induction tr with
  | nil => trivial
  | cons e tr ih =>
    obtain ⟨o, x⟩ := e
    cases o with
    | write g f => exact ⟨fun v => hPQ g _ (h.1 v), ih h.2⟩
    | _ => exact ih h

/-- **After a commit every name holds what it held before or a value that was written there.** -/
theorem Writes.commit {P : (g : G) → V g → Prop} {tr : List (Entry V)} (h : Writes P tr) (db : Db V) (g : G) :
    commit tr db g = db g ∨ P g (commit tr db g) := by
  induction tr generalizing db with
  | nil => exact .inl rfl
  | cons e tr ih =>
    obtain ⟨o, x⟩ := e
    cases o with
    | write g' f =>
      rcases ih h.2 (Function.update db g' (f (db g'))) with hg | hg
      · by_cases hne : g = g'
        · subst hne
          refine .inr ?_
          change P g (RowLocks.commit tr (Function.update db g (f (db g))) g)
          rw [hg, Function.update_self]
          exact h.1 _
        · refine .inl ?_
          change RowLocks.commit tr (Function.update db g' (f (db g'))) g = db g
          rw [hg, Function.update_of_ne hne]
      · exact .inr hg
    | _ => exact ih h db

theorem Writes.wrote {P : (g : G) → V g → Prop} {tr : List (Entry V)} (h : Writes P tr) {g : G} {f : V g → V g}
    (hf : (⟨.write g f, ()⟩ : Entry V) ∈ tr) (db : Db V) : P g (RowLocks.commit tr db g) := by
  induction tr generalizing db with
  | nil => exact absurd hf (by simp)
  | cons e tr ih =>
    have htail : Writes P tr := by
      obtain ⟨o, x⟩ := e
      cases o with
      | write => exact h.2
      | _ => exact h
    rcases List.mem_cons.1 hf with rfl | hf
    · rcases htail.commit (Function.update db g (f (db g))) g with hg | hg
      · change P g (RowLocks.commit tr (Function.update db g (f (db g))) g)
        rw [hg, Function.update_self]
        exact h.1 _
      · exact hg
    · exact ih htail hf _

theorem Writes.frame {P : (g : G) → V g → Prop} {tr : List (Entry V)} (h : Writes P tr) (db : Db V) {g : G}
    (hg : ∀ v, ¬ P g v) : RowLocks.commit tr db g = db g := (h.commit db g).resolve_right (hg _)

end Commit

/-! ## The judgement -/

/-- Every run of `p` to its end whose locks are current in `db` satisfies `Q`. -/
def Meets (db : Db V) (p : Txn V ε α) (Q : List (Entry V) → α → Prop) : Prop :=
  ∀ tr a, p.Ends tr a → Current db tr → Q tr a

section Rules

variable {db : Db V} {Q R : List (Entry V) → α → Prop}

theorem Meets.mono {p : Txn V ε α} (h : Meets db p Q) (hQ : ∀ tr a, Q tr a → R tr a) : Meets db p R :=
  fun tr a he hc => hQ tr a (h tr a he hc)

theorem Meets.both {p : Txn V ε α} (h : Meets db p Q) (h' : Meets db p R) : Meets db p fun tr a => Q tr a ∧ R tr a :=
  fun tr a he hc => ⟨h tr a he hc, h' tr a he hc⟩

theorem meets_of_asks {p : Txn V ε α} {P : Op V → Prop} (h : p.Asks P) : Meets db p fun tr _ => ∀ e ∈ tr, P e.op :=
  fun _ _ he _ => h.after he

theorem meets_done {a : α} : Meets db (.done a : Txn V ε α) Q ↔ Q [] a := by
  constructor
  · intro h
    exact h [] a (Txn.ends_done.2 ⟨rfl, rfl⟩) trivial
  · intro h tr b he _
    obtain ⟨rfl, rfl⟩ := Txn.ends_done.1 he
    exact h

@[simp] theorem meets_pure {a : α} : Meets db (pure a : Txn V ε α) Q ↔ Q [] a := meets_done

@[simp] theorem meets_raise {x : ε} : Meets db (.raise x : Txn V ε α) Q :=
  fun _ _ he => absurd he Txn.ends_raise

@[simp] theorem meets_bind {p : Txn V ε β} {k : β → Txn V ε α} :
    Meets db (p >>= k) Q ↔ Meets db p fun tr b => Meets db (k b) fun tr' a => Q (tr ++ tr') a := by
  constructor
  · intro h tr₁ b h₁ hc₁ tr₂ a h₂ hc₂
    exact h _ a (Txn.ends_bind.2 ⟨tr₁, tr₂, b, rfl, h₁, h₂⟩) (current_append.2 ⟨hc₁, hc₂⟩)
  · intro h tr a he hc
    obtain ⟨tr₁, tr₂, b, rfl, h₁, h₂⟩ := Txn.ends_bind.1 he
    obtain ⟨hc₁, hc₂⟩ := current_append.1 hc
    exact h tr₁ b h₁ hc₁ tr₂ a h₂ hc₂

theorem meets_ask {o : Op V} {R : List (Entry V) → o.Answer → Prop} (ho : ∀ x, Current db [⟨o, x⟩]) :
    Meets db (.ask o .done : Txn V ε o.Answer) R ↔ ∀ x, R [⟨o, x⟩] x := by
  constructor
  · intro h x
    exact h _ x (Txn.ends_ask.2 ⟨x, [], rfl, rfl⟩) (ho x)
  · intro h tr a he _
    obtain ⟨x, rest, rfl, hd⟩ := Txn.ends_ask.1 he
    obtain ⟨rfl, rfl⟩ := Txn.ends_done.1 hd
    exact h _

@[simp] theorem meets_now {R : List (Entry V) → Int → Prop} :
    Meets db (Txn.now : Txn V ε Int) R ↔ ∀ t, R [⟨.clock, t⟩] t := meets_ask (o := .clock) fun _ => trivial

@[simp] theorem meets_newId {R : List (Entry V) → Nat → Prop} :
    Meets db (Txn.newId : Txn V ε Nat) R ↔ ∀ n, R [⟨.fresh, n⟩] n := meets_ask (o := .fresh) fun _ => trivial

@[simp] theorem meets_look {g : G} {R : List (Entry V) → V g → Prop} :
    Meets db (Txn.look g : Txn V ε (V g)) R ↔ ∀ v, R [⟨.look g, v⟩] v := meets_ask (o := .look g) fun _ => trivial

@[simp] theorem meets_snapshot {R : List (Entry V) → Db V → Prop} :
    Meets db (Txn.snapshot : Txn V ε ((g : G) → V g)) R ↔ ∀ v, R [⟨.snapshot, v⟩] v :=
  meets_ask (o := .snapshot) fun _ => trivial

@[simp] theorem meets_write {g : G} {f : V g → V g} {R : List (Entry V) → Unit → Prop} :
    Meets db (Txn.write g f : Txn V ε Unit) R ↔ R [⟨.write g f, ()⟩] () :=
  (meets_ask (o := .write g f) fun _ => trivial).trans ⟨fun h => h (), fun h _ => h⟩

@[simp] theorem meets_act {g : G} {f : V g → V g} {R : List (Entry V) → Unit → Prop} :
    Meets db (Txn.act g f : Txn V ε Unit) R ↔ R [⟨.act g f, ()⟩] () :=
  (meets_ask (o := .act g f) fun _ => trivial).trans ⟨fun h => h (), fun h _ => h⟩

/-- **A locked row has the value it has at the commit.** -/
@[simp] theorem meets_lock {m : Mode} {g : G} {R : List (Entry V) → V g → Prop} :
    Meets db (Txn.lock m g : Txn V ε (V g)) R ↔ R [⟨.lock m g, db g⟩] (db g) := by
  constructor
  · intro h
    exact h _ (db g) (Txn.ends_ask.2 ⟨db g, [], rfl, rfl⟩) ⟨rfl, trivial⟩
  · intro h tr a he hc
    obtain ⟨x, rest, rfl, hd⟩ := Txn.ends_ask.1 he
    obtain ⟨rfl, rfl⟩ := Txn.ends_done.1 hd
    obtain ⟨rfl, _⟩ := hc
    exact h

@[simp] theorem meets_require {c : Prop} [Decidable c] {x : ε} {R : List (Entry V) → Unit → Prop} :
    Meets db (Txn.require c x) R ↔ (c → R [] ()) := by
  unfold Txn.require
  split <;> simp_all [meets_done]

@[simp] theorem meets_expect {o : Option α} {x : ε} :
    Meets db (Txn.expect o x) Q ↔ ∀ a, o = some a → Q [] a := by
  cases o <;> simp [Txn.expect, meets_done]

@[simp] theorem meets_ofExcept {r : Except ε α} :
    Meets db (Txn.ofExcept r) Q ↔ ∀ a, r = .ok a → Q [] a := by
  cases r <;> simp [Txn.ofExcept, meets_done]

@[simp] theorem meets_ite {c : Prop} [Decidable c] {p q : Txn V ε α} :
    Meets db (if c then p else q) Q ↔ (c → Meets db p Q) ∧ (¬ c → Meets db q Q) := by
  split <;> simp_all

@[simp] theorem meets_onRaise {p : Txn V ε α} {c : Txn V ε Unit} : Meets db (p.onRaise c) Q ↔ Meets db p Q := by
  simp only [Meets, Txn.ends_onRaise]

end Rules

/-! ## Nested transactions -/

section Savepoint

variable [DecidableEq G]

/-- The answers that come from outside: the clock, new numbers, unlocked reads. -/
def Entry.Heard (e : Entry V) : Prop :=
  match e.op with
  | .clock | .fresh | .look _ | .snapshot => True
  | _ => False

/-- The store after the writes among `os`. -/
def appliedAll (os : List (Op V)) (db : Db V) : Db V := os.foldl Op.applied db

theorem ends_settle {os : List (Op V)} {a b : α} {tr : List (Entry V)}
    (h : (Txn.settle os (.done a) : Txn V ε α).Ends tr b) :
    b = a ∧ (∀ db, Current db tr → ∀ m g v, Op.keep m g v ∈ os → v = db g) ∧
      ∀ db, commit tr db = appliedAll os db := by
  induction os generalizing tr with
  | nil =>
    obtain ⟨rfl, rfl⟩ := Txn.ends_done.1 h
    exact ⟨rfl, by simp, fun _ => rfl⟩
  | cons o os ih =>
    cases o with
    | keep m g v =>
      obtain ⟨x, rest, rfl, hr⟩ := Txn.ends_ask.1 h
      obtain ⟨hb, hk, hw⟩ := ih hr
      refine ⟨hb, fun db hc m' g' v' hm => ?_, hw⟩
      rcases List.mem_cons.1 hm with hm | hm
      · cases hm
        exact hc.1
      · exact hk db hc.2 m' g' v' hm
    | write g f =>
      obtain ⟨x, rest, rfl, hr⟩ := Txn.ends_ask.1 h
      obtain ⟨hb, hk, hw⟩ := ih hr
      exact ⟨hb, fun db hc m' g' v' hm => hk db hc m' g' v' (by simpa using hm), fun db => hw _⟩
    | _ =>
      obtain ⟨hb, hk, hw⟩ := ih h
      exact ⟨hb, fun db hc m' g' v' hm => hk db hc m' g' v' (by simpa using hm), hw⟩

/-- What a trace of a savepoint says of the nested transaction. -/
structure Nested (p : Txn V ε α) (os : List (Op V)) (tr tr₀ : List (Entry V)) (a : α) : Prop where
  ends : p.Ends tr₀ a
  current : ∀ db, Current db tr → Current db tr₀
  kept : ∀ db, Current db tr → ∀ m g v, Op.keep m g v ∈ os → v = db g
  commit : ∀ db, commit tr db = RowLocks.commit tr₀ (appliedAll os db)
  heard : ∀ e ∈ tr₀, e.Heard → e ∈ tr

theorem ends_savepointFrom {p : Txn V ε α} {os : List (Op V)} {tr : List (Entry V)} {r : Except ε α}
    (h : (p.savepointFrom os).Ends tr r) :
    (∀ a, r = .ok a → ∃ tr₀, Nested p os tr tr₀ a) ∧ ∀ x, r = .error x → ∀ db, commit tr db = db := by
  induction p generalizing os tr with
  | done a =>
    obtain ⟨rfl, hk, hw⟩ := ends_settle h
    refine ⟨fun b hb => ?_, fun x hx => by simp at hx⟩
    cases hb
    exact ⟨[], rfl, fun _ _ => trivial, hk, hw, by simp⟩
  | raise x =>
    obtain ⟨_, rest, rfl, hd⟩ := Txn.ends_ask.1 h
    obtain ⟨rfl, rfl⟩ := Txn.ends_done.1 hd
    exact ⟨fun a ha => by simp at ha, fun _ _ _ => rfl⟩
  | ask o n ih =>
    cases o with
    | lock m g =>
      obtain ⟨v, rest, rfl, hr⟩ := Txn.ends_ask.1 h
      obtain ⟨hok, herr⟩ := ih v hr
      refine ⟨fun a ha => ?_, herr⟩
      obtain ⟨tr₀, hn⟩ := hok a ha
      have happ : ∀ db, appliedAll (os ++ [.keep m g v]) db = appliedAll os db := by
        intro db
        simp [appliedAll, Op.applied]
      refine ⟨⟨.lock m g, v⟩ :: tr₀, ?_⟩
      exact {
        ends := Txn.ends_ask.2 ⟨v, tr₀, rfl, hn.ends⟩
        current := fun db hc => ⟨hn.kept db hc m g v (by simp), hn.current db hc⟩
        kept := fun db hc m' g' v' hm => hn.kept db hc m' g' v' (by simp [hm])
        commit := fun db => (hn.commit db).trans (by rw [happ]; rfl)
        heard := fun e he hh => by
          rcases List.mem_cons.1 he with rfl | he
          · exact absurd hh (by simp [Entry.Heard])
          · exact List.mem_cons_of_mem _ (hn.heard e he hh) }
    | keep m g v =>
      obtain ⟨hok, herr⟩ := ih () h
      refine ⟨fun a ha => ?_, herr⟩
      obtain ⟨tr₀, hn⟩ := hok a ha
      have happ : ∀ db, appliedAll (os ++ [.keep m g v]) db = appliedAll os db := by
        intro db
        simp [appliedAll, Op.applied]
      refine ⟨⟨.keep m g v, ()⟩ :: tr₀, ?_⟩
      exact {
        ends := Txn.ends_ask.2 ⟨(), tr₀, rfl, hn.ends⟩
        current := fun db hc => ⟨hn.kept db hc m g v (by simp), hn.current db hc⟩
        kept := fun db hc m' g' v' hm => hn.kept db hc m' g' v' (by simp [hm])
        commit := fun db => (hn.commit db).trans (by rw [happ]; rfl)
        heard := fun e he hh => by
          rcases List.mem_cons.1 he with rfl | he
          · exact absurd hh (by simp [Entry.Heard])
          · exact hn.heard e he hh }
    | write g f =>
      obtain ⟨hok, herr⟩ := ih () h
      refine ⟨fun a ha => ?_, herr⟩
      obtain ⟨tr₀, hn⟩ := hok a ha
      refine ⟨⟨.write g f, ()⟩ :: tr₀, ?_⟩
      exact {
        ends := Txn.ends_ask.2 ⟨(), tr₀, rfl, hn.ends⟩
        current := fun db hc => hn.current db hc
        kept := fun db hc m' g' v' hm => hn.kept db hc m' g' v' (by simp [hm])
        commit := fun db => (hn.commit db).trans (by simp [appliedAll, RowLocks.commit])
        heard := fun e he hh => by
          rcases List.mem_cons.1 he with rfl | he
          · exact absurd hh (by simp [Entry.Heard])
          · exact hn.heard e he hh }
    | clock | fresh | look | snapshot | tryLock | letGo | act =>
      obtain ⟨v, rest, rfl, hr⟩ := Txn.ends_ask.1 h
      obtain ⟨hok, herr⟩ := ih v hr
      refine ⟨fun a ha => ?_, herr⟩
      obtain ⟨tr₀, hn⟩ := hok a ha
      refine ⟨⟨_, v⟩ :: tr₀, ?_⟩
      exact {
        ends := Txn.ends_ask.2 ⟨v, tr₀, rfl, hn.ends⟩
        current := fun db hc => hn.current db hc
        kept := fun db hc => hn.kept db hc
        commit := fun db => hn.commit db
        heard := fun e he hh => by
          rcases List.mem_cons.1 he with rfl | he
          · exact List.mem_cons_self
          · exact List.mem_cons_of_mem _ (hn.heard e he hh) }

/-- **A nested transaction commits what `p` commits, or nothing.** -/
theorem Meets.savepoint {db : Db V} {p : Txn V ε α} {Q : List (Entry V) → α → Prop} (h : Meets db p Q) :
    Meets db p.savepoint fun tr r =>
      (∀ a, r = .ok a → ∃ tr₀, Q tr₀ a ∧ (∀ db, commit tr db = commit tr₀ db) ∧ ∀ e ∈ tr₀, e.Heard → e ∈ tr) ∧
      ∀ x, r = .error x → ∀ db, commit tr db = db := by
  intro tr r he hc
  obtain ⟨hok, herr⟩ := ends_savepointFrom he
  refine ⟨fun a ha => ?_, herr⟩
  obtain ⟨tr₀, hn⟩ := hok a ha
  exact ⟨tr₀, h tr₀ a hn.ends (hn.current db hc), hn.commit, hn.heard⟩

end Savepoint

end RowLocks
