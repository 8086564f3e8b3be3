import Mathlib.Logic.Function.Basic
import Mathlib.Tactic.Common

/-!
# Transactions over lockable rows: programs and their traces

The store is a dependent map `(g : G) → V g`. A row that can be locked, an index entry of a unique constraint and an
object of a file store are all names in `G`.

* `Op V` : what a transaction asks of the database; `Entry V` : a request with its answer;
* `draws tr` : the numbers that were handed out in a trace; `reads g tr` : what it read of a name without a lock;
* `Txn V ε α` : one transaction that ends with an `α` or raises an `ε`;
* `Fires p e q` : `p` becomes `q` by doing `e`; `After p tr q` : the same for a trace;
* `Ends p tr a` : after `tr` the transaction is ready to commit with the answer `a`; `ends_bind` takes a
  `do` block apart;
* `Along p R` : every trace of `p`, finished or not, satisfies `R`; `Asks P p` : every request of `p` satisfies `P`;
* `require`, `expect` : guards; `onRaise` : clean up, then raise again; `savepoint` : a nested transaction.

Writes stay with the transaction until it commits. `act` takes effect at once and is never rolled back.
-/

namespace RowLocks

/-- Row locks: `share` excludes `update`, `update` excludes both. A row inserted under a unique key holds the key's
index entry with `update`. -/
inductive Mode where
  | share
  | update
  deriving DecidableEq, Repr

/-- A shared lock goes with other shared locks only. -/
def Mode.Compatible : Mode → Mode → Prop
  | .share, .share => True
  | _, _ => False

theorem Mode.Compatible.symm {m m' : Mode} (h : m.Compatible m') : m'.Compatible m := by
  cases m <;> cases m' <;> exact h

/-- What a transaction asks of the database.

`look` reads the committed value without a lock, and `snapshot` those of all names at one moment. `lock` waits for the
row lock and then reads. `tryLock` is a lock that a later `letGo` gives back; `keep`, with the value it read, makes it
last until the transaction ends. -/
inductive Op {G : Type} (V : G → Type) : Type where
  | clock
  | fresh
  | look (g : G)
  | snapshot
  | lock (m : Mode) (g : G)
  | tryLock (m : Mode) (g : G)
  | keep (m : Mode) (g : G) (v : V g)
  | letGo
  | write (g : G) (f : V g → V g)
  | act (g : G) (f : V g → V g)

variable {G : Type} {V : G → Type} {ε α β γ : Type}

abbrev Op.Answer : Op V → Type
  | .clock => Int
  | .fresh => Nat
  | .look g | .lock _ g | .tryLock _ g => V g
  | .snapshot => (g : G) → V g
  | .keep _ _ _ | .letGo | .write _ _ | .act _ _ => Unit

/-- One step of a transaction: what it asked, and the answer. -/
structure Entry (V : G → Type) where
  op : Op V
  answer : op.Answer

/-- A transaction that answers with an `α` or raises an `ε`. -/
inductive Txn (V : G → Type) (ε α : Type) : Type where
  | done (a : α)
  | raise (e : ε)
  | ask (o : Op V) (next : o.Answer → Txn V ε α)

/-- The numbers that a trace drew. -/
def draws : List (Entry V) → List Nat
  | [] => []
  | ⟨.fresh, n⟩ :: tr => n :: draws tr
  | ⟨.clock, _⟩ :: tr | ⟨.look _, _⟩ :: tr | ⟨.lock _ _, _⟩ :: tr | ⟨.tryLock _ _, _⟩ :: tr | ⟨.keep _ _ _, _⟩ :: tr
  | ⟨.snapshot, _⟩ :: tr | ⟨.letGo, _⟩ :: tr | ⟨.write _ _, _⟩ :: tr | ⟨.act _ _, _⟩ :: tr => draws tr

theorem draws_append (tr₁ tr₂ : List (Entry V)) : draws (tr₁ ++ tr₂) = draws tr₁ ++ draws tr₂ := by
  induction tr₁ with
  | nil => rfl
  | cons e tr₁ ih =>
    obtain ⟨o, x⟩ := e
    cases o <;> simp only [List.cons_append, draws, ih]

theorem mem_draws {tr : List (Entry V)} {n : Nat} : n ∈ draws tr ↔ (⟨.fresh, n⟩ : Entry V) ∈ tr := by
  induction tr with
  | nil => simp [draws]
  | cons e tr ih =>
    obtain ⟨o, x⟩ := e
    cases o <;> simp [draws, ih]

section Reads

variable [DecidableEq G]

/-- What an entry reads of this name without a lock. -/
def Entry.read (g : G) : Entry V → Option (V g)
  | ⟨.look g', v⟩ => if h : g' = g then some (h ▸ v) else none
  | _ => none

/-- What a trace read of a name without a lock, in order. -/
def reads (g : G) (tr : List (Entry V)) : List (V g) := tr.filterMap (Entry.read g)

@[simp] theorem Entry.read_look (g : G) (v : V g) : Entry.read g ⟨.look g, v⟩ = some v := by simp [Entry.read]

theorem Entry.read_eq_some {g : G} {v : V g} {e : Entry V} : e.read g = some v ↔ e = ⟨.look g, v⟩ := by
  constructor
  · intro h
    obtain ⟨o, x⟩ := e
    cases o with
    | look g' =>
      simp only [Entry.read] at h
      split_ifs at h with hg
      subst hg
      cases h
      rfl
    | _ => cases h
  · rintro rfl
    simp

theorem reads_append (g : G) (tr₁ tr₂ : List (Entry V)) : reads g (tr₁ ++ tr₂) = reads g tr₁ ++ reads g tr₂ :=
  List.filterMap_append

theorem reads_last {g : G} {v : V g} {pre post : List (Entry V)} (h : reads g post = []) :
    (reads g (pre ++ ⟨.look g, v⟩ :: post)).getLast? = some v := by
  have hcons : reads g (⟨.look g, v⟩ :: post) = [v] := by
    rw [← List.singleton_append, reads_append, h]
    simp [reads]
  rw [reads_append, hcons, List.getLast?_concat]

end Reads

/-- The request changes nothing before the commit. -/
def Op.Still : Op V → Prop
  | .act _ _ => False
  | _ => True

/-- The request neither locks nor changes anything before the commit. -/
def Op.Plain : Op V → Prop
  | .clock | .fresh | .look _ | .snapshot | .write _ _ => True
  | _ => False

theorem Op.Plain.still {o : Op V} (h : o.Plain) : o.Still := by
  cases o <;> trivial

namespace Txn

/-! ## Sequencing -/

/-- Sequential composition. -/
def bind : Txn V ε α → (α → Txn V ε β) → Txn V ε β
  | done a, k => k a
  | raise e, _ => raise e
  | ask o n, k => ask o fun x => (n x).bind k

instance : Monad (Txn V ε) where
  pure := done
  bind := bind

theorem bind_done (p : Txn V ε α) : p.bind done = p := by
  induction p with
  | done a => rfl
  | raise e => rfl
  | ask o n ih => simp only [bind, ih]

theorem bind_assoc (p : Txn V ε α) (k : α → Txn V ε β) (l : β → Txn V ε γ) :
    (p.bind k).bind l = p.bind fun a => (k a).bind l := by
  induction p with
  | done a => rfl
  | raise e => rfl
  | ask o n ih => simp only [bind, ih]

instance : LawfulMonad (Txn V ε) :=
  LawfulMonad.mk' (Txn V ε) bind_done (fun _ _ => rfl) bind_assoc

/-! ## Operations -/

/-- The time at which the server looks at its clock. -/
def now : Txn V ε Int := ask .clock done

/-- A number that was never handed out before. -/
def newId : Txn V ε Nat := ask .fresh done

/-- Read without a lock. -/
def look (g : G) : Txn V ε (V g) := ask (.look g) done

/-- Read all names at one moment, without a lock. -/
def snapshot : Txn V ε ((g : G) → V g) := ask .snapshot done

/-- Lock, then read. -/
def lock (m : Mode) (g : G) : Txn V ε (V g) := ask (.lock m g) done

/-- A write that the commit carries out. -/
def write (g : G) (f : V g → V g) : Txn V ε Unit := ask (.write g f) done

/-- A change outside the transaction, in effect at once. -/
def act (g : G) (f : V g → V g) : Txn V ε Unit := ask (.act g f) done

/-- Go on only if `c` holds. -/
def require (c : Prop) [Decidable c] (e : ε) : Txn V ε Unit := if c then done () else raise e

/-- Go on with the value of `o`. -/
def expect (o : Option α) (e : ε) : Txn V ε α :=
  match o with
  | some a => done a
  | none => raise e

/-- Go on with the value, or raise the error. -/
def ofExcept : Except ε α → Txn V ε α
  | .ok a => done a
  | .error e => raise e

/-- Run `c` when `p` raises, then raise again. -/
def onRaise (p : Txn V ε α) (c : Txn V ε Unit) : Txn V ε α :=
  match p with
  | done a => done a
  | raise e => c.bind fun _ => raise e
  | ask o n => ask o fun x => (n x).onRaise c

/-- Carry out the locks and writes that a savepoint put off. -/
def settle : List (Op V) → Txn V ε α → Txn V ε α
  | .keep m g v :: os, p => ask (.keep m g v) fun _ => settle os p
  | .write g f :: os, p => ask (.write g f) fun _ => settle os p
  | _ :: os, p => settle os p
  | [], p => p

/-- `savepoint` after the requests `os`: a raise gives back the locks of `os` and drops its writes. -/
def savepointFrom : List (Op V) → Txn V ε α → Txn V ε (Except ε α)
  | os, done a => settle os (done (.ok a))
  | _, raise e => ask .letGo fun _ => done (.error e)
  | os, ask (.lock m g) n => ask (.tryLock m g) fun v => savepointFrom (os ++ [.keep m g v]) (n v)
  | os, ask (.keep m g v) n => savepointFrom (os ++ [.keep m g v]) (n ())
  | os, ask (.write g f) n => savepointFrom (os ++ [.write g f]) (n ())
  | os, ask o n => ask o fun x => savepointFrom os (n x)

/-- A nested transaction: the outer one goes on after a raise, as if nothing in it had happened. -/
def savepoint (p : Txn V ε α) : Txn V ε (Except ε α) := p.savepointFrom []

/-! ## Traces -/

/-- One step. -/
inductive Fires : Txn V ε α → Entry V → Txn V ε α → Prop where
  | ask (o : Op V) (n : o.Answer → Txn V ε α) (x : o.Answer) : Fires (ask o n) ⟨o, x⟩ (n x)

/-- What is left of `p` after the trace. -/
def After (p : Txn V ε α) : List (Entry V) → Txn V ε α → Prop
  | [], q => p = q
  | e :: tr, q => ∃ r, Fires p e r ∧ After r tr q

/-- The trace takes `p` to its end. -/
def Ends (p : Txn V ε α) (tr : List (Entry V)) (a : α) : Prop := After p tr (done a)

/-- The trace takes `p` to a raise. -/
def Raises (p : Txn V ε α) (tr : List (Entry V)) (e : ε) : Prop := After p tr (raise e)

theorem after_append {p q : Txn V ε α} {tr₁ tr₂ : List (Entry V)} :
    After p (tr₁ ++ tr₂) q ↔ ∃ r, After p tr₁ r ∧ After r tr₂ q := by
  induction tr₁ generalizing p with
  | nil => simp [After]
  | cons e tr₁ ih =>
    simp only [List.cons_append, After, ih]
    constructor
    · rintro ⟨r, hf, s, h₁, h₂⟩
      exact ⟨s, ⟨r, hf, h₁⟩, h₂⟩
    · rintro ⟨s, ⟨r, hf, h₁⟩, h₂⟩
      exact ⟨r, hf, s, h₁, h₂⟩

theorem after_concat {p q : Txn V ε α} {tr : List (Entry V)} {e : Entry V} :
    After p (tr ++ [e]) q ↔ ∃ r, After p tr r ∧ Fires r e q := by
  simp [after_append, After]

theorem after_done {a : α} {tr : List (Entry V)} {q : Txn V ε α} :
    After (done a) tr q ↔ tr = [] ∧ q = done a := by
  cases tr with
  | nil => simp [After, eq_comm]
  | cons e tr =>
    simp only [After, reduceCtorEq, false_and, iff_false]
    rintro ⟨r, hf, _⟩
    cases hf

theorem after_raise {x : ε} {tr : List (Entry V)} {q : Txn V ε α} :
    After (raise x) tr q ↔ tr = [] ∧ q = raise x := by
  cases tr with
  | nil => simp [After, eq_comm]
  | cons e tr =>
    simp only [After, reduceCtorEq, false_and, iff_false]
    rintro ⟨r, hf, _⟩
    cases hf

theorem after_ask {o : Op V} {n : o.Answer → Txn V ε α} {tr : List (Entry V)} {q : Txn V ε α} :
    After (ask o n) tr q ↔ (tr = [] ∧ q = ask o n) ∨ ∃ x rest, tr = ⟨o, x⟩ :: rest ∧ After (n x) rest q := by
  cases tr with
  | nil => simp only [After, true_and, reduceCtorEq, false_and, exists_false, or_false, eq_comm (a := q)]
  | cons e tr =>
    simp only [After, reduceCtorEq, false_and, false_or]
    constructor
    · rintro ⟨r, ⟨x⟩, h⟩
      exact ⟨_, tr, rfl, h⟩
    · rintro ⟨x, rest, h, hr⟩
      cases h
      exact ⟨_, .ask o n x, hr⟩

theorem After.unique {p q q' : Txn V ε α} {tr : List (Entry V)} (h : After p tr q) (h' : After p tr q') : q = q' := by
  induction tr generalizing p with
  | nil => exact h.symm.trans h'
  | cons e tr ih =>
    obtain ⟨r, hf, hr⟩ := h
    obtain ⟨r', hf', hr'⟩ := h'
    cases hf with
    | ask o n x =>
      cases hf'
      exact ih hr hr'

theorem ends_done {a b : α} {tr : List (Entry V)} : Ends (done a : Txn V ε α) tr b ↔ tr = [] ∧ b = a := by
  simp [Ends, after_done]

theorem ends_raise {x : ε} {b : α} {tr : List (Entry V)} : ¬ Ends (raise x : Txn V ε α) tr b := by
  simp [Ends, after_raise]

theorem ends_ask {o : Op V} {n : o.Answer → Txn V ε α} {tr : List (Entry V)} {a : α} :
    Ends (ask o n) tr a ↔ ∃ x rest, tr = ⟨o, x⟩ :: rest ∧ Ends (n x) rest a := by
  simp [Ends, after_ask]

/-- **A trace to the end of a composition is one of the first part followed by one of the second.** -/
theorem ends_bind {p : Txn V ε α} {k : α → Txn V ε β} {tr : List (Entry V)} {b : β} :
    Ends (p >>= k) tr b ↔ ∃ tr₁ tr₂ a, tr = tr₁ ++ tr₂ ∧ Ends p tr₁ a ∧ Ends (k a) tr₂ b := by
  change Ends (p.bind k) tr b ↔ _
  induction p generalizing tr with
  | done a => simp [bind, ends_done]
  | raise x => simp [bind, ends_raise]
  | ask o n ih =>
    simp only [bind, ends_ask, ih]
    constructor
    · rintro ⟨x, _, rfl, tr₁, tr₂, a, rfl, h₁, h₂⟩
      exact ⟨⟨o, x⟩ :: tr₁, tr₂, a, rfl, ⟨x, tr₁, rfl, h₁⟩, h₂⟩
    · rintro ⟨_, tr₂, a, rfl, ⟨x, tr₁, rfl, h₁⟩, h₂⟩
      exact ⟨x, _, rfl, tr₁, tr₂, a, rfl, h₁, h₂⟩

theorem after_bind {p : Txn V ε α} {k : α → Txn V ε β} {tr : List (Entry V)} {q : Txn V ε β} :
    After (p >>= k) tr q → (∃ r, After p tr r ∧ q = r.bind k) ∨
      ∃ tr₁ tr₂ a, tr = tr₁ ++ tr₂ ∧ Ends p tr₁ a ∧ After (k a) tr₂ q := by
  change After (p.bind k) tr q → _
  intro h
  induction p generalizing tr with
  | done a => exact .inr ⟨[], tr, a, rfl, rfl, h⟩
  | raise x => exact .inl ⟨raise x, after_raise.2 ⟨(after_raise.1 h).1, rfl⟩, (after_raise.1 h).2⟩
  | ask o n ih =>
    rcases after_ask.1 h with ⟨rfl, rfl⟩ | ⟨x, rest, rfl, hr⟩
    · exact .inl ⟨_, rfl, rfl⟩
    · rcases ih x hr with ⟨r, h₁, rfl⟩ | ⟨tr₁, tr₂, a, rfl, h₁, h₂⟩
      · exact .inl ⟨r, after_ask.2 (.inr ⟨x, rest, rfl, h₁⟩), rfl⟩
      · exact .inr ⟨⟨o, x⟩ :: tr₁, tr₂, a, rfl, ends_ask.2 ⟨x, tr₁, rfl, h₁⟩, h₂⟩

theorem Ends.after_bind {p : Txn V ε α} {k : α → Txn V ε β} {tr₁ tr₂ : List (Entry V)} {a : α} {q : Txn V ε β}
    (h : Ends p tr₁ a) (hq : After (k a) tr₂ q) : After (p >>= k) (tr₁ ++ tr₂) q := by
  induction tr₁ generalizing p with
  | nil =>
    cases h
    exact hq
  | cons e tr₁ ih =>
    obtain ⟨r, hf, hr⟩ := h
    cases hf with
    | ask o n x => exact ⟨_, .ask o _ x, ih hr⟩

theorem Ends.then {p : Txn V ε α} {tr : List (Entry V)} {a : α} (h : Ends p tr a) (k : α → Txn V ε β) :
    After (p >>= k) tr (k a) := by
  have hafter : After (p >>= k) (tr ++ []) (k a) := h.after_bind rfl
  rwa [List.append_nil] at hafter

theorem ends_onRaise {p : Txn V ε α} {c : Txn V ε Unit} {tr : List (Entry V)} {a : α} :
    Ends (p.onRaise c) tr a ↔ Ends p tr a := by
  induction p generalizing tr with
  | done b => rfl
  | raise x =>
    simp only [onRaise, ends_raise, iff_false]
    intro h
    obtain ⟨_, _, _, _, _, h⟩ := ends_bind.1 h
    exact ends_raise h
  | ask o n ih => simp only [onRaise, ends_ask, ih]

/-! ## Unfinished runs -/

/-- Every trace of `p`, finished or not, satisfies `R`. -/
def Along (p : Txn V ε α) (R : List (Entry V) → Prop) : Prop := ∀ tr q, After p tr q → R tr

theorem bind_ask {o : Op V} {n : o.Answer → Txn V ε α} {k : α → Txn V ε β} :
    (ask o n >>= k) = ask o fun x => n x >>= k := rfl

theorem bind_done_left {a : α} {k : α → Txn V ε β} : (done a >>= k : Txn V ε β) = k a := rfl

section Along

variable {R : List (Entry V) → Prop}

theorem along_done {a : α} : Along (done a : Txn V ε α) R ↔ R [] := by
  simp only [Along, after_done]
  exact ⟨fun h => h [] _ ⟨rfl, rfl⟩, fun h tr q hq => hq.1 ▸ h⟩

theorem along_pure {a : α} : Along (pure a : Txn V ε α) R ↔ R [] := along_done

theorem along_ask {o : Op V} {n : o.Answer → Txn V ε α} :
    Along (ask o n) R ↔ R [] ∧ ∀ x, Along (n x) fun tr => R (⟨o, x⟩ :: tr) := by
  constructor
  · intro h
    exact ⟨h [] _ rfl, fun x tr q hq => h _ q (after_ask.2 (.inr ⟨x, tr, rfl, hq⟩))⟩
  · rintro ⟨hnil, hask⟩ tr q hq
    rcases after_ask.1 hq with ⟨rfl, _⟩ | ⟨x, rest, rfl, hr⟩
    · exact hnil
    · exact hask x rest q hr

end Along

/-! ## What a program may ask -/

/-- Every request that the program can ever make satisfies `P`. -/
def Asks (P : Op V → Prop) : Txn V ε α → Prop
  | done _ => True
  | raise _ => True
  | ask o n => P o ∧ ∀ x, (n x).Asks P

section Asks

variable {P : Op V → Prop}

@[simp] theorem asks_pure {a : α} : (pure a : Txn V ε α).Asks P := trivial
@[simp] theorem asks_raise {x : ε} : (raise x : Txn V ε α).Asks P := trivial
@[simp] theorem asks_now : (now : Txn V ε Int).Asks P ↔ P .clock := by simp [now, Asks]
@[simp] theorem asks_newId : (newId : Txn V ε Nat).Asks P ↔ P .fresh := by simp [newId, Asks]
@[simp] theorem asks_look {g : G} : (look g : Txn V ε (V g)).Asks P ↔ P (.look g) := by simp [look, Asks]
@[simp] theorem asks_snapshot : (snapshot : Txn V ε ((g : G) → V g)).Asks P ↔ P .snapshot := by simp [snapshot, Asks]
@[simp] theorem asks_lock {m : Mode} {g : G} : (lock m g : Txn V ε (V g)).Asks P ↔ P (.lock m g) := by
  simp [lock, Asks]
@[simp] theorem asks_write {g : G} {f : V g → V g} : (write g f : Txn V ε Unit).Asks P ↔ P (.write g f) := by
  simp [write, Asks]
@[simp] theorem asks_act {g : G} {f : V g → V g} : (act g f : Txn V ε Unit).Asks P ↔ P (.act g f) := by
  simp [act, Asks]

@[simp] theorem asks_require {c : Prop} [Decidable c] {x : ε} : (require c x : Txn V ε Unit).Asks P := by
  unfold require
  split <;> trivial

@[simp] theorem asks_expect {o : Option α} {x : ε} : (expect o x : Txn V ε α).Asks P := by
  cases o <;> trivial

@[simp] theorem asks_ofExcept {r : Except ε α} : (ofExcept r : Txn V ε α).Asks P := by
  cases r <;> trivial

theorem Asks.bind {p : Txn V ε α} {k : α → Txn V ε β} (h : p.Asks P) (hk : ∀ a, (k a).Asks P) : (p >>= k).Asks P := by
  change (p.bind k).Asks P
  induction p with
  | done a => exact hk a
  | raise x => trivial
  | ask o n ih => exact ⟨h.1, fun x => ih x (h.2 x)⟩

theorem Asks.mono {p : Txn V ε α} {P' : Op V → Prop} (h : p.Asks P) (hP : ∀ o, P o → P' o) : p.Asks P' := by
  induction p with
  | done a => trivial
  | raise x => trivial
  | ask o n ih => exact ⟨hP o h.1, fun x => ih x (h.2 x)⟩

theorem Asks.ite {c : Prop} [Decidable c] {p q : Txn V ε α} (h : p.Asks P) (h' : q.Asks P) :
    (if c then p else q).Asks P := by
  split
  · exact h
  · exact h'

theorem Asks.onRaise {p : Txn V ε α} {c : Txn V ε Unit} (h : p.Asks P) (hc : c.Asks P) : (p.onRaise c).Asks P := by
  induction p with
  | done a => trivial
  | raise x => exact hc.bind fun _ => trivial
  | ask o n ih => exact ⟨h.1, fun x => ih x (h.2 x)⟩

theorem asks_settle {p : Txn V ε α} {os : List (Op V)} (h : p.Asks P) (hos : ∀ o ∈ os, P o) : (settle os p).Asks P := by
  induction os with
  | nil => exact h
  | cons o os ih =>
    have hrest := ih fun o ho => hos o (List.mem_cons_of_mem _ ho)
    cases o with
    | keep m g v => exact ⟨hos _ List.mem_cons_self, fun _ => hrest⟩
    | write g f => exact ⟨hos _ List.mem_cons_self, fun _ => hrest⟩
    | _ => exact hrest

theorem asks_savepointFrom {p : Txn V ε α} {os : List (Op V)} (h : p.Asks P) (hos : ∀ o ∈ os, P o)
    (htry : ∀ m g, P (.lock m g) → P (.tryLock m g)) (hkeep : ∀ m g v, P (.lock m g) → P (.keep m g v))
    (hletGo : P .letGo) : (p.savepointFrom os).Asks P := by
  induction p generalizing os with
  | done a => exact asks_settle trivial hos
  | raise x => exact ⟨hletGo, fun _ => trivial⟩
  | ask o n ih =>
    have hadd : ∀ o', P o' → ∀ o'' ∈ os ++ [o'], P o'' := by
      intro o' ho' o'' ho''
      rcases List.mem_append.1 ho'' with ho'' | ho''
      · exact hos o'' ho''
      · exact List.mem_singleton.1 ho'' ▸ ho'
    cases o with
    | lock m g => exact ⟨htry m g h.1, fun v => ih v (h.2 v) (hadd _ (hkeep m g v h.1))⟩
    | keep m g v => exact ih () (h.2 ()) (hadd _ h.1)
    | write g f => exact ih () (h.2 ()) (hadd _ h.1)
    | _ => exact ⟨h.1, fun x => ih x (h.2 x) hos⟩

theorem Asks.savepoint {p : Txn V ε α} (h : p.Asks P) (htry : ∀ m g, P (.lock m g) → P (.tryLock m g))
    (hkeep : ∀ m g v, P (.lock m g) → P (.keep m g v)) (hletGo : P .letGo) : p.savepoint.Asks P :=
  asks_savepointFrom h (by simp) htry hkeep hletGo

theorem Asks.after {p q : Txn V ε α} {tr : List (Entry V)} (h : p.Asks P) (hq : After p tr q) : ∀ e ∈ tr, P e.op := by
  induction tr generalizing p with
  | nil => simp
  | cons e tr ih =>
    obtain ⟨r, hf, hr⟩ := hq
    cases hf with
    | ask o n x =>
      intro e' he'
      rcases List.mem_cons.1 he' with rfl | he'
      · exact h.1
      · exact ih (h.2 x) hr e' he'

end Asks

end Txn
end RowLocks
