import Muefs.RowLocks.Outcomes
import Muefs.RowLocks.Side
import Mathlib.Data.Set.Insert

/-!
# Watching a transaction

* `Locks`, `held tr` : the locks that a trace has taken and not given back;
* `Monitor`, `Obeys M s p Q` : what watches the requests of a transaction, and that it allows those of `p` from the
  state `s` on; one rule for each operation, `Obeys.follow` : along a trace;
* `Rules` : what a transaction may ask beside the locks that it has; `Rules.straight` watches one without savepoints,
  and `Obeys.outer`, `Obeys.savepoint` bring it into one with savepoints, which `Rules.monitor` watches.
-/

namespace RowLocks

variable {G : Type} {V : G → Type} {ε α β σ : Type}

/-! ## The locks of a trace -/

/-- The locks of a transaction: those that last, and those that a savepoint may still give back. -/
structure Locks (G : Type) where
  kept : Set (Mode × G)
  tried : Set (Mode × G)

namespace Locks

def all (l : Locks G) : Set (Mode × G) := l.kept ∪ l.tried

/-- The locks after one more request. -/
def after (l : Locks G) : Entry V → Locks G
  | ⟨.lock m g, _⟩ | ⟨.keep m g _, _⟩ => { l with kept := insert (m, g) l.kept }
  | ⟨.tryLock m g, _⟩ => { l with tried := insert (m, g) l.tried }
  | ⟨.letGo, _⟩ => { l with tried := ∅ }
  | _ => l

end Locks

/-- The locks that a trace has taken and not given back. -/
def held (tr : List (Entry V)) : Locks G := tr.foldl Locks.after ⟨∅, ∅⟩

theorem Locks.holds_foldl (row : G → Bool) {l : Locks G} {tr : List (Entry V)} {m : Mode} {g : G}
    (h : (m, g) ∈ (tr.foldl Locks.after l).all) :
    (m, g) ∈ l.kept ∨ ((m, g) ∈ l.tried ∧ ∀ e ∈ tr, e.op ≠ .letGo) ∨ Holds row m g tr := by
  induction tr generalizing l with
  | nil => exact h.imp_right fun htried => .inl ⟨htried, by simp⟩
  | cons e tr ih =>
    have hnext := ih (l := l.after e) h
    obtain ⟨o, v⟩ := e
    cases o with
    | lock m' g' | keep m' g' u =>
      rcases hnext with hkept | ⟨htried, hno⟩ | hholds
      · rcases Set.mem_insert_iff.1 hkept with hnew | hkept
        · cases hnew
          exact .inr (.inr (.inr ⟨rfl, rfl⟩))
        · exact .inl hkept
      · exact .inr (.inl ⟨htried, by simpa using hno⟩)
      · exact .inr (.inr (.inl hholds))
    | tryLock m' g' =>
      rcases hnext with hkept | ⟨htried, hno⟩ | hholds
      · exact .inl hkept
      · rcases Set.mem_insert_iff.1 htried with hnew | htried
        · cases hnew
          exact .inr (.inr (.inr ⟨rfl, rfl, hno⟩))
        · exact .inr (.inl ⟨htried, by simpa using hno⟩)
      · exact .inr (.inr (.inl hholds))
    | letGo =>
      rcases hnext with hkept | ⟨htried, _⟩ | hholds
      · exact .inl hkept
      · exact htried.elim
      · exact .inr (.inr (.inl hholds))
    | _ =>
      rcases hnext with hkept | ⟨htried, hno⟩ | hholds
      · exact .inl hkept
      · exact .inr (.inl ⟨htried, by simpa using hno⟩)
      · exact .inr (.inr (.inl hholds))

theorem holds_of_held (row : G → Bool) {tr : List (Entry V)} {m : Mode} {g : G} (h : (m, g) ∈ (held tr).all) :
    Holds row m g tr := by
  rcases Locks.holds_foldl row h with hkept | ⟨htried, _⟩ | hholds
  · exact hkept.elim
  · exact htried.elim
  · exact hholds

/-- A lock that lasts. -/
def Entry.lasting : Entry V → Option (Mode × G)
  | ⟨.lock m g, _⟩ => some (m, g)
  | _ => none

theorem held_of_lasting {tr : List (Entry V)} {m : Mode} {g : G} (h : (m, g) ∈ tr.filterMap Entry.lasting) :
    (m, g) ∈ (held tr).all := by
  have hkeeps : ∀ (tr : List (Entry V)) (l : Locks G), (m, g) ∈ l.kept → (m, g) ∈ (tr.foldl Locks.after l).kept := by
    intro tr
    induction tr with
    | nil => exact fun l h => h
    | cons e tr ih =>
      intro l hl
      refine ih _ ?_
      obtain ⟨o, v⟩ := e
      cases o with
      | lock | keep => exact Set.mem_insert_of_mem _ hl
      | _ => exact hl
  have hfinds : ∀ (tr : List (Entry V)) (l : Locks G), (m, g) ∈ tr.filterMap Entry.lasting →
      (m, g) ∈ (tr.foldl Locks.after l).kept := by
    intro tr
    induction tr with
    | nil => simp
    | cons e tr ih =>
      intro l hl
      obtain ⟨o, v⟩ := e
      cases o with
      | lock m' g' =>
        rcases List.mem_cons.1 hl with heq | hl
        · cases heq
          exact hkeeps tr _ (Set.mem_insert _ _)
        · exact ih _ hl
      | _ => exact ih _ hl
  exact Or.inl (hfinds tr _ h)

/-! ## Watching a transaction -/

/-- What watches the requests of a transaction: its state after each of them, what it allows, and which answers there
can be. -/
structure Monitor (V : G → Type) (σ : Type) where
  after : σ → Entry V → σ
  allows : σ → Op V → Prop
  answers : Entry V → Prop

namespace Txn

/-- From the state on, every request that `p` makes is allowed, and where `p` ends `Q` holds. -/
def Obeys (M : Monitor V σ) : σ → Txn V ε α → (σ → α → Prop) → Prop
  | s, done a, Q => Q s a
  | _, raise _, _ => True
  | s, ask o n, Q => M.allows s o ∧ ∀ x, M.answers ⟨o, x⟩ → (n x).Obeys M (M.after s ⟨o, x⟩) Q

section Sequencing

variable {M : Monitor V σ} {s : σ}

@[simp] theorem obeys_pure {a : α} {Q : σ → α → Prop} : Obeys M s (pure a : Txn V ε α) Q ↔ Q s a := Iff.rfl
@[simp] theorem obeys_raise {x : ε} {Q : σ → α → Prop} : Obeys M s (raise x : Txn V ε α) Q := trivial

@[simp] theorem obeys_bind {p : Txn V ε α} {k : α → Txn V ε β} {Q : σ → β → Prop} :
    Obeys M s (p >>= k) Q ↔ Obeys M s p fun s a => Obeys M s (k a) Q := by
  change Obeys M s (p.bind k) Q ↔ _
  induction p generalizing s with
  | done a => rfl
  | raise x => rfl
  | ask o n ih => simp only [bind, Obeys, ih]

@[simp] theorem obeys_require {c : Prop} [Decidable c] {x : ε} {Q : σ → Unit → Prop} :
    Obeys M s (require c x : Txn V ε Unit) Q ↔ (c → Q s ()) := by
  unfold require
  split <;> simp_all [Obeys]

@[simp] theorem obeys_expect {o : Option α} {x : ε} {Q : σ → α → Prop} :
    Obeys M s (expect o x : Txn V ε α) Q ↔ ∀ a, o = some a → Q s a := by
  cases o <;> simp [expect, Obeys]

@[simp] theorem obeys_ofExcept {r : Except ε α} {Q : σ → α → Prop} :
    Obeys M s (ofExcept r) Q ↔ ∀ a, r = .ok a → Q s a := by
  cases r <;> simp [ofExcept, Obeys]

@[simp] theorem obeys_ite {c : Prop} [Decidable c] {p q : Txn V ε α} {Q : σ → α → Prop} :
    Obeys M s (if c then p else q) Q ↔ (c → Obeys M s p Q) ∧ (¬ c → Obeys M s q Q) := by
  split <;> simp_all

theorem Obeys.mono {p : Txn V ε α} {Q Q' : σ → α → Prop} (h : Obeys M s p Q) (hQ : ∀ s a, Q s a → Q' s a) :
    Obeys M s p Q' := by
  induction p generalizing s with
  | done a => exact hQ _ _ h
  | raise x => trivial
  | ask o n ih => exact ⟨h.1, fun x hx => ih x (h.2 x hx)⟩

theorem obeys_of_asks {P : Op V → Prop} {p : Txn V ε α} (h : p.Asks P) (hallow : ∀ o, P o → M.allows s o)
    (hafter : ∀ e : Entry V, P e.op → M.after s e = s) : Obeys M s p fun s' _ => s' = s := by
  induction p with
  | done a => rfl
  | raise x => trivial
  | ask o n ih =>
    refine ⟨hallow o h.1, fun x _ => ?_⟩
    rw [hafter ⟨o, x⟩ h.1]
    exact ih x (h.2 x)

theorem Obeys.onRaise {p : Txn V ε α} {c : Txn V ε Unit} {Q : σ → α → Prop} (h : Obeys M s p Q)
    (hc : ∀ s, Obeys M s c fun _ _ => True) : Obeys M s (p.onRaise c) Q := by
  induction p generalizing s with
  | done a => exact h
  | raise x =>
    show Obeys M s (c >>= fun _ => raise x) Q
    rw [obeys_bind]
    exact (hc s).mono fun _ _ _ => trivial
  | ask o n ih => exact ⟨h.1, fun x hx => ih x (h.2 x hx)⟩

/-- **Where a trace has led, the rest of the program obeys.** -/
theorem Obeys.follow {p q : Txn V ε α} {Q : σ → α → Prop} {tr : List (Entry V)} (h : Obeys M s p Q) (hq : After p tr q)
    (hanswers : ∀ e ∈ tr, M.answers e) : Obeys M (tr.foldl M.after s) q Q := by
  induction tr generalizing p s with
  | nil =>
    cases hq
    exact h
  | cons e tr ih =>
    obtain ⟨r, hf, hr⟩ := hq
    cases hf with
    | ask o n x =>
      have hx := hanswers _ List.mem_cons_self
      exact ih (h.2 x hx) hr fun e' he' => hanswers e' (List.mem_cons_of_mem _ he')

theorem Obeys.allowed {p q : Txn V ε α} {Q : σ → α → Prop} {tr₁ tr₂ : List (Entry V)} {e : Entry V} (h : Obeys M s p Q)
    (hq : After p (tr₁ ++ e :: tr₂) q) (hanswers : ∀ e ∈ tr₁, M.answers e) : M.allows (tr₁.foldl M.after s) e.op := by
  obtain ⟨r, h₁, r', hf, _⟩ := after_append.1 hq
  have hrest := h.follow h₁ hanswers
  cases hf with
  | ask o n x => exact hrest.1

/-- What a composition asks is allowed, where that is so of its first part, and of what follows each of its ends. -/
theorem Obeys.allowed_bind {p : Txn V ε α} {k : α → Txn V ε β} {Q : σ → α → Prop} {tr : List (Entry V)} {o : Op V}
    {n : o.Answer → Txn V ε β} (h : Obeys M s p Q) (hq : After (p >>= k) tr (ask o n))
    (hanswers : ∀ e ∈ tr, M.answers e)
    (hk : ∀ tr₁ tr₂ a, tr = tr₁ ++ tr₂ → Ends p tr₁ a → Q (tr₁.foldl M.after s) a →
      Obeys M (tr₁.foldl M.after s) (k a) fun _ _ => True) : M.allows (tr.foldl M.after s) o := by
  rcases after_bind hq with ⟨r, hr, heq⟩ | ⟨tr₁, tr₂, a, rfl, hends, ha⟩
  · have hrest := h.follow hr hanswers
    cases r with
    | done a =>
      have hnext := hk tr [] a (List.append_nil tr).symm hr hrest
      rw [show k a = ask o n from heq.symm] at hnext
      exact hnext.1
    | raise x => cases heq
    | ask o' n' =>
      cases heq
      exact hrest.1
  · have hfirst := h.follow hends fun e he => hanswers e (List.mem_append_left _ he)
    have hrest := (hk tr₁ tr₂ a rfl hends hfirst).follow ha fun e he => hanswers e (List.mem_append_right _ he)
    rw [List.foldl_append]
    exact hrest.1

end Sequencing

/-- **A program in a larger store,** under a monitor that allows there what the other one allows. -/
theorem Obeys.left {H τ : Type} {W : H → Type} {M : Monitor V σ} {M' : Monitor (Side V W) τ} (R : σ → τ → Prop)
    (hallow : ∀ s t o, R s t → M.allows s o → M'.allows t (o.left W))
    (hafter : ∀ s t o x, R s t → R (M.after s ⟨o, o.heard x⟩) (M'.after t ⟨o.left W, x⟩))
    (hanswers : ∀ (o : Op V) x, M'.answers ⟨o.left W, x⟩ → M.answers ⟨o, o.heard x⟩)
    {p : Txn V ε α} {Q : σ → α → Prop} {s : σ} {t : τ} (h : Obeys M s p Q) (hR : R s t) :
    Obeys M' t (p.left W) fun t' a => ∃ s', R s' t' ∧ Q s' a := by
  induction p generalizing s t with
  | done a => exact ⟨s, hR, h⟩
  | raise x => trivial
  | ask o n ih =>
    refine ⟨hallow s t o hR h.1, fun x hx => ?_⟩
    exact ih (o.heard x) (h.2 _ (hanswers o x hx)) (hafter s t o x hR)

end Txn

/-! ## Rules for locks -/

/-- What a transaction may ask: which locks beside those that it has, and which changes; and what is known of the values
that it reads. -/
structure Rules (V : G → Type) where
  locks : Set (Mode × G) → Mode → G → Prop
  changes : Op V → Prop
  known : (g : G) → V g → Prop

namespace Rules

variable (U : Rules V)

/-- A transaction without savepoints. -/
def straight : Monitor V (Set (Mode × G)) where
  after locks
    | ⟨.lock m g, _⟩ => insert (m, g) locks
    | _ => locks
  allows locks
    | .lock m g => U.locks locks m g
    | .tryLock _ _ | .keep _ _ _ | .letGo => False
    | o => U.changes o
  answers := Entry.Reads U.known

/-- A transaction with savepoints. -/
def monitor : Monitor V (Locks G) where
  after := Locks.after
  allows l
    | .lock m g | .tryLock m g => U.locks l.all m g
    | .keep m g _ => (m, g) ∈ l.all
    | .letGo => True
    | o => U.changes o
  answers := Entry.Reads U.known

end Rules

/-- No savepoint is open: these locks last, and none is only tried. -/
structure Locks.Last (l : Locks G) (locks : Set (Mode × G)) : Prop where
  kept : l.kept = locks
  tried : l.tried ⊆ locks

theorem Locks.Last.all {l : Locks G} {locks : Set (Mode × G)} (h : l.Last locks) : l.all = locks := by
  unfold Locks.all
  rw [h.kept, Set.union_eq_left]
  exact h.tried

namespace Txn

variable {U : Rules V} {locks : Set (Mode × G)} {l : Locks G}

@[simp] theorem obeys_lock {m : Mode} {g : G} {Q : Set (Mode × G) → V g → Prop} :
    Obeys U.straight locks (lock m g : Txn V ε (V g)) Q ↔
      U.locks locks m g ∧ ∀ v, U.known g v → Q (insert (m, g) locks) v := Iff.rfl
@[simp] theorem obeys_look {g : G} {Q : Set (Mode × G) → V g → Prop} :
    Obeys U.straight locks (look g : Txn V ε (V g)) Q ↔ U.changes (.look g) ∧ ∀ v, U.known g v → Q locks v := Iff.rfl
@[simp] theorem obeys_write {g : G} {f : V g → V g} {Q : Set (Mode × G) → Unit → Prop} :
    Obeys U.straight locks (write g f : Txn V ε Unit) Q ↔ U.changes (.write g f) ∧ Q locks () :=
  ⟨fun h => ⟨h.1, h.2 () trivial⟩, fun h => ⟨h.1, fun _ _ => h.2⟩⟩
@[simp] theorem obeys_act {g : G} {f : V g → V g} {Q : Set (Mode × G) → Unit → Prop} :
    Obeys U.straight locks (act g f : Txn V ε Unit) Q ↔ U.changes (.act g f) ∧ Q locks () :=
  ⟨fun h => ⟨h.1, h.2 () trivial⟩, fun h => ⟨h.1, fun _ _ => h.2⟩⟩

/-- **A part without savepoints, in a transaction with savepoints.** -/
theorem Obeys.outer {p : Txn V ε α} {Q : Set (Mode × G) → α → Prop} (h : Obeys U.straight locks p Q)
    (hl : l.Last locks) :
    Obeys U.monitor l p fun l' a => ∃ locks', l'.Last locks' ∧ Q locks' a := by
  induction p generalizing locks l with
  | done a => exact ⟨locks, hl, h⟩
  | raise x => trivial
  | ask o n ih =>
    obtain ⟨hallow, hrest⟩ := h
    cases o with
    | lock m g =>
      refine ⟨?_, fun v hv => ih v (hrest v hv) ⟨?_, ?_⟩⟩
      · show U.locks l.all m g
        rw [hl.all]
        exact hallow
      · exact congrArg (insert (m, g)) hl.kept
      · exact fun x hx => Set.mem_insert_of_mem _ (hl.tried hx)
    | tryLock | keep | letGo => exact hallow.elim
    | _ => exact ⟨hallow, fun x hx => ih x (hrest x hx) hl⟩

theorem Obeys.changed {p q : Txn V ε α} {Q : Locks G → α → Prop} {tr : List (Entry V)}
    (h : p.Obeys U.monitor l Q) (hq : p.After tr q) (hreads : ∀ e ∈ tr, e.Reads U.known) {g : G} {f : V g → V g}
    (hf : (⟨.write g f, ()⟩ : Entry V) ∈ tr) : U.changes (.write g f) := by
  obtain ⟨tr₁, tr₂, rfl⟩ := List.append_of_mem hf
  exact h.allowed hq fun e he => hreads e (List.mem_append_left _ he)

/-! ## Savepoints -/

/-- The locks that a savepoint has put off. -/
def toKeep : List (Op V) → Set (Mode × G)
  | [] => ∅
  | .keep m g _ :: os => insert (m, g) (toKeep os)
  | _ :: os => toKeep os

theorem toKeep_append (os os' : List (Op V)) : toKeep (os ++ os') = toKeep os ∪ toKeep os' := by
  induction os with
  | nil => exact (Set.empty_union _).symm
  | cons o os ih =>
    cases o with
    | keep m g v =>
      show insert (m, g) (toKeep (os ++ os')) = insert (m, g) (toKeep os) ∪ toKeep os'
      rw [ih, Set.insert_union]
    | _ => exact ih

theorem obeys_settle {os : List (Op V)} {a : α} (hkeep : toKeep os ⊆ l.all)
    (hwrite : ∀ g f, .write g f ∈ os → U.changes (.write g f)) :
    Obeys U.monitor l (settle os (done a) : Txn V ε α) fun l' b =>
      b = a ∧ l'.kept = l.kept ∪ toKeep os ∧ l'.tried = l.tried := by
  induction os generalizing l with
  | nil => exact ⟨rfl, (Set.union_empty _).symm, rfl⟩
  | cons o os ih =>
    have hrest : ∀ g f, .write g f ∈ os → U.changes (.write g f) := fun g f hf =>
      hwrite g f (List.mem_cons_of_mem _ hf)
    cases o with
    | keep m g v =>
      have hmore : l.all ⊆ (l.after ⟨.keep m g v, ()⟩).all := Set.union_subset_union_left _ (Set.subset_insert _ _)
      refine ⟨hkeep (Set.mem_insert _ _), fun _ _ => ?_⟩
      refine (ih (((Set.subset_insert _ _).trans hkeep).trans hmore) hrest).mono ?_
      rintro l' b ⟨hb, hkept, htried⟩
      refine ⟨hb, hkept.trans ?_, htried⟩
      show insert (m, g) l.kept ∪ toKeep os = l.kept ∪ insert (m, g) (toKeep os)
      rw [Set.insert_union, Set.union_insert]
    | write g f => exact ⟨hwrite g f List.mem_cons_self, fun _ _ => ih hkeep hrest⟩
    | _ => exact ih hkeep hrest

/-- Where a savepoint ends: with the locks that it took, or with those from before it. -/
def AtEnd (locks : Set (Mode × G)) (Q : Set (Mode × G) → α → Prop) (l : Locks G) : Except ε α → Prop
  | .ok a => ∃ locks', l.Last locks' ∧ Q locks' a
  | .error _ => l.Last locks

theorem Obeys.savepointFrom {p : Txn V ε α} {Q : Set (Mode × G) → α → Prop} {locks₀ : Set (Mode × G)} {os : List (Op V)}
    (h : Obeys U.straight locks p Q) (hwrite : ∀ g f, .write g f ∈ os → U.changes (.write g f))
    (hkept : l.kept = locks₀)
    (hall : l.all = locks) (hos : locks₀ ∪ toKeep os = locks) :
    Obeys U.monitor l (p.savepointFrom os) (AtEnd locks₀ Q) := by
  induction p generalizing locks l os with
  | done a =>
    refine (obeys_settle (by rw [hall, ← hos]; exact Set.subset_union_right) hwrite).mono ?_
    rintro l' b ⟨rfl, hkept', htried⟩
    refine ⟨locks, ⟨?_, ?_⟩, h⟩
    · rw [hkept', hkept, hos]
    · rw [htried, ← hall]
      exact Set.subset_union_right
  | raise x => exact ⟨trivial, fun _ _ => ⟨hkept, Set.empty_subset _⟩⟩
  | ask o n ih =>
    obtain ⟨hallow, hrest⟩ := h
    cases o with
    | lock m g =>
      refine ⟨?_, fun v hv => ih v (hrest v hv) (by simpa using hwrite) hkept ?_ ?_⟩
      · show U.locks l.all m g
        rw [hall]
        exact hallow
      · show l.kept ∪ insert (m, g) l.tried = insert (m, g) locks
        rw [Set.union_insert, ← hall]
        rfl
      · show locks₀ ∪ toKeep (os ++ [.keep m g v]) = insert (m, g) locks
        rw [toKeep_append, ← Set.union_assoc, hos]
        show locks ∪ insert (m, g) ∅ = insert (m, g) locks
        rw [Set.union_insert, Set.union_empty]
    | write g f =>
      have hnext : ∀ g' f', .write g' f' ∈ os ++ [Op.write g f] → U.changes (.write g' f') := by
        intro g' f' hf'
        rcases List.mem_append.1 hf' with hf' | hf'
        · exact hwrite g' f' hf'
        · rw [List.mem_singleton.1 hf']
          exact hallow
      refine ih () (hrest () trivial) hnext hkept hall ?_
      rw [toKeep_append, ← Set.union_assoc, hos]
      exact Set.union_empty _
    | tryLock | keep | letGo => exact hallow.elim
    | _ => exact ⟨hallow, fun x hx => ih x (hrest x hx) hwrite hkept hall hos⟩

/-- **A nested transaction ends with the locks that it took, or with those from before it.** -/
theorem Obeys.savepoint {p : Txn V ε α} {Q : Set (Mode × G) → α → Prop} (h : Obeys U.straight locks p Q)
    (hl : l.Last locks) : Obeys U.monitor l p.savepoint (AtEnd locks Q) :=
  h.savepointFrom (by simp) hl.kept hl.all (Set.union_empty _)

end Txn

end RowLocks
