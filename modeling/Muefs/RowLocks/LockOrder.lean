import Muefs.RowLocks.Watching
import Mathlib.Data.Set.Image
import Mathlib.Order.WithBot

/-!
# The order of locks

* `Turn` : when a lock may be asked for, by rank or under a lock on a guard; `MayAsk` : the rule that it makes;
* `LockOrder` : turns, with what else a transaction may ask; `Ready`, `Descends O b b' p` : a part of a transaction
  begins where it may ask for ranks up to `b`, and ends where it may ask for those up to `b'`; `Between`,
  `Between.savepoint` : with savepoints;
* `Foremost`, `Under`, `Obeys.underneath` : a transaction that has locks from before, on one name above all that it asks
  for;
* `LockOrder.Extends`, `obeys_left`, `Finishes.obeys` : programs of one side, and those that begin there,
  in a larger store.
-/

namespace RowLocks

variable {G : Type} {V : G → Type} {ε α β B : Type}

/-! ## Turns -/

/-- The lock that a request asks for. -/
def Op.wants : Op V → Option (Mode × G)
  | .lock m g | .tryLock m g => some (m, g)
  | _ => none

/-- When a lock may be asked for: by its rank, under a lock on another name, or at any time. -/
inductive Turn (G B : Type) where
  | ranked (b : B)
  | guarded (h : G)
  | apart

/-- The rank of a lock; a guarded one comes last. -/
def Turn.rank : Turn G B → WithBot B
  | .ranked b => b
  | _ => ⊥

section Order

variable (turn : Mode → G → Turn G B)

/-- The locks that are in the way of guarded ones come with a lock on the guard. -/
def Guards (locks : Set (Mode × G)) : Prop :=
  ∀ x ∈ locks, ∀ m h, ¬ m.Compatible x.1 → turn m x.2 = .guarded h → ∃ m', (m', h) ∈ locks

/-- A lock on this name that is as strong as this one. -/
def HasLock (locks : Set (Mode × G)) (m : Mode) (g : G) : Prop := (m, g) ∈ locks ∨ (.update, g) ∈ locks

/-- What is asked for comes after all that the locks are in the way of. -/
def Below [LT B] (locks : Set (Mode × G)) (b : B) : Prop :=
  ∀ x ∈ locks, ∀ m b', ¬ m.Compatible x.1 → turn m x.2 = .ranked b' → b < b'

/-- **A lock that may be asked for:** one that the transaction has, one whose turn it is, or one whose guard it has
locked for an update. -/
def MayAsk [LT B] (locks : Set (Mode × G)) (m : Mode) (g : G) : Prop :=
  match turn m g with
  | .ranked b => Guards turn locks ∧ (HasLock locks m g ∨ Below turn locks b)
  | .guarded h => Guards turn locks ∧ (HasLock locks m g ∨ (.update, h) ∈ locks)
  | .apart => True

/-- The locks are in the way of nothing up to this rank, and of guarded locks under their guard. -/
structure Ready [LT B] (locks : Set (Mode × G)) (b : B) : Prop where
  guards : Guards turn locks
  below : Below turn locks b

/-- What one more lock is in the way of ranks above `b`, or its guard is locked. -/
def Clears [LT B] (locks : Set (Mode × G)) (m : Mode) (g : G) (b : B) : Prop :=
  ∀ m', ¬ m'.Compatible m →
    match turn m' g with
    | .ranked b' => b < b'
    | .guarded h => ∃ m'', (m'', h) ∈ locks
    | .apart => True

variable {turn} [Preorder B] {locks : Set (Mode × G)} {b b' : B} {m : Mode} {g h : G}

theorem Ready.empty : Ready turn ∅ b := ⟨fun _ hx => hx.elim, fun _ hx => hx.elim⟩

theorem Ready.mono (hr : Ready turn locks b) (hle : b' ≤ b) : Ready turn locks b' where
  guards := hr.guards
  below x hx m b₁ hm hturn := lt_of_le_of_lt hle (hr.below x hx m b₁ hm hturn)

theorem Ready.mayAsk (hr : Ready turn locks b) (hturn : turn m g = .ranked b') (hle : b' ≤ b) :
    MayAsk turn locks m g := by
  unfold MayAsk
  rw [hturn]
  exact ⟨hr.guards, .inr (hr.mono hle).below⟩

theorem Ready.mayAsk_guarded (hr : Ready turn locks b) (hturn : turn m g = .guarded h) (hheld : (.update, h) ∈ locks) :
    MayAsk turn locks m g := by
  unfold MayAsk
  rw [hturn]
  exact ⟨hr.guards, .inr hheld⟩

theorem Ready.mayAsk_again (hr : Ready turn locks b) (hhas : HasLock locks m g) : MayAsk turn locks m g := by
  unfold MayAsk
  cases turn m g with
  | ranked => exact ⟨hr.guards, .inl hhas⟩
  | guarded => exact ⟨hr.guards, .inl hhas⟩
  | apart => trivial

theorem mayAsk_apart (hturn : turn m g = .apart) : MayAsk turn locks m g := by
  unfold MayAsk
  rw [hturn]
  trivial

theorem Ready.insert (hr : Ready turn locks b) (hclear : Clears turn locks m g b) :
    Ready turn (insert (m, g) locks) b where
  guards x hx m' k hm hturn := by
    rcases Set.mem_insert_iff.1 hx with rfl | hx
    · have hnext := hclear m' hm
      rw [hturn] at hnext
      exact hnext.imp fun m'' hk => Set.mem_insert_of_mem _ hk
    · exact (hr.guards x hx m' k hm hturn).imp fun m'' hk => Set.mem_insert_of_mem _ hk
  below x hx m' b₁ hm hturn := by
    rcases Set.mem_insert_iff.1 hx with rfl | hx
    · have hnext := hclear m' hm
      rwa [hturn] at hnext
    · exact hr.below x hx m' b₁ hm hturn

end Order

/-! ## Programs -/

/-- The turns of locks, which changes a transaction makes, and what is known of the values that it reads. -/
structure LockOrder (V : G → Type) (B : Type) where
  turn : Mode → G → Turn G B
  changes : Op V → Prop
  known : (g : G) → V g → Prop

namespace LockOrder

variable (O : LockOrder V B)

def rules [LT B] : Rules V := ⟨MayAsk O.turn, O.changes, O.known⟩

/-- A request that no lock of the order stands in the way of. -/
def Easy : Op V → Prop
  | .lock _ g => ∀ m, O.turn m g = .apart
  | .tryLock _ _ | .keep _ _ _ | .letGo => False
  | o => O.changes o

end LockOrder

namespace Txn

variable {O : LockOrder V B} [Preorder B] {b b' b'' b₁ b₁' : B}

/-- A part without savepoints, between transactions that may ask for ranks up to `b` and up to `b'`. -/
structure Descends (O : LockOrder V B) (b b' : B) (p : Txn V ε α) : Prop where
  run : ∀ locks, Ready O.turn locks b →
    Obeys O.rules.straight locks p fun locks' _ => Ready O.turn locks' b' ∧ locks ⊆ locks'

theorem Descends.pure {a : α} (hle : b' ≤ b) : Descends O b b' (pure a : Txn V ε α) :=
  ⟨fun _ hready => ⟨hready.mono hle, subset_rfl⟩⟩

theorem Descends.raise {x : ε} : Descends O b b' (raise x : Txn V ε α) := ⟨fun _ _ => trivial⟩

theorem Descends.bind {p : Txn V ε α} {k : α → Txn V ε β} (h : Descends O b b' p) (hk : ∀ a, Descends O b' b'' (k a)) :
    Descends O b b'' (p >>= k) := by
  refine ⟨fun locks hready => ?_⟩
  rw [obeys_bind]
  refine (h.run locks hready).mono ?_
  rintro locks' a ⟨hready', hmore⟩
  exact ((hk a).run locks' hready').mono fun _ _ hnext => ⟨hnext.1, hmore.trans hnext.2⟩

theorem Descends.mono {p : Txn V ε α} (h : Descends O b b' p) (hb : b ≤ b₁) (hb' : b₁' ≤ b') : Descends O b₁ b₁' p :=
  ⟨fun locks hready => (h.run locks (hready.mono hb)).mono fun _ _ hnext => ⟨hnext.1.mono hb', hnext.2⟩⟩

theorem Descends.ite {c : Prop} [Decidable c] {p q : Txn V ε α} (h : Descends O b b' p) (h' : Descends O b b' q) :
    Descends O b b' (if c then p else q) := by
  split
  · exact h
  · exact h'

theorem Descends.onRaise {p : Txn V ε α} {c : Txn V ε Unit} (h : Descends O b b' p) (hc : ∀ locks,
    Obeys O.rules.straight locks c fun _ _ => True) : Descends O b b' (p.onRaise c) :=
  ⟨fun locks hready => (h.run locks hready).onRaise hc⟩

theorem Descends.lock {m : Mode} {g : G} (hturn : O.turn m g = .ranked b₁) (hle : b₁ ≤ b) (hle' : b' ≤ b)
    (hclear : ∀ locks, Clears O.turn locks m g b') : Descends O b b' (lock m g : Txn V ε (V g)) := ⟨fun _ hready =>
  ⟨hready.mayAsk hturn hle, fun _ _ => ⟨(hready.mono hle').insert (hclear _), Set.subset_insert _ _⟩⟩⟩

/-- **Locks apart from the order keep what no such lock changes.** -/
theorem Obeys.of_easy {p : Txn V ε α} {R : Set (Mode × G) → Prop} {locks : Set (Mode × G)} (h : p.Asks O.Easy)
    (hR : ∀ locks m g, R locks → (∀ m', O.turn m' g = .apart) → R (insert (m, g) locks)) (hlocks : R locks) :
    Obeys O.rules.straight locks p fun locks' _ => R locks' := by
  induction p generalizing locks with
  | done a => exact hlocks
  | raise x => trivial
  | ask o n ih =>
    obtain ⟨hop, hrest⟩ := h
    cases o with
    | lock m g => exact ⟨mayAsk_apart (hop m), fun v _ => ih v (hrest v) (hR locks m g hlocks hop)⟩
    | tryLock | keep | letGo => exact hop.elim
    | _ => exact ⟨hop, fun x _ => ih x (hrest x) hlocks⟩

theorem Descends.of_easy {p : Txn V ε α} (h : p.Asks O.Easy) (hle : b' ≤ b) : Descends O b b' p := by
  refine Descends.mono ⟨fun locks hready => ?_⟩ le_rfl hle
  refine Obeys.of_easy h (fun locks₁ m g h₁ hapart => ?_) ⟨hready, subset_rfl⟩
  refine ⟨h₁.1.insert fun m' _ => ?_, h₁.2.trans (Set.subset_insert _ _)⟩
  rw [hapart m']
  trivial

/-- No savepoint is open, the locks let the transaction ask for ranks up to `b`, and these are among them. -/
def Between (O : LockOrder V B) (b : B) (has : Set (Mode × G)) (l : Locks G) : Prop :=
  ∃ locks, l.Last locks ∧ Ready O.turn locks b ∧ has ⊆ locks

variable {has : Set (Mode × G)} {l : Locks G}

theorem Between.start : Between O b ∅ (⟨∅, ∅⟩ : Locks G) := ⟨∅, ⟨rfl, Set.empty_subset _⟩, .empty, Set.empty_subset _⟩

theorem Between.mono (hl : Between O b has l) (hle : b' ≤ b) : Between O b' has l := by
  obtain ⟨locks, hlast, hready, hhas⟩ := hl
  exact ⟨locks, hlast, hready.mono hle, hhas⟩

theorem Between.straight {p : Txn V ε α} {has' : Set (Mode × G)} {Q : α → Prop} (hl : Between O b has l)
    (h : ∀ locks, Ready O.turn locks b → has ⊆ locks → Obeys O.rules.straight locks p fun locks' a =>
      Ready O.turn locks' b' ∧ has' ⊆ locks' ∧ Q a) :
    Obeys O.rules.monitor l p fun l' a => Between O b' has' l' ∧ Q a := by
  obtain ⟨locks, hlast, hready, hhas⟩ := hl
  refine ((h locks hready hhas).outer hlast).mono ?_
  rintro l' a ⟨locks', hlast', hready', hhas', hQ⟩
  exact ⟨⟨locks', hlast', hready', hhas'⟩, hQ⟩

/-- **A savepoint.** Where it raises, its locks are given back. -/
theorem Between.savepoint {p : Txn V ε α} (hl : Between O b has l) (hle : b' ≤ b)
    (h : ∀ locks, Ready O.turn locks b → has ⊆ locks → Obeys O.rules.straight locks p fun locks' _ =>
      Ready O.turn locks' b' ∧ locks ⊆ locks') :
    Obeys O.rules.monitor l p.savepoint fun l' _ => Between O b' has l' := by
  obtain ⟨locks, hlast, hready, hhas⟩ := hl
  refine ((h locks hready hhas).savepoint hlast).mono ?_
  intro l' r hend
  cases r with
  | error x => exact ⟨locks, hend, hready.mono hle, hhas⟩
  | ok a =>
    obtain ⟨locks', hlast', hready', hmore⟩ := hend
    exact ⟨locks', hlast', hready', hhas.trans hmore⟩

theorem Descends.between {p : Txn V ε α} (h : Descends O b b' p) (hl : Between O b has l) :
    Obeys O.rules.monitor l p fun l' _ => Between O b' has l' := by
  refine Obeys.mono (hl.straight (Q := fun _ => True) fun locks hready hhas => ?_) fun _ _ hnext => hnext.1
  exact (h.run locks hready).mono fun _ _ hnext => ⟨hnext.1, hhas.trans hnext.2, trivial⟩

theorem Descends.obeys {p : Txn V ε α} (h : Descends O b b' p) : Obeys O.rules.monitor ⟨∅, ∅⟩ p fun _ _ => True :=
  (h.between .start).mono fun _ _ _ => trivial

end Txn

/-! ## Locks from before -/

section Foremost

/-- Locks that a transaction may have from before: on one name, then for an update too, and apart from the order. -/
structure Foremost (turn : Mode → G → Turn G B) (g : G) (early : Set (Mode × G)) : Prop where
  ranked : ∀ m, ∃ b, turn m g = .ranked b
  own : ∀ x ∈ early, (∀ m, turn m x.2 = .apart) ∨ x.2 = g ∧ (.update, g) ∈ early

/-- A request for no lock but this one and those of lower ranks. -/
def Under [LT B] (turn : Mode → G → Turn G B) (g : G) (o : Op V) : Prop :=
  ∀ m g', o.wants = some (m, g') → g' = g ∨ ∀ m' b b', turn m g' = .ranked b → turn m' g = .ranked b' → b < b'

variable {turn : Mode → G → Turn G B} {g g' : G} {early locks : Set (Mode × G)} {m : Mode}

theorem Foremost.insert_apart (h : Foremost turn g early) (hapart : ∀ m, turn m g' = .apart) :
    Foremost turn g (insert (m, g') early) := by
  refine ⟨h.ranked, fun x hx => ?_⟩
  rcases Set.mem_insert_iff.1 hx with rfl | hx
  · exact .inl hapart
  · exact (h.own x hx).imp_right (And.imp_right (Set.mem_insert_of_mem _))

theorem Foremost.insert (h : Foremost turn g early) : Foremost turn g (insert (.update, g) early) := by
  refine ⟨h.ranked, fun x hx => ?_⟩
  rcases Set.mem_insert_iff.1 hx with rfl | hx
  · exact .inr ⟨rfl, Set.mem_insert _ _⟩
  · exact (h.own x hx).imp_right (And.imp_right (Set.mem_insert_of_mem _))

theorem Foremost.guards (h : Foremost turn g early) (hlocks : Guards turn locks) : Guards turn (early ∪ locks) := by
  rintro x (hx | hx) m k hm hturn
  · rcases h.own x hx with hapart | ⟨heq, _⟩
    · rw [hapart m] at hturn
      cases hturn
    · obtain ⟨b, hb⟩ := h.ranked m
      rw [heq, hb] at hturn
      cases hturn
  · exact (hlocks x hx m k hm hturn).imp fun m' hk => .inr hk

theorem Foremost.mayAsk [LT B] (h : Foremost turn g early) (hask : MayAsk turn locks m g')
    (hunder : (.update, g) ∈ early →
      g' = g ∨ ∀ m' b b', turn m g' = .ranked b → turn m' g = .ranked b' → b < b') :
    MayAsk turn (early ∪ locks) m g' := by
  have hhas : HasLock locks m g' → HasLock (early ∪ locks) m g' := Or.imp .inr .inr
  unfold MayAsk at hask ⊢
  cases hturn : turn m g' with
  | apart => trivial
  | guarded k =>
    rw [hturn] at hask
    exact ⟨h.guards hask.1, hask.2.imp hhas .inr⟩
  | ranked b =>
    rw [hturn] at hask
    refine ⟨h.guards hask.1, ?_⟩
    rcases hask.2 with hheld | hbelow
    · exact .inl (hhas hheld)
    · by_cases hown : g' = g ∧ (.update, g) ∈ early
      · exact .inl (.inr (.inl (hown.1 ▸ hown.2)))
      · refine .inr ?_
        rintro x (hx | hx) m' b' hm hb'
        · rcases h.own x hx with hapart | ⟨heq, hheld⟩
          · rw [hapart m'] at hb'
            cases hb'
          · rw [heq] at hb'
            exact (hunder hheld).resolve_left (fun hg => hown ⟨hg, hheld⟩) m' b b' hturn hb'
        · exact hbelow x hx m' b' hm hb'

theorem Foremost.mayAsk_own [LT B] (h : Foremost turn g early) : MayAsk turn early m g := by
  have hempty : MayAsk turn ∅ m g := by
    unfold MayAsk
    obtain ⟨b, hb⟩ := h.ranked m
    rw [hb]
    exact ⟨fun _ hx => hx.elim, .inr fun _ hx => hx.elim⟩
  have hask := h.mayAsk hempty fun _ => .inl rfl
  rwa [Set.union_empty] at hask

/-- **A transaction with locks from before,** where it asks for nothing above them. -/
theorem Txn.Obeys.underneath {O : LockOrder V B} [Preorder B] {p : Txn V ε α} {Q : Locks G → α → Prop} {l l' : Locks G}
    (h : Foremost O.turn g early) (hp : Obeys O.rules.monitor l p Q)
    (hunder : (.update, g) ∈ early → p.Asks (Under O.turn g)) (hkept : l'.kept = early ∪ l.kept)
    (hall : l'.all = early ∪ l.all) : Obeys O.rules.monitor l' p fun _ _ => True := by
  induction p generalizing l l' with
  | done a => trivial
  | raise x => trivial
  | ask o n ih =>
    obtain ⟨hallow, hrest⟩ := hp
    have hnext : ∀ x, (.update, g) ∈ early → (n x).Asks (Under O.turn g) := fun x hheld => (hunder hheld).2 x
    have hinsert : ∀ x, insert x l'.kept = early ∪ insert x l.kept := fun x => by rw [hkept, Set.union_insert]
    have hkeep : ∀ x, insert x l'.kept ∪ l'.tried = early ∪ (insert x l.kept ∪ l.tried) := by
      intro x
      rw [Set.insert_union, Set.insert_union, Set.union_insert]
      exact congrArg (insert x) hall
    have htry : ∀ x, l'.kept ∪ insert x l'.tried = early ∪ (l.kept ∪ insert x l.tried) := by
      intro x
      rw [Set.union_insert, Set.union_insert, Set.union_insert]
      exact congrArg (insert x) hall
    have hask : ∀ m g', o.wants = some (m, g') → MayAsk O.turn l.all m g' → MayAsk O.turn l'.all m g' := by
      intro m g' hwants hold
      rw [hall]
      exact h.mayAsk hold fun hheld => (hunder hheld).1 m g' hwants
    cases o with
    | lock m g' =>
      exact ⟨hask m g' rfl hallow, fun x hx => ih x (hrest x hx) (hnext x) (hinsert _) (hkeep _)⟩
    | tryLock m g' =>
      exact ⟨hask m g' rfl hallow, fun x hx => ih x (hrest x hx) (hnext x) hkept (htry _)⟩
    | keep m g' v =>
      refine ⟨?_, fun x hx => ih x (hrest x hx) (hnext x) (hinsert _) (hkeep _)⟩
      show (m, g') ∈ l'.all
      rw [hall]
      exact .inr hallow
    | letGo =>
      refine ⟨trivial, fun x hx => ih x (hrest x hx) (hnext x) hkept ?_⟩
      show l'.kept ∪ ∅ = early ∪ (l.kept ∪ ∅)
      rw [hkept, Set.union_assoc]
    | _ => exact ⟨hallow, fun x hx => ih x (hrest x hx) (hnext x) hkept hall⟩

end Foremost

/-! ## Programs in a larger store -/

section Sides

variable {H : Type} {W : H → Type} {O : LockOrder V B} {O' : LockOrder (Side V W) B}

/-- A turn in the larger store. -/
def Turn.left (H : Type) : Turn G B → Turn (G ⊕ H) B
  | .ranked b => .ranked b
  | .guarded g => .guarded (.inl g)
  | .apart => .apart

/-- An order over both sides that says of the left one what another order says. -/
structure LockOrder.Extends (O' : LockOrder (Side V W) B) (O : LockOrder V B) : Prop where
  turn : ∀ m g, O'.turn m (.inl g) = (O.turn m g).left H
  changes : ∀ o, O.changes o → O'.changes (o.left W)
  known : ∀ g v, O'.known (.inl g) v → O.known g v

/-- The locks of the left side. -/
def onLeft (H : Type) (locks : Set (Mode × G)) : Set (Mode × (G ⊕ H)) := Set.image (Prod.map id Sum.inl) locks

theorem onLeft_insert {locks : Set (Mode × G)} {m : Mode} {g : G} :
    onLeft H (insert (m, g) locks) = insert (m, .inl g) (onLeft H locks) := Set.image_insert_eq

theorem mem_onLeft {locks : Set (Mode × G)} {m : Mode} {g : G} (h : (m, g) ∈ locks) : (m, .inl g) ∈ onLeft H locks :=
  ⟨(m, g), h, rfl⟩

variable {locks : Set (Mode × G)} {b b' b'' : B} {m : Mode} {g : G}

theorem LockOrder.Extends.guards (hx : O'.Extends O) (h : Guards O.turn locks) : Guards O'.turn (onLeft H locks) := by
  rintro _ ⟨y, hy, rfl⟩ m k hm hturn
  have hleft : (O.turn m y.2).left H = .guarded k := (hx.turn m y.2).symm.trans hturn
  cases hy₂ : O.turn m y.2 with
  | guarded k' =>
    rw [hy₂] at hleft
    cases hleft
    exact (h y hy m k' hm hy₂).imp fun _ hk => mem_onLeft hk
  | _ =>
    rw [hy₂] at hleft
    cases hleft

theorem LockOrder.Extends.below [LT B] (hx : O'.Extends O) (h : Below O.turn locks b) :
    Below O'.turn (onLeft H locks) b := by
  rintro _ ⟨y, hy, rfl⟩ m b' hm hturn
  have hleft : (O.turn m y.2).left H = .ranked b' := (hx.turn m y.2).symm.trans hturn
  cases hy₂ : O.turn m y.2 with
  | ranked c =>
    rw [hy₂] at hleft
    cases hleft
    exact h y hy m _ hm hy₂
  | _ =>
    rw [hy₂] at hleft
    cases hleft

theorem LockOrder.Extends.ready [LT B] (hx : O'.Extends O) (h : Ready O.turn locks b) :
    Ready O'.turn (onLeft H locks) b :=
  ⟨hx.guards h.guards, hx.below h.below⟩

theorem LockOrder.Extends.mayAsk [LT B] (hx : O'.Extends O) (h : MayAsk O.turn locks m g) :
    MayAsk O'.turn (onLeft H locks) m (.inl g) := by
  have hhas : HasLock locks m g → HasLock (onLeft H locks) m (.inl g) := Or.imp mem_onLeft mem_onLeft
  unfold MayAsk at h ⊢
  rw [hx.turn]
  cases hturn : O.turn m g with
  | ranked c =>
    rw [hturn] at h
    exact ⟨hx.guards h.1, h.2.imp hhas hx.below⟩
  | guarded k =>
    rw [hturn] at h
    exact ⟨hx.guards h.1, h.2.imp hhas mem_onLeft⟩
  | apart => trivial

theorem LockOrder.Extends.foremost (hx : O'.Extends O) (h : Foremost O.turn g locks) :
    Foremost O'.turn (.inl g) (onLeft H locks) := by
  constructor
  · intro m
    obtain ⟨c, hc⟩ := h.ranked m
    exact ⟨c, by rw [hx.turn, hc]; rfl⟩
  · rintro _ ⟨y, hy, rfl⟩
    rcases h.own y hy with hapart | ⟨heq, hheld⟩
    · refine .inl fun m => ?_
      show O'.turn m (.inl y.2) = .apart
      rw [hx.turn, hapart m]
      rfl
    · exact .inr ⟨congrArg Sum.inl heq, mem_onLeft hheld⟩

theorem LockOrder.Extends.reads (hx : O'.Extends O) (o : Op V) (x : (o.left W).Answer)
    (h : Entry.Reads O'.known ⟨o.left W, x⟩) : Entry.Reads O.known ⟨o, o.heard x⟩ := by
  cases o with
  | look g | lock m g | tryLock m g => exact hx.known g x h
  | snapshot => exact fun g => hx.known g _ (h (.inl g))
  | _ => trivial

/-- The locks of a transaction, in the larger store. -/
structure Locks.Left (l : Locks G) (l' : Locks (G ⊕ H)) : Prop where
  kept : l'.kept = onLeft H l.kept
  tried : l'.tried = onLeft H l.tried

theorem Locks.Left.all {l : Locks G} {l' : Locks (G ⊕ H)} (h : l.Left l') : l'.all = onLeft H l.all := by
  unfold Locks.all onLeft
  rw [h.kept, h.tried, Set.image_union]
  rfl

namespace Txn

variable [Preorder B]

/-- **A whole transaction of the left side.** -/
theorem obeys_left (hx : O'.Extends O) {p : Txn V ε α} (h : Obeys O.rules.monitor ⟨∅, ∅⟩ p fun _ _ => True) :
    Obeys O'.rules.monitor ⟨∅, ∅⟩ (p.left W) fun _ _ => True := by
  refine Obeys.mono (Obeys.left (M := O.rules.monitor) Locks.Left ?_ ?_ hx.reads h ⟨?_, ?_⟩) fun _ _ _ => trivial
  · intro l l' o hl ho
    cases o with
    | lock m g | tryLock m g =>
      show MayAsk O'.turn l'.all m (.inl g)
      rw [hl.all]
      exact hx.mayAsk ho
    | keep m g v =>
      show (m, Sum.inl g) ∈ l'.all
      rw [hl.all]
      exact mem_onLeft ho
    | letGo => trivial
    | _ => exact hx.changes _ ho
  · rintro l l' o x ⟨hkept, htried⟩
    cases o with
    | lock m g | keep m g v => exact ⟨(congrArg (insert (m, Sum.inl g)) hkept).trans onLeft_insert.symm, htried⟩
    | tryLock m g => exact ⟨hkept, (congrArg (insert (m, Sum.inl g)) htried).trans onLeft_insert.symm⟩
    | letGo => exact ⟨hkept, (Set.image_empty _).symm⟩
    | _ => exact ⟨hkept, htried⟩
  · exact (Set.image_empty _).symm
  · exact (Set.image_empty _).symm

/-- The locks are those of a left side that may ask for ranks up to `b`. -/
def OnLeft (O : LockOrder V B) (b : B) (locks' : Set (Mode × (G ⊕ H))) : Prop :=
  ∃ locks, locks' = onLeft H locks ∧ Ready O.turn locks b

/-- A part that locks names of the left side only. -/
structure Leads (O : LockOrder V B) (O' : LockOrder (Side V W) B) (b b' : B) (p : Txn (Side V W) ε α) : Prop where
  run : ∀ locks, OnLeft O b locks → Obeys O'.rules.straight locks p fun locks' _ => OnLeft O b' locks'

/-- A part that begins with locks of the left side only. -/
structure Finishes (O : LockOrder V B) (O' : LockOrder (Side V W) B) (b : B) (p : Txn (Side V W) ε α) : Prop where
  run : ∀ locks, OnLeft O b locks → Obeys O'.rules.straight locks p fun _ _ => True

/-- **A part of the left side, without savepoints.** -/
theorem Obeys.onLeft (hx : O'.Extends O) {p : Txn V ε α} {Q : Set (Mode × G) → α → Prop} {locks : Set (Mode × G)}
    {locks' : Set (Mode × (G ⊕ H))} (h : Obeys O.rules.straight locks p Q) (hlocks : locks' = RowLocks.onLeft H locks) :
    Obeys O'.rules.straight locks' (p.left W) fun locks'' a =>
      ∃ after, locks'' = RowLocks.onLeft H after ∧ Q after a := by
  refine Obeys.mono (Obeys.left (M := O.rules.straight) (fun s t => t = RowLocks.onLeft H s) ?_ ?_ hx.reads h hlocks) ?_
  · rintro locks _ o rfl ho
    cases o with
    | lock m g => exact hx.mayAsk ho
    | tryLock | keep | letGo => exact ho.elim
    | _ => exact hx.changes _ ho
  · rintro locks _ o x rfl
    cases o with
    | lock m g => exact onLeft_insert.symm
    | _ => rfl
  · exact fun _ _ hnext => hnext

theorem Descends.leads (hx : O'.Extends O) {p : Txn V ε α} (h : Descends O b b' p) : Leads O O' b b' (p.left W) := by
  constructor
  rintro _ ⟨locks, rfl, hready⟩
  refine ((h.run locks hready).onLeft hx rfl).mono ?_
  rintro _ a ⟨locks', rfl, hnext, _⟩
  exact ⟨locks', rfl, hnext⟩

theorem Leads.of_asks {p : Txn (Side V W) ε α} (h : p.Asks fun o => o.wants = none ∧ O'.Easy o) (hle : b' ≤ b) :
    Leads O O' b b' p := by
  constructor
  rintro _ ⟨locks, rfl, hready⟩
  refine (obeys_of_asks h ?_ ?_).mono fun _ _ heq => ⟨locks, heq, hready.mono hle⟩
  · rintro o ⟨hno, ho⟩
    cases o with
    | lock | tryLock => cases hno
    | keep | letGo => exact ho.elim
    | _ => exact ho
  · rintro e ⟨hno, _⟩
    obtain ⟨o, x⟩ := e
    cases o with
    | lock => cases hno
    | _ => rfl

theorem Finishes.bind {p : Txn (Side V W) ε α} {k : α → Txn (Side V W) ε β} (h : Leads O O' b b' p)
    (hk : ∀ a, Finishes O O' b' (k a)) : Finishes O O' b (p >>= k) := by
  refine ⟨fun locks hlocks => ?_⟩
  rw [obeys_bind]
  exact (h.run locks hlocks).mono fun locks' a hnext => (hk a).run locks' hnext

theorem Descends.finishes (hx : O'.Extends O) (b' : B) {p : Txn (Side V W) ε α} (h : Descends O' b b' p) :
    Finishes O O' b p := by
  constructor
  rintro _ ⟨locks, rfl, hready⟩
  exact (h.run _ (hx.ready hready)).mono fun _ _ _ => trivial

/-- **A transaction whose first locks are on the left side.** -/
theorem Finishes.obeys {p : Txn (Side V W) ε α} (h : Finishes O O' b p) :
    Obeys O'.rules.monitor ⟨∅, ∅⟩ p fun _ _ => True := by
  have hempty : OnLeft O b (∅ : Set (Mode × (G ⊕ H))) := ⟨∅, (Set.image_empty _).symm, .empty⟩
  exact ((h.run ∅ hempty).outer ⟨rfl, Set.empty_subset _⟩).mono fun _ _ _ => trivial

end Txn

end Sides

end RowLocks
