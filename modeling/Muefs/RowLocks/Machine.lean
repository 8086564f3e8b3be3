import Muefs.RowLocks.Logic
import Mathlib.Logic.Relation

/-!
# Any number of transactions on one store

* `System` : the program of each request, and which names are lockable rows;
* `World` : the store, the number generator and every session that ever began; `Step` : one step of one session;
* `Steps.guarded` : along every run sessions follow their programs, locks exclude each other, and every lock of a
  running session is current (`Guarded`);
* `Commits` : a session about to commit, `Commits.meets` : and what its program meets.
-/

namespace RowLocks

variable {G : Type} {V : G → Type} {ε α ι : Type}

/-- The program of each request, and which names are rows: those are written under their lock. -/
structure System (V : G → Type) (ε α ι : Type) where
  program : ι → Txn V ε α
  row : G → Bool

/-- How far a session is. -/
inductive Status (ε α : Type) where
  | running
  | committed (a : α)
  | failed (e : ε)
  | died

/-- One transaction of one request. -/
structure Session (V : G → Type) (ε α ι : Type) where
  request : ι
  trace : List (Entry V)
  status : Status ε α

/-- The store, the next number to hand out, and the sessions. -/
structure World (V : G → Type) (ε α ι : Type) where
  db : Db V
  next : Nat
  sessions : Nat → Option (Session V ε α ι)

/-- The trace holds the lock `m` on `g`. A written row is held with `update`; a tried lock lasts until a `letGo`. -/
def Holds (row : G → Bool) (m : Mode) (g : G) : List (Entry V) → Prop
  | [] => False
  | e :: tr => Holds row m g tr ∨
    match e.op with
    | .lock m' g' | .keep m' g' _ => m' = m ∧ g' = g
    | .tryLock m' g' => m' = m ∧ g' = g ∧ ∀ e' ∈ tr, e'.op ≠ .letGo
    | .write g' _ => row g' ∧ m = .update ∧ g' = g
    | _ => False

/-- Locks and writes of rows, changes of anything else. -/
def Entry.Proper (row : G → Bool) (e : Entry V) : Prop :=
  match e.op with
  | .lock _ g | .keep _ g _ | .tryLock _ g => row g = true
  | .act g _ => row g = false
  | _ => True

/-! ## Locks of a trace -/

theorem current_iff {db : Db V} {tr : List (Entry V)} :
    Current db tr ↔ ∀ e ∈ tr, Current db [e] := by
  induction tr with
  | nil => simp [Current]
  | cons e tr ih =>
    rw [show e :: tr = [e] ++ tr from rfl, current_append, ih]
    simp

theorem holds_of_lock {row : G → Bool} {m : Mode} {g : G} {v : V g} {tr : List (Entry V)}
    (h : (⟨.lock m g, v⟩ : Entry V) ∈ tr) : Holds row m g tr := by
  induction tr with
  | nil => exact absurd h (by simp)
  | cons e tr ih =>
    rcases List.mem_cons.1 h with rfl | h
    · exact .inr ⟨rfl, rfl⟩
    · exact .inl (ih h)

theorem holds_of_keep {row : G → Bool} {m : Mode} {g : G} {v : V g} {tr : List (Entry V)}
    (h : (⟨.keep m g v, ()⟩ : Entry V) ∈ tr) : Holds row m g tr := by
  induction tr with
  | nil => exact absurd h (by simp)
  | cons e tr ih =>
    rcases List.mem_cons.1 h with rfl | h
    · exact .inr ⟨rfl, rfl⟩
    · exact .inl (ih h)

theorem holds_of_write {row : G → Bool} {g : G} {f : V g → V g} {tr : List (Entry V)} (hg : row g = true)
    (h : (⟨.write g f, ()⟩ : Entry V) ∈ tr) : Holds row .update g tr := by
  induction tr with
  | nil => exact absurd h (by simp)
  | cons e tr ih =>
    rcases List.mem_cons.1 h with rfl | h
    · exact .inr ⟨hg, rfl, rfl⟩
    · exact .inl (ih h)

theorem holds_concat {row : G → Bool} {m : Mode} {g : G} {tr : List (Entry V)} {e : Entry V}
    (h : Holds row m g (tr ++ [e])) : Holds row m g tr ∨ Holds row m g [e] := by
  induction tr with
  | nil => exact .inr h
  | cons e' tr ih =>
    rcases h with h | h
    · rcases ih h with h | h
      · exact .inl (.inl h)
      · exact .inr h
    · refine .inl (.inr ?_)
      revert h
      cases e'.op <;> simp only [imp_self]
      rintro ⟨rfl, rfl, h⟩
      exact ⟨rfl, rfl, fun e'' he => h e'' (List.mem_append_left _ he)⟩

/-! ## Worlds and steps -/

namespace World

variable (sys : System V ε α ι)

/-- No other running session holds a lock on `g` that excludes `m`. -/
def Free (w : World V ε α ι) (sid : Nat) (m : Mode) (g : G) : Prop :=
  ∀ sid' s', sid' ≠ sid → w.sessions sid' = some s' → s'.status = .running →
    ∀ m', Holds sys.row m' g s'.trace → m.Compatible m'

/-- The database gives this answer now. -/
def Admits (w : World V ε α ι) (sid : Nat) : Entry V → Prop
  | ⟨.clock, _⟩ | ⟨.letGo, _⟩ => True
  | ⟨.fresh, n⟩ => n = w.next
  | ⟨.look g, v⟩ => v = w.db g
  | ⟨.snapshot, v⟩ => v = w.db
  | ⟨.lock m g, v⟩ | ⟨.tryLock m g, v⟩ => sys.row g = true ∧ v = w.db g ∧ w.Free sys sid m g
  | ⟨.keep m g v, _⟩ => sys.row g = true ∧ v = w.db g ∧ w.Free sys sid m g
  | ⟨.write g _, _⟩ => sys.row g = true → w.Free sys sid .update g
  | ⟨.act g _, _⟩ => sys.row g = false

variable [DecidableEq G]

/-- What a request changes before its transaction ends. -/
def fired (w : World V ε α ι) : Entry V → World V ε α ι
  | ⟨.fresh, n⟩ => { w with next := n + 1 }
  | ⟨.act g f, _⟩ => { w with db := Function.update w.db g (f (w.db g)) }
  | _ => w

/-- Replace one session. -/
def put (w : World V ε α ι) (sid : Nat) (s : Session V ε α ι) : World V ε α ι :=
  { w with sessions := Function.update w.sessions sid (some s) }

/-- A session commits. -/
def committed (w : World V ε α ι) (sid : Nat) (s : Session V ε α ι) (a : α) : World V ε α ι :=
  { w.put sid { s with status := .committed a } with db := RowLocks.commit s.trace w.db }

end World

variable [DecidableEq G] (sys : System V ε α ι)

/-- A session that has reached the end of its program. -/
structure Commits (w : World V ε α ι) (sid : Nat) (s : Session V ε α ι) (a : α) : Prop where
  found : w.sessions sid = some s
  running : s.status = .running
  ends : (sys.program s.request).Ends s.trace a

/-- One step: a request arrives, a session asks the database, ends, raises, or dies on the way. -/
inductive Step : World V ε α ι → World V ε α ι → Prop where
  | start {w} (sid : Nat) (i : ι) (hnew : w.sessions sid = none) : Step w (w.put sid ⟨i, [], .running⟩)
  | fire {w} (sid : Nat) (s : Session V ε α ι) (e : Entry V) (q : Txn V ε α)
      (hs : w.sessions sid = some s) (hrun : s.status = .running)
      (hp : (sys.program s.request).After (s.trace ++ [e]) q) (ha : w.Admits sys sid e) :
      Step w ((w.fired e).put sid { s with trace := s.trace ++ [e] })
  | commit {w} (sid : Nat) (s : Session V ε α ι) (a : α) (h : Commits sys w sid s a) :
      Step w (w.committed sid s a)
  | fail {w} (sid : Nat) (s : Session V ε α ι) (x : ε)
      (hs : w.sessions sid = some s) (hrun : s.status = .running) (hp : (sys.program s.request).Raises s.trace x) :
      Step w (w.put sid { s with status := .failed x })
  | die {w} (sid : Nat) (s : Session V ε α ι)
      (hs : w.sessions sid = some s) (hrun : s.status = .running) :
      Step w (w.put sid { s with status := .died })

abbrev Steps : World V ε α ι → World V ε α ι → Prop := Relation.ReflTransGen (Step sys)

/-! ## What holds along every run -/

/-- Where a session is in its program. -/
def OnPath (s : Session V ε α ι) : Prop :=
  match s.status with
  | .running | .died => ∃ q, (sys.program s.request).After s.trace q
  | .committed a => (sys.program s.request).Ends s.trace a
  | .failed x => (sys.program s.request).Raises s.trace x

/-- Sessions follow their programs, exclude each other and hold current values. -/
structure Guarded (w : World V ε α ι) : Prop where
  path : ∀ sid s, w.sessions sid = some s → OnPath sys s
  proper : ∀ sid s, w.sessions sid = some s → ∀ e ∈ s.trace, e.Proper sys.row
  apart : ∀ sid s m g, w.sessions sid = some s → s.status = .running → Holds sys.row m g s.trace → w.Free sys sid m g
  current : ∀ sid s, w.sessions sid = some s → s.status = .running → Current w.db s.trace
  drawn : ∀ sid s n, w.sessions sid = some s → ⟨.fresh, n⟩ ∈ s.trace → n < w.next
  distinct : ∀ sid s sid' s' n, w.sessions sid = some s → w.sessions sid' = some s' → sid' ≠ sid →
    ⟨.fresh, n⟩ ∈ s.trace → ⟨.fresh, n⟩ ∉ s'.trace

variable {sys}

theorem commit_of_not_written {tr : List (Entry V)} {db : Db V} {g : G}
    (h : ∀ f, (⟨.write g f, ()⟩ : Entry V) ∉ tr) : commit tr db g = db g := by
  induction tr generalizing db with
  | nil => rfl
  | cons e tr ih =>
    rw [commit, ih fun f hf => h f (List.mem_cons_of_mem _ hf)]
    obtain ⟨o, x⟩ := e
    cases o <;> try rfl
    case write g' f =>
      refine Function.update_of_ne ?_ _ _
      rintro rfl
      exact h f List.mem_cons_self

theorem commit_append_of_not_written {tr₁ tr₂ : List (Entry V)} {db : Db V} {g : G}
    (h : ∀ f, (⟨.write g f, ()⟩ : Entry V) ∉ tr₁) : commit (tr₁ ++ tr₂) db g = commit tr₂ db g := by
  rw [commit_append]
  exact commit_congr tr₂ (commit_of_not_written h)

theorem Guarded.current_commit {w : World V ε α ι} (hw : Guarded sys w) {sid sid' : Nat} {s s' : Session V ε α ι}
    (hne : sid ≠ sid') (hs : w.sessions sid = some s) (hrun : s.status = .running)
    (hs' : w.sessions sid' = some s') (hrun' : s'.status = .running) :
    Current (commit s.trace w.db) s'.trace := by
  have hkeep : ∀ m g, sys.row g = true → Holds sys.row m g s'.trace → commit s.trace w.db g = w.db g := by
    intro m g hg hh
    refine commit_of_not_written fun f hf => ?_
    have := hw.apart sid' s' m g hs' hrun' hh sid s hne hs hrun _ (holds_of_write hg hf)
    cases m <;> exact this
  have hcur := hw.current sid' s' hs' hrun'
  rw [current_iff] at hcur ⊢
  intro e he
  have hrow := hw.proper sid' s' hs' e he
  specialize hcur e he
  obtain ⟨o, x⟩ := e
  cases o with
  | lock m g => exact ⟨by rw [hkeep m g hrow (holds_of_lock he)]; exact hcur.1, trivial⟩
  | keep m g v => exact ⟨by rw [hkeep m g hrow (holds_of_keep he)]; exact hcur.1, trivial⟩
  | _ => trivial

theorem current_act {row : G → Bool} {db : Db V} {g : G} {v : V g} {tr : List (Entry V)} (hg : row g = false)
    (hp : ∀ e ∈ tr, e.Proper row) (hc : Current db tr) : Current (Function.update db g v) tr := by
  rw [current_iff] at hc ⊢
  intro e he
  specialize hc e he
  specialize hp e he
  obtain ⟨o, x⟩ := e
  have hne : ∀ g', row g' = true → g' ≠ g := by
    rintro g' hg' rfl
    exact absurd hg' (by simp [hg])
  cases o with
  | lock m g' => exact ⟨by rw [Function.update_of_ne (hne g' hp)]; exact hc.1, trivial⟩
  | keep m g' v => exact ⟨by rw [Function.update_of_ne (hne g' hp)]; exact hc.1, trivial⟩
  | _ => trivial

omit [DecidableEq G] in
theorem World.put_sessions {w : World V ε α ι} {sid sid' : Nat} {s s' : Session V ε α ι} :
    (w.put sid s).sessions sid' = some s' ↔
      (sid' = sid ∧ s' = s) ∨ (sid' ≠ sid ∧ w.sessions sid' = some s') := by
  by_cases hne : sid' = sid
  · subst hne
    simp [World.put, eq_comm]
  · simp [World.put, hne]

omit [DecidableEq G] in
theorem Guarded.replace {w w' : World V ε α ι} (hw : Guarded sys w) (sid : Nat) (s : Session V ε α ι)
    (hw' : w'.sessions = (w.put sid s).sessions) (hnext : w.next ≤ w'.next)
    (hpath : OnPath sys s) (hproper : ∀ e ∈ s.trace, e.Proper sys.row)
    (hfree : s.status = .running → ∀ m g, Holds sys.row m g s.trace → w.Free sys sid m g)
    (hown : s.status = .running → Current w'.db s.trace)
    (hothers : ∀ sid' s', sid' ≠ sid → w.sessions sid' = some s' → s'.status = .running → Current w'.db s'.trace)
    (hdrawn : ∀ n, ⟨.fresh, n⟩ ∈ s.trace → n < w'.next ∧
      ∀ sid' s', sid' ≠ sid → w.sessions sid' = some s' → ⟨.fresh, n⟩ ∉ s'.trace) :
    Guarded sys w' where
  path sid' s' h := by
    rcases World.put_sessions.1 (hw' ▸ h) with ⟨rfl, rfl⟩ | ⟨_, h⟩
    · exact hpath
    · exact hw.path _ _ h
  proper sid' s' h := by
    rcases World.put_sessions.1 (hw' ▸ h) with ⟨rfl, rfl⟩ | ⟨_, h⟩
    · exact hproper
    · exact hw.proper _ _ h
  apart sid' s' m g h hr hh sid'' s'' hne h'' hr'' m' hh' := by
    rcases World.put_sessions.1 (hw' ▸ h) with ⟨rfl, rfl⟩ | ⟨_, h⟩ <;>
      rcases World.put_sessions.1 (hw' ▸ h'') with ⟨rfl, rfl⟩ | ⟨_, h''⟩
    · exact absurd rfl hne
    · exact hfree hr m g hh _ _ hne h'' hr'' _ hh'
    · exact (hfree hr'' m' g hh' _ _ hne.symm h hr _ hh).symm
    · exact hw.apart _ _ _ _ h hr hh _ _ hne h'' hr'' _ hh'
  current sid' s' h hr := by
    rcases World.put_sessions.1 (hw' ▸ h) with ⟨rfl, rfl⟩ | ⟨hne, h⟩
    · exact hown hr
    · exact hothers _ _ hne h hr
  drawn sid' s' n h hn := by
    rcases World.put_sessions.1 (hw' ▸ h) with ⟨rfl, rfl⟩ | ⟨_, h⟩
    · exact (hdrawn n hn).1
    · exact Nat.lt_of_lt_of_le (hw.drawn _ _ _ h hn) hnext
  distinct sid' s' sid'' s'' n h h'' hne hn := by
    rcases World.put_sessions.1 (hw' ▸ h) with ⟨rfl, rfl⟩ | ⟨_, h⟩ <;>
      rcases World.put_sessions.1 (hw' ▸ h'') with ⟨rfl, rfl⟩ | ⟨_, h''⟩
    · exact absurd rfl hne
    · exact (hdrawn n hn).2 _ _ hne h''
    · exact fun hn' => (hdrawn n hn').2 _ _ hne.symm h hn
    · exact hw.distinct _ _ _ _ _ h h'' hne hn

omit [DecidableEq G] in
theorem Guarded.start {w : World V ε α ι} (hw : Guarded sys w) {sid : Nat} {i : ι} :
    Guarded sys (w.put sid ⟨i, [], .running⟩) :=
  hw.replace sid _ rfl (Nat.le_refl _) ⟨_, rfl⟩ (by simp) (fun _ _ _ h => h.elim) (fun _ => trivial)
    (fun _ _ _ h hr => hw.current _ _ h hr) (by simp)

omit [DecidableEq G] in
theorem Guarded.finish {w : World V ε α ι} (hw : Guarded sys w) {sid : Nat} {s : Session V ε α ι} {st : Status ε α}
    {db : Db V} (hs : w.sessions sid = some s) (hst : st ≠ .running) (hp : OnPath sys { s with status := st })
    (hc : ∀ sid' s', sid' ≠ sid → w.sessions sid' = some s' → s'.status = .running → Current db s'.trace) :
    Guarded sys { w.put sid { s with status := st } with db := db } :=
  hw.replace sid _ rfl (Nat.le_refl _) hp (hw.proper sid s hs) (fun h => absurd h hst) (fun h => absurd h hst) hc
    fun _ hn => ⟨hw.drawn _ _ _ hs hn, fun _ _ hne h => hw.distinct _ _ _ _ _ hs h hne hn⟩

omit [DecidableEq G] in
theorem World.Admits.spec {w : World V ε α ι} {sid : Nat} {e : Entry V} (h : w.Admits sys sid e) :
    e.Proper sys.row ∧ (∀ m g, Holds sys.row m g [e] → w.Free sys sid m g) ∧ Current w.db [e] := by
  obtain ⟨o, x⟩ := e
  cases o with
  | lock m g =>
    refine ⟨h.1, fun m' g' hh => ?_, h.2.1, trivial⟩
    obtain ⟨rfl, rfl⟩ := hh.resolve_left id
    exact h.2.2
  | keep m g v =>
    refine ⟨h.1, fun m' g' hh => ?_, h.2.1, trivial⟩
    obtain ⟨rfl, rfl⟩ := hh.resolve_left id
    exact h.2.2
  | tryLock m g =>
    refine ⟨h.1, fun m' g' hh => ?_, trivial⟩
    obtain ⟨rfl, rfl, _⟩ := hh.resolve_left id
    exact h.2.2
  | write g f =>
    refine ⟨trivial, fun m' g' hh => ?_, trivial⟩
    obtain ⟨hg, rfl, rfl⟩ := hh.resolve_left id
    exact h hg
  | act g f => exact ⟨h, fun m' g' hh => (hh.resolve_left id).elim, trivial⟩
  | _ => exact ⟨trivial, fun m' g' hh => (hh.resolve_left id).elim, trivial⟩

theorem World.Admits.current_fired {w : World V ε α ι} {sid : Nat} {e : Entry V} (h : w.Admits sys sid e)
    {tr : List (Entry V)} (hp : ∀ e ∈ tr, e.Proper sys.row) (hc : Current w.db tr) : Current (w.fired e).db tr := by
  obtain ⟨o, x⟩ := e
  cases o with
  | act g f => exact current_act h hp hc
  | _ => exact hc

theorem World.fired_sessions (w : World V ε α ι) (e : Entry V) : (w.fired e).sessions = w.sessions := by
  obtain ⟨o, x⟩ := e
  cases o <;> rfl

theorem World.Admits.next_le {w : World V ε α ι} {sid : Nat} {e : Entry V} (h : w.Admits sys sid e) :
    w.next ≤ (w.fired e).next := by
  obtain ⟨o, x⟩ := e
  cases o with
  | fresh => exact Nat.le_succ_of_le (Nat.le_of_eq h.symm)
  | _ => exact Nat.le_refl _

theorem Step.guarded {w w' : World V ε α ι} (hw : Guarded sys w) (h : Step sys w w') : Guarded sys w' := by
  cases h with
  | start sid i hnew => exact hw.start
  | fire sid s e q hs hrun hp ha =>
    obtain ⟨hprop, hfree, hcur⟩ := ha.spec
    have hproper : ∀ e' ∈ s.trace ++ [e], e'.Proper sys.row := by
      intro e' he
      rcases List.mem_append.1 he with he | he
      · exact hw.proper _ _ hs e' he
      · rw [List.mem_singleton.1 he]
        exact hprop
    refine hw.replace sid { s with trace := s.trace ++ [e] } ?_ ha.next_le ?_ hproper
      (fun _ m g hh => ?_) (fun _ => ?_) (fun sid' s' _ h' hr' => ?_) fun n hn => ?_
    · simp [World.put, World.fired_sessions]
    · simp only [OnPath, hrun]
      exact ⟨q, hp⟩
    · rcases holds_concat hh with hh | hh
      · exact hw.apart _ _ _ _ hs hrun hh
      · exact hfree m g hh
    · exact ha.current_fired hproper (current_append.2 ⟨hw.current _ _ hs hrun, hcur⟩)
    · exact ha.current_fired (hw.proper _ _ h') (hw.current _ _ h' hr')
    · rcases List.mem_append.1 hn with hn | hn
      · exact ⟨Nat.lt_of_lt_of_le (hw.drawn _ _ _ hs hn) ha.next_le,
          fun _ _ hne h' => hw.distinct _ _ _ _ _ hs h' hne hn⟩
      · cases List.mem_singleton.1 hn
        have hn : n = w.next := ha
        refine ⟨Nat.lt_succ_self n, fun sid' s' _ h' hn' => ?_⟩
        exact absurd (hw.drawn _ _ _ h' hn') (by omega)
  | commit sid s a h =>
    exact hw.finish h.found (by simp) h.ends fun sid' s' hne h' hr' =>
      hw.current_commit (Ne.symm hne) h.found h.running h' hr'
  | fail sid s x hs hrun hp => exact hw.finish hs (by simp) hp fun _ _ _ h' hr' => hw.current _ _ h' hr'
  | die sid s hs hrun =>
    have hp := hw.path _ _ hs
    simp only [OnPath, hrun] at hp
    exact hw.finish hs (by simp) hp fun _ _ _ h' hr' => hw.current _ _ h' hr'

/-- A world in which no session has begun. -/
def World.Idle (w : World V ε α ι) : Prop := ∀ sid, w.sessions sid = none

omit [DecidableEq G] in
theorem World.Idle.guarded {w : World V ε α ι} (h : w.Idle) : Guarded sys w where
  path sid s hs := absurd hs (by simp [h sid])
  proper sid s hs := absurd hs (by simp [h sid])
  apart sid s m g hs := absurd hs (by simp [h sid])
  current sid s hs := absurd hs (by simp [h sid])
  drawn sid s n hs := absurd hs (by simp [h sid])
  distinct sid s sid' s' n hs := absurd hs (by simp [h sid])

/-- **Along every run, sessions follow their programs and every lock of a running session is current.** -/
theorem Steps.guarded {w w' : World V ε α ι} (hw : Guarded sys w) (h : Steps sys w w') : Guarded sys w' := by
  induction h with
  | refl => exact hw
  | tail _ h ih => exact h.guarded ih

/-! ## Rules for runs -/

theorem Step.db_cases {w w' : World V ε α ι} (h : Step sys w w') :
    w'.db = w.db ∨
    (∃ sid s g f, w.sessions sid = some s ∧ s.status = .running ∧ sys.row g = false ∧
      (∃ q, (sys.program s.request).After (s.trace ++ [⟨.act g f, ()⟩]) q) ∧
      w'.db = Function.update w.db g (f (w.db g))) ∨
    ∃ sid s a, Commits sys w sid s a ∧ w' = w.committed sid s a := by
  cases h with
  | fire sid s e q hs hrun hp ha =>
    obtain ⟨o, x⟩ := e
    cases o with
    | act g f => exact .inr (.inl ⟨sid, s, g, f, hs, hrun, ha, ⟨q, hp⟩, rfl⟩)
    | _ => exact .inl rfl
  | commit sid s a h => exact .inr (.inr ⟨sid, s, a, h, rfl⟩)
  | _ => exact .inl rfl

omit [DecidableEq G] in
theorem Commits.meets {w : World V ε α ι} {sid : Nat} {s : Session V ε α ι} {a : α} (h : Commits sys w sid s a)
    (hw : Guarded sys w) {Q : List (Entry V) → α → Prop} (hm : Meets w.db (sys.program s.request) Q) : Q s.trace a :=
  hm _ _ h.ends (hw.current _ _ h.found h.running)

end RowLocks
