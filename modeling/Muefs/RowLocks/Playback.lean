import Muefs.RowLocks.Machine

/-!
# Requests one after the other

* `Txn.alone` : the trace of a transaction with no other beside it, and the store and answer that it comes to;
* `World.serve`, `World.serveAll` : the world after one request, and after a list of them;
* `World.serveAll_steps` : serving requests one after the other is a run;
* `World.pause`, `World.resume` : a request that hears some answers, and goes on after others were served.
-/

namespace RowLocks

variable {G : Type} {V : G → Type} {ε α ι : Type}

/-! ## One transaction -/

/-- How a transaction that ran alone ended. It is `sound` if it locked rows, changed nothing else at once, and kept the
values that it had read. -/
structure Alone (V : G → Type) (ε α : Type) where
  trace : List (Entry V)
  db : Db V
  next : Nat
  result : Except ε α
  sound : Bool

/-- One more entry in front. -/
def Alone.after (r : Alone V ε α) (e : Entry V) (ok : Bool) : Alone V ε α :=
  { r with trace := e :: r.trace, sound := ok && r.sound }

/-- What is left of a transaction that ended. -/
def Alone.rest (r : Alone V ε α) : Txn V ε α :=
  match r.result with
  | .ok a => .done a
  | .error e => .raise e

variable [DecidableEq G] [∀ g, DecidableEq (V g)]

/-- Run a transaction alone, at one time of the clock. The store changes by its `act`s only. -/
def Txn.alone (row : G → Bool) (time : Int) : Txn V ε α → Db V → Nat → Alone V ε α
  | done a, db, next => ⟨[], db, next, .ok a, true⟩
  | raise e, db, next => ⟨[], db, next, .error e, true⟩
  | ask .clock n, db, next => ((n time).alone row time db next).after ⟨.clock, time⟩ true
  | ask .fresh n, db, next => ((n next).alone row time db (next + 1)).after ⟨.fresh, next⟩ true
  | ask (.look g) n, db, next => ((n (db g)).alone row time db next).after ⟨.look g, db g⟩ true
  | ask .snapshot n, db, next => ((n db).alone row time db next).after ⟨.snapshot, db⟩ true
  | ask (.lock m g) n, db, next => ((n (db g)).alone row time db next).after ⟨.lock m g, db g⟩ (row g)
  | ask (.tryLock m g) n, db, next => ((n (db g)).alone row time db next).after ⟨.tryLock m g, db g⟩ (row g)
  | ask (.keep m g v) n, db, next => ((n ()).alone row time db next).after ⟨.keep m g v, ()⟩ (row g && v = db g)
  | ask .letGo n, db, next => ((n ()).alone row time db next).after ⟨.letGo, ()⟩ true
  | ask (.write g f) n, db, next => ((n ()).alone row time db next).after ⟨.write g f, ()⟩ true
  | ask (.act g f) n, db, next =>
    ((n ()).alone row time (Function.update db g (f (db g))) next).after ⟨.act g f, ()⟩ (!row g)

theorem Txn.alone_row {row : G → Bool} {time : Int} {p : Txn V ε α} {db : Db V} {next : Nat}
    (hok : (p.alone row time db next).sound = true) {g : G} (hg : row g = true) :
    (p.alone row time db next).db g = db g := by
  induction p generalizing db next with
  | done a => rfl
  | raise e => rfl
  | ask o n ih =>
    cases o with
    | act g' f =>
      simp only [alone, Alone.after, Bool.and_eq_true, Bool.not_eq_true'] at hok ⊢
      rw [ih () hok.2, Function.update_of_ne]
      rintro rfl
      rw [hg] at hok
      cases hok.1
    | _ =>
      simp only [alone, Alone.after, Bool.and_eq_true] at hok ⊢
      exact ih _ hok.2

variable {sys : System V ε α ι}

/-- The row that an entry locks, at once or with the commit. -/
def Entry.claims (e : Entry V) : Option G :=
  match e.op with
  | .lock _ g | .tryLock _ g | .keep _ g _ | .write g _ => some g
  | _ => none

/-- The rows that a trace locks. -/
def claimed (tr : List (Entry V)) : List G := tr.filterMap Entry.claims

omit [DecidableEq G] [∀ g, DecidableEq (V g)] in
theorem claimed_of_holds {row : G → Bool} {m : Mode} {g : G} {tr : List (Entry V)} (h : Holds row m g tr) :
    g ∈ claimed tr := by
  induction tr with
  | nil => exact h.elim
  | cons e tr ih =>
    rw [claimed, List.filterMap_cons]
    rcases h with h | h
    · cases e.claims with
      | none => exact ih h
      | some g' => exact List.mem_cons_of_mem _ (ih h)
    · have he : e.claims = some g := by
        obtain ⟨o, x⟩ := e
        cases o with
        | lock m' g' | keep m' g' v => exact congrArg some h.2
        | tryLock m' g' => exact congrArg some h.2.1
        | write g' f => exact congrArg some h.2.2
        | _ => exact h.elim
      rw [he]
      exact List.mem_cons_self

/-- Running sessions, except perhaps this one, have locked these rows only. -/
def World.CalmBut (w : World V ε α ι) (sid : Nat) (held : List G) : Prop :=
  ∀ sid' s', sid' ≠ sid → w.sessions sid' = some s' → s'.status = .running → claimed s'.trace ⊆ held

omit [DecidableEq G] [∀ g, DecidableEq (V g)] in
theorem World.CalmBut.free {w : World V ε α ι} {sid : Nat} {held : List G} (h : w.CalmBut sid held) (m : Mode) {g : G}
    (hg : g ∉ held) : w.Free sys sid m g :=
  fun sid' s' hne hs' hrun _ hh => absurd (h sid' s' hne hs' hrun (claimed_of_holds hh)) hg

/-- The world in which the session has come as far as this. -/
def World.played (w : World V ε α ι) (sid : Nat) (s : Session V ε α ι) (r : Alone V ε α) (st : Status ε α) :
    World V ε α ι :=
  { w.put sid { s with trace := s.trace ++ r.trace, status := st } with db := r.db, next := r.next }

omit [DecidableEq G] [∀ g, DecidableEq (V g)] in
theorem World.played_nil {w : World V ε α ι} {sid : Nat} {s : Session V ε α ι} (hs : w.sessions sid = some s)
    (hrun : s.status = .running) (result : Except ε α) :
    w.played sid s ⟨[], w.db, w.next, result, true⟩ .running = w := by
  obtain ⟨db, next, sessions⟩ := w
  obtain ⟨request, trace, status⟩ := s
  simp only at hrun hs
  simp [World.played, World.put, ← hrun, ← hs]

omit [DecidableEq G] [∀ g, DecidableEq (V g)] in
theorem World.CalmBut.put {w w' : World V ε α ι} {sid : Nat} {held : List G} (h : w.CalmBut sid held)
    {s : Session V ε α ι} (hw' : w'.sessions = (w.put sid s).sessions) : w'.CalmBut sid held := by
  intro sid' s' hne hs'
  rcases World.put_sessions.1 (hw' ▸ hs') with ⟨rfl, _⟩ | ⟨_, hs'⟩
  · exact absurd rfl hne
  · exact h sid' s' hne hs'

theorem Txn.alone_steps (time : Int) {sid : Nat} {held : List G} (p : Txn V ε α) {w : World V ε α ι}
    {s : Session V ε α ι} (hs : w.sessions sid = some s) (hrun : s.status = .running) (hcalm : w.CalmBut sid held)
    (hp : (sys.program s.request).After s.trace p) (hok : (p.alone sys.row time w.db w.next).sound = true)
    (hapart : ∀ g ∈ claimed (p.alone sys.row time w.db w.next).trace, g ∉ held) :
    Steps sys w (w.played sid s (p.alone sys.row time w.db w.next) .running) ∧
      (sys.program s.request).After (s.trace ++ (p.alone sys.row time w.db w.next).trace)
        (p.alone sys.row time w.db w.next).rest := by
  induction p generalizing w s with
  | done a =>
    refine ⟨?_, by simpa [alone, Alone.rest] using hp⟩
    rw [alone, World.played_nil hs hrun]
  | raise e =>
    refine ⟨?_, by simpa [alone, Alone.rest] using hp⟩
    rw [alone, World.played_nil hs hrun]
  | ask o n ih =>
    have hfire : ∀ (x : o.Answer) (ok : Bool),
        (ask o n).alone sys.row time w.db w.next =
          ((n x).alone sys.row time (w.fired ⟨o, x⟩).db (w.fired ⟨o, x⟩).next).after ⟨o, x⟩ ok →
        (ok = true → (∀ g, Entry.claims ⟨o, x⟩ = some g → g ∉ held) → w.Admits sys sid ⟨o, x⟩) →
        Steps sys w (w.played sid s ((ask o n).alone sys.row time w.db w.next) .running) ∧
          (sys.program s.request).After (s.trace ++ ((ask o n).alone sys.row time w.db w.next).trace)
            ((ask o n).alone sys.row time w.db w.next).rest := by
      intro x ok heq hadmits
      rw [heq] at hok hapart ⊢
      simp only [Alone.after, Bool.and_eq_true] at hok
      have hfirst : ∀ g, Entry.claims ⟨o, x⟩ = some g → g ∉ held := fun g hg =>
        hapart g (List.mem_filterMap.2 ⟨_, List.mem_cons_self, hg⟩)
      have hlater : ∀ g ∈ claimed ((n x).alone sys.row time (w.fired ⟨o, x⟩).db (w.fired ⟨o, x⟩).next).trace,
          g ∉ held := by
        intro g hg
        obtain ⟨e, he, hg⟩ := List.mem_filterMap.1 hg
        exact hapart g (List.mem_filterMap.2 ⟨e, List.mem_cons_of_mem _ he, hg⟩)
      have hp' : (sys.program s.request).After (s.trace ++ [⟨o, x⟩]) (n x) := after_concat.2 ⟨_, hp, .ask o n x⟩
      have hstep : Step sys w ((w.fired ⟨o, x⟩).put sid { s with trace := s.trace ++ [⟨o, x⟩] }) :=
        .fire sid s ⟨o, x⟩ (n x) hs hrun hp' (hadmits hok.1 hfirst)
      have hcalm' : ((w.fired ⟨o, x⟩).put sid { s with trace := s.trace ++ [⟨o, x⟩] }).CalmBut sid held :=
        hcalm.put (s := { s with trace := s.trace ++ [⟨o, x⟩] }) (by simp [World.put, World.fired_sessions])
      obtain ⟨hsteps, hafter⟩ := ih x (w := (w.fired ⟨o, x⟩).put sid { s with trace := s.trace ++ [⟨o, x⟩] })
        (s := { s with trace := s.trace ++ [⟨o, x⟩] }) (by simp [World.put]) hrun hcalm' hp' hok.2 hlater
      refine ⟨.head hstep ?_, ?_⟩
      · simpa [World.played, World.put, Alone.after, World.fired_sessions] using hsteps
      · simpa only [Alone.after, Alone.rest, World.put, List.append_assoc, List.singleton_append] using hafter
    cases o with
    | clock => exact hfire time true rfl fun _ _ => trivial
    | fresh => exact hfire w.next true rfl fun _ _ => rfl
    | look g => exact hfire (w.db g) true rfl fun _ _ => rfl
    | snapshot => exact hfire w.db true rfl fun _ _ => rfl
    | lock m g => exact hfire (w.db g) (sys.row g) rfl fun h hg => ⟨h, rfl, hcalm.free m (hg g rfl)⟩
    | tryLock m g => exact hfire (w.db g) (sys.row g) rfl fun h hg => ⟨h, rfl, hcalm.free m (hg g rfl)⟩
    | keep m g v =>
      refine hfire () (sys.row g && v = w.db g) rfl fun h hg => ?_
      simp only [Bool.and_eq_true, decide_eq_true_eq] at h
      exact ⟨h.1, h.2, hcalm.free m (hg g rfl)⟩
    | letGo => exact hfire () true rfl fun _ _ => trivial
    | write g f => exact hfire () true rfl fun _ hg _ => hcalm.free .update (hg g rfl)
    | act g f => exact hfire () (!sys.row g) rfl fun h _ => show sys.row g = false by simpa using h

/-! ## Requests -/

variable (sys)

/-- Serve one request, in a session of its own. -/
def World.serve (w : World V ε α ι) (sid : Nat) (time : Int) (i : ι) : World V ε α ι :=
  let r := (sys.program i).alone sys.row time w.db w.next
  { w.put sid ⟨i, r.trace, match r.result with
      | .ok a => .committed a
      | .error e => .failed e⟩ with
    db := match r.result with
      | .ok _ => RowLocks.commit r.trace r.db
      | .error _ => r.db
    next := r.next }

/-- Serve the requests one after the other, in sessions from `sid` on. -/
def World.serveAll : World V ε α ι → Nat → List (Int × ι) → World V ε α ι
  | w, _, [] => w
  | w, sid, (time, i) :: rest => (w.serve sys sid time i).serveAll (sid + 1) rest

/-- Each of them can be served. -/
def World.servable : World V ε α ι → Nat → List (Int × ι) → Bool
  | _, _, [] => true
  | w, sid, (time, i) :: rest =>
    ((sys.program i).alone sys.row time w.db w.next).sound && (w.serve sys sid time i).servable (sid + 1) rest

variable {sys}

/-- Running sessions have locked these rows only, and none has a number from `sid` on. -/
structure World.Calm (w : World V ε α ι) (sid : Nat) (held : List G) : Prop where
  claims : ∀ sid' s', w.sessions sid' = some s' → s'.status = .running → claimed s'.trace ⊆ held
  unused : ∀ sid', sid ≤ sid' → w.sessions sid' = none

omit [DecidableEq G] [∀ g, DecidableEq (V g)] in
theorem World.Idle.calm {w : World V ε α ι} (h : w.Idle) : w.Calm 0 [] :=
  ⟨fun sid' s' hs' => absurd hs' (by simp [h sid']), fun sid' _ => h sid'⟩

omit [DecidableEq G] [∀ g, DecidableEq (V g)] in
theorem World.Calm.but {w : World V ε α ι} {sid : Nat} {held : List G} (h : w.Calm sid held) (sid' : Nat) :
    w.CalmBut sid' held := fun sid' s' _ hs' => h.claims sid' s' hs'

theorem World.serve_sessions {w : World V ε α ι} {sid sid' : Nat} {time : Int} {i : ι} {s' : Session V ε α ι}
    (hs' : (w.serve sys sid time i).sessions sid' = some s') (hrun : s'.status = .running) :
    w.sessions sid' = some s' := by
  rcases World.put_sessions.1 hs' with ⟨_, rfl⟩ | ⟨_, hs'⟩
  · simp only at hrun
    split at hrun <;> cases hrun
  · exact hs'

theorem World.serve_calm {w : World V ε α ι} {sid : Nat} {held : List G} (h : w.Calm sid held) (time : Int) (i : ι) :
    (w.serve sys sid time i).Calm (sid + 1) held := by
  refine ⟨fun sid' s' hs' hrun => h.claims sid' s' (World.serve_sessions hs' hrun) hrun, fun sid' hle => ?_⟩
  have hne : sid' ≠ sid := by omega
  simpa [World.serve, World.put, hne] using h.unused sid' (by omega)

theorem World.CalmBut.serve {w : World V ε α ι} {sid sid' : Nat} {held : List G} (h : w.CalmBut sid' held) (time : Int)
    (i : ι) : (w.serve sys sid time i).CalmBut sid' held :=
  fun sid'' s'' hne hs'' hrun => h sid'' s'' hne (World.serve_sessions hs'' hrun) hrun

theorem World.serve_played {w : World V ε α ι} {sid : Nat} {held : List G} (h : w.Calm sid held) {time : Int} {i : ι}
    (hok : ((sys.program i).alone sys.row time w.db w.next).sound = true)
    (hapart : ∀ g ∈ claimed ((sys.program i).alone sys.row time w.db w.next).trace, g ∉ held) :
    Steps sys w ((w.put sid ⟨i, [], .running⟩).played sid ⟨i, [], .running⟩
      ((sys.program i).alone sys.row time w.db w.next) .running) ∧
    (sys.program i).After ((sys.program i).alone sys.row time w.db w.next).trace
      ((sys.program i).alone sys.row time w.db w.next).rest := by
  have hstart : Step sys w (w.put sid ⟨i, [], .running⟩) := .start sid i (h.unused sid (Nat.le_refl _))
  obtain ⟨hsteps, hafter⟩ := Txn.alone_steps time (sys.program i) (w := w.put sid ⟨i, [], .running⟩)
    (s := ⟨i, [], .running⟩) (by simp [World.put]) rfl ((h.but sid).put rfl) rfl hok hapart
  exact ⟨.head hstart hsteps, hafter⟩

omit [DecidableEq G] [∀ g, DecidableEq (V g)] in
theorem World.played_found {w : World V ε α ι} {sid : Nat} {i : ι} (r : Alone V ε α) (st : Status ε α) :
    ((w.put sid ⟨i, [], .running⟩).played sid ⟨i, [], .running⟩ r st).sessions sid = some ⟨i, r.trace, st⟩ := by
  simp [World.played, World.put]

theorem World.serve_commits {w : World V ε α ι} {sid : Nat} {held : List G} (h : w.Calm sid held) {time : Int} {i : ι}
    {a : α} (hok : ((sys.program i).alone sys.row time w.db w.next).sound = true)
    (hapart : ∀ g ∈ claimed ((sys.program i).alone sys.row time w.db w.next).trace, g ∉ held)
    (hr : ((sys.program i).alone sys.row time w.db w.next).result = .ok a) :
    ∃ w₁ s, Steps sys w w₁ ∧ Commits sys w₁ sid s a ∧ w.serve sys sid time i = w₁.committed sid s a ∧ s.request = i ∧
      w₁.db = ((sys.program i).alone sys.row time w.db w.next).db := by
  obtain ⟨hsteps, hafter⟩ := World.serve_played h hok hapart
  simp only [Alone.rest, hr] at hafter
  refine ⟨_, _, hsteps, .mk (World.played_found _ .running) rfl hafter, ?_, rfl, rfl⟩
  simp [World.serve, World.committed, World.played, World.put, hr]

theorem World.serve_steps {w : World V ε α ι} {sid : Nat} {held : List G} (h : w.Calm sid held) {time : Int} {i : ι}
    (hok : ((sys.program i).alone sys.row time w.db w.next).sound = true)
    (hapart : ∀ g ∈ claimed ((sys.program i).alone sys.row time w.db w.next).trace, g ∉ held) :
    Steps sys w (w.serve sys sid time i) := by
  cases hr : ((sys.program i).alone sys.row time w.db w.next).result with
  | ok a =>
    obtain ⟨w₁, s, hsteps, hc, heq, _⟩ := World.serve_commits h hok hapart hr
    rw [heq]
    exact .tail hsteps (.commit sid s a hc)
  | error e =>
    obtain ⟨hsteps, hafter⟩ := World.serve_played h hok hapart
    simp only [Alone.rest, hr] at hafter
    have hf := Step.fail sid _ e (World.played_found (w := w) _ .running) rfl hafter
    refine .tail hsteps ?_
    simpa [World.serve, World.played, World.put, hr] using hf

/-- **Serving requests one after the other is a run.** -/
theorem World.serveAll_steps {requests : List (Int × ι)} {w : World V ε α ι} {sid : Nat} (h : w.Calm sid [])
    (hok : w.servable sys sid requests = true) : Steps sys w (w.serveAll sys sid requests) := by
  induction requests generalizing w sid with
  | nil => exact .refl
  | cons r rest ih =>
    obtain ⟨time, i⟩ := r
    simp only [servable, Bool.and_eq_true] at hok
    exact .trans (World.serve_steps h hok.1 fun _ _ => List.not_mem_nil) (ih (World.serve_calm h time i) hok.2)

theorem World.serveAll_calm {requests : List (Int × ι)} {w : World V ε α ι} {sid : Nat} {held : List G}
    (h : w.Calm sid held) : (w.serveAll sys sid requests).Calm (sid + requests.length) held := by
  induction requests generalizing w sid with
  | nil => exact h
  | cons r rest ih =>
    rw [List.length_cons, Nat.add_comm rest.length 1, ← Nat.add_assoc]
    exact ih (World.serve_calm h r.1 r.2)

/-! ## A request in two parts -/

omit [DecidableEq G] [∀ g, DecidableEq (V g)] in
/-- What a transaction asks of one store, as far as `k` answers, and what is left of it. -/
def Txn.opening (row : G → Bool) (time : Int) (db : Db V) : Nat → Txn V ε α → List (Entry V) × Txn V ε α
  | 0, p => ([], p)
  | k + 1, ask (.look g) n =>
    (⟨.look g, db g⟩ :: ((n (db g)).opening row time db k).1, ((n (db g)).opening row time db k).2)
  | k + 1, ask .snapshot n => (⟨.snapshot, db⟩ :: ((n db).opening row time db k).1, ((n db).opening row time db k).2)
  | k + 1, ask (.lock m g) n =>
    if row g = true then
      (⟨.lock m g, db g⟩ :: ((n (db g)).opening row time db k).1, ((n (db g)).opening row time db k).2)
    else ([], ask (.lock m g) n)
  | k + 1, ask .clock n => (⟨.clock, time⟩ :: ((n time).opening row time db k).1, ((n time).opening row time db k).2)
  | k + 1, ask (.write g f) n =>
    (⟨.write g f, ()⟩ :: ((n ()).opening row time db k).1, ((n ()).opening row time db k).2)
  | _ + 1, p => ([], p)

variable (sys)

/-- A request arrives and has its first `k` answers. -/
def World.pause (w : World V ε α ι) (sid : Nat) (time : Int) (k : Nat) (i : ι) : World V ε α ι :=
  w.put sid ⟨i, ((sys.program i).opening sys.row time w.db k).1, .running⟩

/-- A session that has done a part goes on to its end with the rest. -/
def World.resume (w : World V ε α ι) (sid : Nat) (time : Int) (i : ι) (part : List (Entry V) × Txn V ε α) :
    World V ε α ι :=
  let r := part.2.alone sys.row time w.db w.next
  { w.put sid ⟨i, part.1 ++ r.trace, match r.result with
      | .ok a => .committed a
      | .error e => .failed e⟩ with
    db := match r.result with
      | .ok _ => RowLocks.commit (part.1 ++ r.trace) r.db
      | .error _ => r.db
    next := r.next }

variable {sys}

omit [∀ g, DecidableEq (V g)] in
theorem Txn.opening_steps (time : Int) {sid : Nat} {held : List G} (k : Nat) (p : Txn V ε α) {w : World V ε α ι}
    {s : Session V ε α ι} (hs : w.sessions sid = some s) (hrun : s.status = .running) (hcalm : w.CalmBut sid held)
    (hp : (sys.program s.request).After s.trace p) (hapart : ∀ g ∈ claimed (p.opening sys.row time w.db k).1,
      g ∉ held) :
    Steps sys w (w.put sid { s with trace := s.trace ++ (p.opening sys.row time w.db k).1 }) ∧
      (sys.program s.request).After (s.trace ++ (p.opening sys.row time w.db k).1)
        (p.opening sys.row time w.db k).2 := by
  have hsame : ∀ q, (sys.program s.request).After s.trace q →
      Steps sys w (w.put sid { s with trace := s.trace ++ [] }) ∧ (sys.program s.request).After (s.trace ++ []) q := by
    intro q hq
    rw [List.append_nil, show w.put sid { s with trace := s.trace } = w by simp [World.put, ← hs]]
    exact ⟨.refl, hq⟩
  induction k generalizing p w s with
  | zero => exact hsame p hp
  | succ k ih =>
    have hone : ∀ (o : Op V) (n : o.Answer → Txn V ε α) (x : o.Answer), p = ask o n → w.fired ⟨o, x⟩ = w →
        (∀ g ∈ claimed (⟨o, x⟩ :: ((n x).opening sys.row time w.db k).1), g ∉ held) →
        ((∀ g, Entry.claims ⟨o, x⟩ = some g → g ∉ held) → w.Admits sys sid ⟨o, x⟩) →
        Steps sys w (w.put sid { s with trace := s.trace ++ ⟨o, x⟩ :: ((n x).opening sys.row time w.db k).1 }) ∧
          (sys.program s.request).After (s.trace ++ ⟨o, x⟩ :: ((n x).opening sys.row time w.db k).1)
            ((n x).opening sys.row time w.db k).2 := by
      rintro o n x rfl hfired hapart' hadmits
      have hfirst : ∀ g, Entry.claims ⟨o, x⟩ = some g → g ∉ held := fun g hg =>
        hapart' g (List.mem_filterMap.2 ⟨_, List.mem_cons_self, hg⟩)
      have hlater : ∀ g ∈ claimed ((n x).opening sys.row time w.db k).1, g ∉ held := by
        intro g hg
        obtain ⟨e, he, hg⟩ := List.mem_filterMap.1 hg
        exact hapart' g (List.mem_filterMap.2 ⟨e, List.mem_cons_of_mem _ he, hg⟩)
      have hp' : (sys.program s.request).After (s.trace ++ [⟨o, x⟩]) (n x) := after_concat.2 ⟨_, hp, .ask o n x⟩
      have hstep : Step sys w (w.put sid { s with trace := s.trace ++ [⟨o, x⟩] }) := by
        have hfire := Step.fire sid s ⟨o, x⟩ (n x) hs hrun hp' (hadmits hfirst)
        rwa [hfired] at hfire
      have hfound : (w.put sid { s with trace := s.trace ++ [⟨o, x⟩] }).sessions sid =
          some { s with trace := s.trace ++ [⟨o, x⟩] } := by simp [World.put]
      obtain ⟨hsteps, hafter⟩ := ih (n x) hfound hrun (hcalm.put rfl) hp' hlater fun q hq => by
        rw [List.append_nil, show (w.put sid { s with trace := s.trace ++ [⟨o, x⟩] }).put sid
          { s with trace := s.trace ++ [⟨o, x⟩] } = w.put sid { s with trace := s.trace ++ [⟨o, x⟩] } by
            simp [World.put]]
        exact ⟨.refl, hq⟩
      refine ⟨.head hstep ?_, ?_⟩
      · simpa [World.put] using hsteps
      · simpa [World.put] using hafter
    cases p with
    | done a => exact hsame _ hp
    | raise x => exact hsame _ hp
    | ask o n =>
      cases o with
      | look g => exact hone _ n (w.db g) rfl rfl hapart fun _ => rfl
      | snapshot => exact hone _ n w.db rfl rfl hapart fun _ => rfl
      | clock => exact hone _ n time rfl rfl hapart fun _ => trivial
      | write g f => exact hone _ n () rfl rfl hapart fun hg _ => hcalm.free .update (hg g rfl)
      | lock m g =>
        rw [opening] at hapart ⊢
        split_ifs at hapart ⊢ with hrow
        · exact hone _ n (w.db g) rfl rfl hapart fun hg => ⟨hrow, rfl, hcalm.free m (hg g rfl)⟩
        · exact hsame _ hp
      | _ => exact hsame _ hp

omit [∀ g, DecidableEq (V g)] in
theorem World.pause_steps {w : World V ε α ι} {sid : Nat} {held : List G} (h : w.Calm sid held) (time : Int) (k : Nat)
    (i : ι) (hapart : ∀ g ∈ claimed ((sys.program i).opening sys.row time w.db k).1, g ∉ held) :
    Steps sys w (w.pause sys sid time k i) ∧
      (sys.program i).After ((sys.program i).opening sys.row time w.db k).1
        ((sys.program i).opening sys.row time w.db k).2 := by
  have hstart : Step sys w (w.put sid ⟨i, [], .running⟩) := .start sid i (h.unused sid (Nat.le_refl _))
  have hfound : (w.put sid ⟨i, [], .running⟩).sessions sid = some ⟨i, [], .running⟩ := by simp [World.put]
  obtain ⟨hsteps, hafter⟩ := Txn.opening_steps time k (sys.program i) hfound rfl ((h.but sid).put rfl) rfl hapart
  refine ⟨.head hstart ?_, hafter⟩
  simpa [World.pause, World.put] using hsteps

omit [DecidableEq G] [∀ g, DecidableEq (V g)] in
theorem World.pause_calm {w : World V ε α ι} {sid : Nat} {held : List G} (h : w.Calm sid held) (time : Int) (k : Nat)
    (i : ι) :
    (w.pause sys sid time k i).Calm (sid + 1) (claimed ((sys.program i).opening sys.row time w.db k).1 ++ held) := by
  constructor
  · intro sid' s' hs' hrun
    rcases World.put_sessions.1 hs' with ⟨_, rfl⟩ | ⟨_, hs'⟩
    · exact List.subset_append_left _ _
    · exact List.Subset.trans (h.claims sid' s' hs' hrun) (List.subset_append_right _ _)
  · intro sid' hle
    have hne : sid' ≠ sid := by omega
    simpa [World.pause, World.put, hne] using h.unused sid' (by omega)

/-- **A session that goes on to its end commits,** over the store as it is then. -/
theorem World.resume_commits {w : World V ε α ι} {sid : Nat} (h : w.CalmBut sid []) {time : Int} {i : ι}
    {part : List (Entry V) × Txn V ε α} {a : α} (hs : w.sessions sid = some ⟨i, part.1, .running⟩)
    (hp : (sys.program i).After part.1 part.2) (hok : (part.2.alone sys.row time w.db w.next).sound = true)
    (hr : (part.2.alone sys.row time w.db w.next).result = .ok a) :
    ∃ w₁ s, Steps sys w w₁ ∧ Commits sys w₁ sid s a ∧ w.resume sys sid time i part = w₁.committed sid s a ∧
      s.request = i ∧ s.trace = part.1 ++ (part.2.alone sys.row time w.db w.next).trace ∧
      w₁.db = (part.2.alone sys.row time w.db w.next).db := by
  obtain ⟨hsteps, hafter⟩ := Txn.alone_steps time part.2 hs rfl h hp hok fun _ _ => List.not_mem_nil
  simp only [Alone.rest, hr] at hafter
  refine ⟨_, ⟨i, part.1 ++ (part.2.alone sys.row time w.db w.next).trace, .running⟩, hsteps,
    ⟨by simp [World.played, World.put], rfl, hafter⟩, ?_, rfl, rfl, rfl⟩
  simp [World.resume, World.committed, World.played, World.put, hr]

end RowLocks
