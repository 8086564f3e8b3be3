import Muefs.RowLocks.LockOrder
import Mathlib.Order.WellFoundedSet

/-!
# Waiting for locks

* `Wants`, `Awaits` : a session asks for a lock, and another one is in its way;
* `Orderly` : sessions ask only for what they may ask for; `Orderly.of_allowed` : those whose programs ask what the
  rules allow;
* `Guarded.acyclic`, `Guarded.ends` : no session waits for itself, and every chain of waits ends;
* `Steps.known`, `Steps.finite` : what is known of all values that were read, and how many sessions there are.
-/

namespace RowLocks

variable {G : Type} {V : G → Type} {ε α ι B : Type}

/-! ## Sessions that wait -/

variable (sys : System V ε α ι) (turn : Mode → G → Turn G B) (among : Session V ε α ι → Prop) (ordered : G → Prop)

/-- The lock that a transaction asks for next. -/
def Txn.wants : Txn V ε α → Option (Mode × G)
  | .ask o _ => o.wants
  | _ => none

/-- The session runs, and its next request asks for this lock. -/
def Session.Wants (s : Session V ε α ι) (m : Mode) (g : G) : Prop :=
  s.status = .running ∧ ∃ p, (sys.program s.request).After s.trace p ∧ p.wants = some (m, g)

/-- One session asks for a lock, and another one holds a lock in its way. -/
structure Behind (s s' : Session V ε α ι) (m m' : Mode) (g : G) : Prop where
  first : among s
  second : among s'
  wants : s.Wants sys m g
  inOrder : ordered g
  running : s'.status = .running
  holds : (m', g) ∈ (held s'.trace).all
  apart : ¬ m.Compatible m'

/-- **A session waits for another one.** -/
def Awaits (w : World V ε α ι) (sid sid' : Nat) : Prop :=
  sid' ≠ sid ∧ ∃ s s' m m' g, w.sessions sid = some s ∧ w.sessions sid' = some s' ∧
    Behind sys among ordered s s' m m' g

/-- The sessions ask only for what they may ask for. -/
structure Orderly [LT B] (w : World V ε α ι) : Prop where
  turns : ∀ m g, ordered g → turn m g ≠ .apart
  mayAsk : ∀ sid s m g, w.sessions sid = some s → among s → s.Wants sys m g →
    MayAsk turn (held s.trace).all m g

variable {sys turn among ordered} {w : World V ε α ι}

theorem Session.Wants.unique {s : Session V ε α ι} {m m' : Mode} {g g' : G} (h : s.Wants sys m g)
    (h' : s.Wants sys m' g') :
    (m, g) = (m', g') := by
  obtain ⟨_, p, hafter, hwants⟩ := h
  obtain ⟨_, p', hafter', hwants'⟩ := h'
  cases hafter.unique hafter'
  exact Option.some.inj (hwants.symm.trans hwants')

theorem Orderly.of_allowed [LT B] {U : Rules V} (hlocks : ∀ locks m g, U.locks locks m g → MayAsk turn locks m g)
    (hturns : ∀ m g, ordered g → turn m g ≠ .apart)
    (hallow : ∀ sid s o n, w.sessions sid = some s → among s → (sys.program s.request).After s.trace (.ask o n) →
      U.monitor.allows (held s.trace) o) : Orderly sys turn among ordered w := by
  refine ⟨hturns, fun sid s m g hs hamong hwants => hlocks _ m g ?_⟩
  obtain ⟨_, p, hafter, hp⟩ := hwants
  cases p with
  | done | raise => cases hp
  | ask o n =>
    have hrest := hallow sid s o n hs hamong hafter
    cases o with
    | lock | tryLock =>
      cases hp
      exact hrest
    | _ => cases hp

section Acyclic

theorem Guarded.compatible (hw : Guarded sys w) {sid sid' : Nat} {s s' : Session V ε α ι} {m m' : Mode} {g : G}
    (hne : sid' ≠ sid) (hs : w.sessions sid = some s) (hrun : s.status = .running) (hs' : w.sessions sid' = some s')
    (hrun' : s'.status = .running) (h : (m, g) ∈ (held s.trace).all) (h' : (m', g) ∈ (held s'.trace).all) :
    m.Compatible m' :=
  hw.apart sid s m g hs hrun (holds_of_held sys.row h) sid' s' hne hs' hrun' m' (holds_of_held sys.row h')

theorem Guarded.not_has (hw : Guarded sys w) {sid sid' : Nat} {s s' : Session V ε α ι} {m m' : Mode} {g : G}
    (hne : sid' ≠ sid) (hs : w.sessions sid = some s) (hs' : w.sessions sid' = some s')
    (h : Behind sys among ordered s s' m m' g) : ¬ HasLock (held s.trace).all m g := by
  rintro (hhas | hhas)
  · exact h.apart (hw.compatible hne hs h.wants.1 hs' h.running hhas h.holds)
  · have hupdate := hw.compatible hne hs h.wants.1 hs' h.running hhas h.holds
    cases m' <;> exact hupdate

variable [Preorder B]

/-- **A session that waits asks for what ranks below all that its locks are in the way of.** -/
theorem Guarded.falls (hw : Guarded sys w) (hord : Orderly sys turn among ordered w) {a b c : Nat}
    {s s' s'' : Session V ε α ι}
    {m₁ m₁' m₂ m₂' : Mode} {g₁ g₂ : G} (hba : b ≠ a) (hcb : c ≠ b) (hs : w.sessions a = some s)
    (hs' : w.sessions b = some s') (hs'' : w.sessions c = some s'') (h : Behind sys among ordered s s' m₁ m₁' g₁)
    (h' : Behind sys among ordered s' s'' m₂ m₂' g₂) : (turn m₂ g₂).rank < (turn m₁ g₁).rank := by
  have hfirst := hord.mayAsk a s m₁ g₁ hs h.first h.wants
  have hsecond := hord.mayAsk b s' m₂ g₂ hs' h.second h'.wants
  have hno := hw.not_has hba hs hs' h
  have hno' := hw.not_has hcb hs' hs'' h'
  have hguards : Guards turn (held s'.trace).all := by
    unfold MayAsk at hsecond
    cases hturn : turn m₂ g₂ with
    | apart => exact absurd hturn (hord.turns _ _ h'.inOrder)
    | _ =>
      rw [hturn] at hsecond
      exact hsecond.1
  unfold MayAsk at hfirst hsecond
  cases hturn : turn m₁ g₁ with
  | apart => exact absurd hturn (hord.turns _ _ h.inOrder)
  | guarded k =>
    rw [hturn] at hfirst
    have hupdate := hfirst.2.resolve_left hno
    obtain ⟨m'', hk⟩ := hguards _ h.holds m₁ k h.apart hturn
    have hcomp := hw.compatible hba hs h.wants.1 hs' h.running hupdate hk
    cases m'' <;> exact hcomp.elim
  | ranked r =>
    cases hturn' : turn m₂ g₂ with
    | apart => exact absurd hturn' (hord.turns _ _ h'.inOrder)
    | guarded k => exact WithBot.bot_lt_coe r
    | ranked r' =>
      rw [hturn'] at hsecond
      exact WithBot.coe_lt_coe.2 (hsecond.2.resolve_left hno' _ h.holds m₁ r h.apart hturn)

theorem Guarded.chain_falls (hw : Guarded sys w) (hord : Orderly sys turn among ordered w) {a b : Nat}
    (h : Relation.TransGen (Awaits sys among ordered w) a b) {s s' s'' : Session V ε α ι} {m₁ m₂ m₂' : Mode} {g₁ g₂ : G}
    {c : Nat} (hs : w.sessions a = some s) (hs' : w.sessions b = some s') (hwants : s.Wants sys m₁ g₁) (hcb : c ≠ b)
    (hs'' : w.sessions c = some s'') (h' : Behind sys among ordered s' s'' m₂ m₂' g₂) :
    (turn m₂ g₂).rank < (turn m₁ g₁).rank := by
  induction h generalizing s' s'' m₂ m₂' g₂ c with
  | single hab =>
    obtain ⟨hba, t, t', m, m', g, ht, ht', hbehind⟩ := hab
    cases hs.symm.trans ht
    cases hs'.symm.trans ht'
    cases hwants.unique hbehind.wants
    exact hw.falls hord hba hcb hs hs' hs'' hbehind h'
  | tail _ hab ih =>
    obtain ⟨hba, t, t', m, m', g, ht, ht', hbehind⟩ := hab
    cases hs'.symm.trans ht'
    exact (hw.falls hord hba hcb ht hs' hs'' hbehind h').trans (ih ht hba hs' hbehind)

/-- **No session waits for itself.** -/
theorem Guarded.acyclic (hw : Guarded sys w) (hord : Orderly sys turn among ordered w) (a : Nat) :
    ¬ Relation.TransGen (Awaits sys among ordered w) a a := by
  intro h
  obtain ⟨b, hab, _⟩ := Relation.TransGen.head'_iff.1 h
  obtain ⟨hba, s, s', m, m', g, hs, hs', hbehind⟩ := hab
  exact lt_irrefl _ (hw.chain_falls hord h hs hs hbehind.wants hba hs' hbehind)

/-- **Where finitely many sessions began, every chain of waits ends at one that waits for none.** -/
theorem Guarded.ends (hw : Guarded sys w) (hord : Orderly sys turn among ordered w)
    (hfinite : {sid | w.sessions sid ≠ none}.Finite) (a : Nat) :
    ∃ b, Relation.ReflTransGen (Awaits sys among ordered w) a b ∧ ∀ c, ¬ Awaits sys among ordered w b c := by
  have hmem : ∀ {b c}, Awaits sys among ordered w b c →
      b ∈ {sid | w.sessions sid ≠ none} ∧ c ∈ {sid | w.sessions sid ≠ none} := by
    rintro b c ⟨_, s, s', _, _, _, hs, hs', _⟩
    exact ⟨by simp [hs], by simp [hs']⟩
  have : IsStrictOrder Nat fun c b => Relation.TransGen (Awaits sys among ordered w) b c :=
    { irrefl := hw.acyclic hord, trans := fun _ _ _ h h' => h'.trans h }
  by_cases ha : a ∈ {sid | w.sessions sid ≠ none}
  · have hwf : Set.WellFoundedOn {sid | w.sessions sid ≠ none} fun c b => Relation.TransGen
      (Awaits sys among ordered w) b c :=
      hfinite.wellFoundedOn
    refine hwf.induction ha (P := fun a => ∃ b, Relation.ReflTransGen (Awaits sys among ordered w) a b ∧
      ∀ c, ¬ Awaits sys among ordered w b c) fun b hb ih => ?_
    by_cases hnext : ∃ c, Awaits sys among ordered w b c
    · obtain ⟨c, hc⟩ := hnext
      obtain ⟨d, hd, hlast⟩ := ih c (hmem hc).2 (.single hc)
      exact ⟨d, .head hc hd, hlast⟩
    · exact ⟨b, .refl, fun c hc => hnext ⟨c, hc⟩⟩
  · exact ⟨a, .refl, fun c hc => ha (hmem hc).1⟩

end Acyclic

section Runs

variable [DecidableEq G]

/-- **What is known of the store is known of all that was read,** where the steps keep it. -/
theorem Steps.known {P : (g : G) → V g → Prop} {w₀ : World V ε α ι} (hidle : w₀.Idle) (h₀ : ∀ g, P g (w₀.db g))
    (hstep : ∀ w w', Steps sys w₀ w → Step sys w w' → (∀ g, P g (w.db g)) →
      (∀ sid s, w.sessions sid = some s → ∀ e ∈ s.trace, e.Reads P) → ∀ g, P g (w'.db g)) (h : Steps sys w₀ w) :
    (∀ g, P g (w.db g)) ∧ ∀ sid s, w.sessions sid = some s → ∀ e ∈ s.trace, e.Reads P := by
  induction h with
  | refl => exact ⟨h₀, fun sid s hs => absurd ((hidle sid).symm.trans hs) (by simp)⟩
  | @tail w₁ w₂ hsteps hs ih =>
    obtain ⟨hdb, hreads⟩ := ih
    refine ⟨hstep w₁ w₂ hsteps hs hdb hreads, fun sid s hs₂ e he => ?_⟩
    rcases hs.session_cases hs₂ with hnil | ⟨s₁, hs₁, _, htrace, _⟩ | ⟨s₁, e', hs₁, _, _, htrace, hadmits, _⟩
    · rw [hnil] at he
      cases he
    · exact hreads sid s₁ hs₁ e (htrace ▸ he)
    · rw [htrace] at he
      rcases List.mem_append.1 he with he | he
      · exact hreads sid s₁ hs₁ e he
      · rw [List.mem_singleton.1 he]
        exact hadmits.reads hdb

/-- **In a run that begins without sessions, finitely many have begun.** -/
theorem Steps.finite {w₀ : World V ε α ι} (hidle : w₀.Idle) (h : Steps sys w₀ w) :
    {sid | w.sessions sid ≠ none}.Finite := by
  have hput : ∀ (w : World V ε α ι) sid (s : Session V ε α ι), {sid | w.sessions sid ≠ none}.Finite →
      {sid' | (w.put sid s).sessions sid' ≠ none}.Finite := by
    intro w sid s hfinite
    refine (hfinite.insert sid).subset fun sid' h' => ?_
    by_cases hne : sid' = sid
    · exact .inl hne
    · refine .inr ?_
      simpa [World.put, hne] using h'
  induction h with
  | refl =>
    refine Set.finite_empty.subset fun sid h => ?_
    exact absurd (hidle sid) h
  | tail _ hstep ih =>
    cases hstep with
    | start sid i => exact hput _ _ _ ih
    | fire sid s e => exact hput _ _ _ (by rwa [World.fired_sessions])
    | commit sid s a => exact hput _ _ _ ih
    | fail sid s x => exact hput _ _ _ ih
    | die sid s => exact hput _ _ _ ih

end Runs

end RowLocks
