import Muefs.RowLocks.Machine

/-!
# The past of a run

* `Steps.born` : what does not hold at first and holds now was brought about by one step in between;
* `AnsweredIn` : the world in which a session got an answer, with `Steps.answered_at` : every answer was right in one;
* `Steps.looked_at`, `Steps.locked_at` : for reads;
* `Steps.committed_since`, `Steps.committed_at`, `Steps.committed_either` : the step at which a session committed;
* `Steps.admitted_either` : what answered it, before a world and after it;
* `Steps.later` : a session in a later world, and what answered it since; `Step.still`, `Step.still_open` : a session
  that only acts by its commit;
* `Steps.draws_nodup` : a session draws no number twice; `World.Spent` : a number that will not be drawn again;
  `Steps.named_spent` : the numbers that the store names are spent.
-/

namespace RowLocks

variable {G : Type} {V : G → Type} {ε α ι : Type} [DecidableEq G] {sys : System V ε α ι}

theorem Steps.born {P : World V ε α ι → Prop} {w₀ w : World V ε α ι} (h : Steps sys w₀ w) (h₀ : ¬ P w₀) (hP : P w) :
    ∃ w₁ w₂, Steps sys w₀ w₁ ∧ Step sys w₁ w₂ ∧ Steps sys w₂ w ∧ ¬ P w₁ ∧ P w₂ := by
  induction h with
  | refl => exact absurd hP h₀
  | @tail w₁ w₂ hs hstep ih =>
    by_cases h₁ : P w₁
    · obtain ⟨a, b, ha, hab, hb, hna, hpb⟩ := ih h₁
      exact ⟨a, b, ha, hab, hb.tail hstep, hna, hpb⟩
    · exact ⟨w₁, w₂, hs, hstep, .refl, h₁, hP⟩

theorem Step.session_cases {w w' : World V ε α ι} (h : Step sys w w') {sid : Nat} {s' : Session V ε α ι}
    (hs' : w'.sessions sid = some s') :
    s'.trace = [] ∨ (∃ s, w.sessions sid = some s ∧ s.request = s'.request ∧ s.trace = s'.trace ∧
      (s = s' ∨ s.status = .running)) ∨
    ∃ s e, w.sessions sid = some s ∧ s.request = s'.request ∧ s.status = .running ∧ s'.trace = s.trace ++ [e] ∧
      w.Admits sys sid e ∧ w' = (w.fired e).put sid s' := by
  cases h with
  | start sid₀ i hnew =>
    rcases World.put_sessions.1 hs' with ⟨rfl, rfl⟩ | ⟨_, h⟩
    · exact .inl rfl
    · exact .inr (.inl ⟨s', h, rfl, rfl, .inl rfl⟩)
  | fire sid₀ s e q hs hrun hp ha =>
    rcases World.put_sessions.1 hs' with ⟨rfl, rfl⟩ | ⟨_, h⟩
    · exact .inr (.inr ⟨s, e, hs, rfl, hrun, rfl, ha, rfl⟩)
    · exact .inr (.inl ⟨s', World.fired_sessions w e ▸ h, rfl, rfl, .inl rfl⟩)
  | commit sid₀ s a h =>
    rcases World.put_sessions.1 hs' with ⟨rfl, rfl⟩ | ⟨_, h'⟩
    · exact .inr (.inl ⟨s, h.found, rfl, rfl, .inr h.running⟩)
    · exact .inr (.inl ⟨s', h', rfl, rfl, .inl rfl⟩)
  | fail sid₀ s x hs hrun hp =>
    rcases World.put_sessions.1 hs' with ⟨rfl, rfl⟩ | ⟨_, h⟩
    · exact .inr (.inl ⟨s, hs, rfl, rfl, .inr hrun⟩)
    · exact .inr (.inl ⟨s', h, rfl, rfl, .inl rfl⟩)
  | die sid₀ s hs hrun =>
    rcases World.put_sessions.1 hs' with ⟨rfl, rfl⟩ | ⟨_, h⟩
    · exact .inr (.inl ⟨s, hs, rfl, rfl, .inr hrun⟩)
    · exact .inr (.inl ⟨s', h, rfl, rfl, .inl rfl⟩)

/-- The session got the answer `e` of its trace in the world `w₁`, between two others, when it had what
comes before it. -/
structure AnsweredIn (sys : System V ε α ι) (w₀ w : World V ε α ι) (sid : Nat) (s : Session V ε α ι) (e : Entry V)
    (w₁ : World V ε α ι) : Prop where
  reached : Steps sys w₀ w₁
  later : Steps sys w₁ w
  session : ∃ s₁, w₁.sessions sid = some s₁ ∧ s₁.request = s.request ∧ s₁.status = .running ∧
    s₁.trace ++ [e] <+: s.trace
  admits : w₁.Admits sys sid e

theorem AnsweredIn.entry {w₀ w w₁ : World V ε α ι} {sid : Nat} {s : Session V ε α ι} {e : Entry V}
    (h : AnsweredIn sys w₀ w sid s e w₁) : e ∈ s.trace := by
  obtain ⟨s₁, _, _, _, hpre⟩ := h.session
  exact hpre.subset (by simp)

theorem AnsweredIn.trans {w₀ w w' w₁ : World V ε α ι} {sid : Nat} {s s' : Session V ε α ι} {e : Entry V}
    (h : AnsweredIn sys w₀ w sid s e w₁) (hs : Steps sys w w') (hreq : s.request = s'.request)
    (hpre : s.trace <+: s'.trace) : AnsweredIn sys w₀ w' sid s' e w₁ := by
  obtain ⟨s₁, hs₁, hreq₁, hrun, hpre₁⟩ := h.session
  exact ⟨h.reached, h.later.trans hs, ⟨s₁, hs₁, hreq₁.trans hreq, hrun, hpre₁.trans hpre⟩, h.admits⟩

theorem AnsweredIn.look {w₀ w w₁ : World V ε α ι} {sid : Nat} {s : Session V ε α ι} {g : G} {v : V g}
    (h : AnsweredIn sys w₀ w sid s ⟨.look g, v⟩ w₁) : w₁.db g = v := Eq.symm h.admits

theorem AnsweredIn.snapshot {w₀ w w₁ : World V ε α ι} {sid : Nat} {s : Session V ε α ι} {v : ∀ g, V g}
    (h : AnsweredIn sys w₀ w sid s ⟨.snapshot, v⟩ w₁) : w₁.db = v := Eq.symm h.admits

theorem AnsweredIn.lock {w₀ w w₁ : World V ε α ι} {sid : Nat} {s : Session V ε α ι} {m : Mode} {g : G} {v : V g}
    (h : AnsweredIn sys w₀ w sid s ⟨.lock m g, v⟩ w₁) : w₁.db g = v := Eq.symm h.admits.2.1

/-- **Every entry of a session that has begun since was admitted since, while the session was running.** -/
theorem Steps.answered_since {w₀ w : World V ε α ι} (h : Steps sys w₀ w) {sid : Nat} (hnew : w₀.sessions sid = none)
    {s : Session V ε α ι} (hs : w.sessions sid = some s) {e : Entry V} (he : e ∈ s.trace) :
    ∃ w₁, AnsweredIn sys w₀ w sid s e w₁ := by
  induction h generalizing s with
  | refl => exact absurd hs (by simp [hnew])
  | @tail w₁ w₂ hsteps hstep ih =>
    have hlater : Steps sys w₁ w₂ := .tail .refl hstep
    rcases hstep.session_cases hs with h | ⟨s₁, h₁, hreq, htr, _⟩ | ⟨s₁, e₁, h₁, hreq, hrun, htr, ha, _⟩
    · simp [h] at he
    · obtain ⟨wa, hans⟩ := ih h₁ (htr ▸ he)
      exact ⟨wa, hans.trans hlater hreq ⟨[], by rw [List.append_nil, htr]⟩⟩
    · rw [htr] at he
      rcases List.mem_append.1 he with he | he
      · obtain ⟨wa, hans⟩ := ih h₁ he
        exact ⟨wa, hans.trans hlater hreq ⟨[e₁], htr.symm⟩⟩
      · cases List.mem_singleton.1 he
        exact ⟨w₁, hsteps, hlater, ⟨s₁, h₁, hreq, hrun, ⟨[], by rw [List.append_nil, htr]⟩⟩, ha⟩

/-- **Every entry of a trace was admitted in an earlier world of the run, in which its session was running.** -/
theorem Steps.answered_at {w₀ w : World V ε α ι} (hidle : w₀.Idle) (h : Steps sys w₀ w) {sid : Nat}
    {s : Session V ε α ι} (hs : w.sessions sid = some s) {e : Entry V} (he : e ∈ s.trace) :
    ∃ w₁, AnsweredIn sys w₀ w sid s e w₁ := h.answered_since (hidle sid) hs he

theorem Steps.looked_at {w₀ w : World V ε α ι} (hidle : w₀.Idle) (h : Steps sys w₀ w) {sid : Nat}
    {s : Session V ε α ι} (hs : w.sessions sid = some s) {g : G} {v : V g} (hv : ⟨.look g, v⟩ ∈ s.trace) :
    ∃ w₁, Steps sys w₀ w₁ ∧ Steps sys w₁ w ∧ v = w₁.db g := by
  obtain ⟨w₁, hans⟩ := h.answered_at hidle hs hv
  exact ⟨w₁, hans.reached, hans.later, hans.look.symm⟩

theorem Steps.locked_at {w₀ w : World V ε α ι} (hidle : w₀.Idle) (h : Steps sys w₀ w) {sid : Nat}
    {s : Session V ε α ι} (hs : w.sessions sid = some s) {m : Mode} {g : G} {v : V g} (hv : ⟨.lock m g, v⟩ ∈ s.trace) :
    ∃ w₁, Steps sys w₀ w₁ ∧ Steps sys w₁ w ∧ v = w₁.db g := by
  obtain ⟨w₁, hans⟩ := h.answered_at hidle hs hv
  exact ⟨w₁, hans.reached, hans.later, hans.lock.symm⟩

/-- **The last that a session read of a name was there in a world in which it had made all its reads of it.** -/
theorem Steps.last_read {w₀ w : World V ε α ι} (h : Steps sys w₀ w) {sid : Nat} (hnew : w₀.sessions sid = none)
    {s : Session V ε α ι} (hs : w.sessions sid = some s) {g : G} {v : V g} (hv : (reads g s.trace).getLast? = some v) :
    ∃ w₁ s₁, Steps sys w₀ w₁ ∧ Steps sys w₁ w ∧ w₁.sessions sid = some s₁ ∧ s₁.request = s.request ∧
      reads g s₁.trace = reads g s.trace ∧ w₁.db g = v := by
  induction h generalizing s with
  | refl => exact absurd hs (by simp [hnew])
  | @tail w w' hsteps hstep ih =>
    rcases hstep.session_cases hs with hnil | ⟨s₀, hs₀, hreq, htr, _⟩ | ⟨s₀, e, hs₀, hreq, _, htr, ha, hw'⟩
    · rw [hnil] at hv
      cases hv
    · obtain ⟨w₁, s₁, h₁, h₂, hs₁, hreq₁, hreads, hval⟩ := ih hs₀ (htr ▸ hv)
      exact ⟨w₁, s₁, h₁, h₂.tail hstep, hs₁, hreq₁.trans hreq, htr ▸ hreads, hval⟩
    · cases he : e.read g with
      | none =>
        have hsame : reads g s.trace = reads g s₀.trace := by
          rw [htr, reads_append]
          simp [reads, he]
        obtain ⟨w₁, s₁, h₁, h₂, hs₁, hreq₁, hreads, hval⟩ := ih hs₀ (hsame ▸ hv)
        exact ⟨w₁, s₁, h₁, h₂.tail hstep, hs₁, hreq₁.trans hreq, hreads.trans hsame.symm, hval⟩
      | some v' =>
        cases Entry.read_eq_some.1 he
        have hlast : v' = v := by simpa [htr, reads_append, reads] using hv
        subst hlast
        refine ⟨w', s, hsteps.tail hstep, .refl, hs, rfl, rfl, ?_⟩
        rw [hw']
        exact Eq.symm ha

theorem Step.session_next {w w' : World V ε α ι} (h : Step sys w w') {sid : Nat} {s : Session V ε α ι}
    (hs : w.sessions sid = some s) : ∃ s', w'.sessions sid = some s' ∧ s'.request = s.request ∧
      (s'.trace = s.trace ∨ ∃ e, s'.trace = s.trace ++ [e] ∧ w.Admits sys sid e) := by
  cases h with
  | start sid₀ i hnew =>
    have hne : sid ≠ sid₀ := by
      rintro rfl
      simp [hs] at hnew
    exact ⟨s, World.put_sessions.2 (.inr ⟨hne, hs⟩), rfl, .inl rfl⟩
  | fire sid₀ s₀ e q hs₀ hrun hp ha =>
    by_cases hsid : sid = sid₀
    · subst hsid
      cases hs.symm.trans hs₀
      exact ⟨_, World.put_sessions.2 (.inl ⟨rfl, rfl⟩), rfl, .inr ⟨e, rfl, ha⟩⟩
    · refine ⟨s, World.put_sessions.2 (.inr ⟨hsid, ?_⟩), rfl, .inl rfl⟩
      rw [World.fired_sessions]
      exact hs
  | commit sid₀ s₀ a hc =>
    by_cases hsid : sid = sid₀
    · subst hsid
      cases hs.symm.trans hc.found
      exact ⟨_, World.put_sessions.2 (.inl ⟨rfl, rfl⟩), rfl, .inl rfl⟩
    · exact ⟨s, World.put_sessions.2 (.inr ⟨hsid, hs⟩), rfl, .inl rfl⟩
  | fail sid₀ s₀ x hs₀ hrun hp =>
    by_cases hsid : sid = sid₀
    · subst hsid
      cases hs.symm.trans hs₀
      exact ⟨_, World.put_sessions.2 (.inl ⟨rfl, rfl⟩), rfl, .inl rfl⟩
    · exact ⟨s, World.put_sessions.2 (.inr ⟨hsid, hs⟩), rfl, .inl rfl⟩
  | die sid₀ s₀ hs₀ hrun =>
    by_cases hsid : sid = sid₀
    · subst hsid
      cases hs.symm.trans hs₀
      exact ⟨_, World.put_sessions.2 (.inl ⟨rfl, rfl⟩), rfl, .inl rfl⟩
    · exact ⟨s, World.put_sessions.2 (.inr ⟨hsid, hs⟩), rfl, .inl rfl⟩

/-- **What a session asks later is answered by a later world.** -/
theorem Steps.later {w w' : World V ε α ι} (h : Steps sys w w') {sid : Nat} {s : Session V ε α ι}
    (hs : w.sessions sid = some s) : ∃ s' new, w'.sessions sid = some s' ∧ s'.request = s.request ∧
      s'.trace = s.trace ++ new ∧ ∀ e ∈ new, ∃ w₁, Steps sys w w₁ ∧ Steps sys w₁ w' ∧ w₁.Admits sys sid e := by
  induction h with
  | refl => exact ⟨s, [], hs, rfl, by simp, by simp⟩
  | @tail w₁ w₂ hsteps hstep ih =>
    obtain ⟨s₁, new, hs₁, hreq, htr, hnew⟩ := ih
    obtain ⟨s₂, hs₂, hreq₂, htr₂⟩ := hstep.session_next hs₁
    have hold : ∀ e ∈ new, ∃ w₀, Steps sys w w₀ ∧ Steps sys w₀ w₂ ∧ w₀.Admits sys sid e := by
      intro e he
      obtain ⟨w₀, h₀, h₁, ha⟩ := hnew e he
      exact ⟨w₀, h₀, h₁.tail hstep, ha⟩
    rcases htr₂ with htr₂ | ⟨e, htr₂, ha⟩
    · exact ⟨s₂, new, hs₂, hreq₂.trans hreq, htr₂.trans htr, hold⟩
    · refine ⟨s₂, new ++ [e], hs₂, hreq₂.trans hreq, by rw [htr₂, htr, List.append_assoc], fun e' he' => ?_⟩
      rcases List.mem_append.1 he' with he' | he'
      · exact hold e' he'
      · cases List.mem_singleton.1 he'
        exact ⟨w₁, hsteps, .tail .refl hstep, ha⟩

theorem Step.ended {w w' : World V ε α ι} (h : Step sys w w') {sid : Nat} {s : Session V ε α ι}
    (hs : w.sessions sid = some s) (hend : s.status ≠ .running) : w'.sessions sid = some s := by
  have hother : ∀ {sid₀ s₀ t}, w.sessions sid₀ = some s₀ → s₀.status = .running →
      (w.put sid₀ t).sessions sid = some s := by
    intro sid₀ s₀ t hs₀ hrun
    refine World.put_sessions.2 (.inr ⟨?_, hs⟩)
    rintro rfl
    cases hs.symm.trans hs₀
    exact hend hrun
  cases h with
  | start sid₀ i hnew =>
    refine World.put_sessions.2 (.inr ⟨?_, hs⟩)
    rintro rfl
    simp [hs] at hnew
  | fire sid₀ s₀ e q hs₀ hrun hp ha =>
    have hfound := hother (t := { s₀ with trace := s₀.trace ++ [e] }) hs₀ hrun
    simpa only [World.put, World.fired_sessions] using hfound
  | commit sid₀ s₀ a hc => exact hother hc.found hc.running
  | fail sid₀ s₀ x hs₀ hrun hp => exact hother hs₀ hrun
  | die sid₀ s₀ hs₀ hrun => exact hother hs₀ hrun

theorem Steps.ended {w w' : World V ε α ι} (h : Steps sys w w') {sid : Nat} {s : Session V ε α ι}
    (hs : w.sessions sid = some s) (hend : s.status ≠ .running) : w'.sessions sid = some s := by
  induction h with
  | refl => exact hs
  | tail _ hstep ih => exact hstep.ended ih hend

theorem Steps.committed_since {w₀ w : World V ε α ι} (h : Steps sys w₀ w) {sid : Nat} {s : Session V ε α ι} {a : α}
    (hopen : w₀.sessions sid ≠ some s) (hs : w.sessions sid = some s) (ha : s.status = .committed a) :
    ∃ w₁ s₁, Steps sys w₀ w₁ ∧ Commits sys w₁ sid s₁ a ∧ Steps sys (w₁.committed sid s₁ a) w ∧
      s₁.request = s.request ∧ s₁.trace = s.trace := by
  induction h with
  | refl => exact absurd hs hopen
  | @tail w₁ w₂ hsteps hstep ih =>
    by_cases hsame : w₁.sessions sid = some s
    · obtain ⟨w₃, s₃, h₃, hc, h₄, hrest⟩ := ih hsame
      exact ⟨w₃, s₃, h₃, hc, h₄.tail hstep, hrest⟩
    · have hmoved : ∀ {sid₀ s₀}, (w₁.put sid₀ s₀).sessions sid = some s → sid = sid₀ ∧ s = s₀ := fun h₀ =>
        (World.put_sessions.1 h₀).resolve_right fun hold => hsame hold.2
      cases hstep with
      | start sid₀ i hnew₀ =>
        obtain ⟨_, rfl⟩ := hmoved hs
        cases ha
      | fire sid₀ s₀ e q hs₀ hrun hp hadmits =>
        rw [show ((w₁.fired e).put sid₀ { s₀ with trace := s₀.trace ++ [e] }).sessions =
          (w₁.put sid₀ { s₀ with trace := s₀.trace ++ [e] }).sessions by
            simp only [World.put, World.fired_sessions]] at hs
        obtain ⟨_, rfl⟩ := hmoved hs
        exact absurd (hrun.symm.trans ha) (by simp)
      | commit sid₀ s₀ a₀ hc =>
        obtain ⟨rfl, rfl⟩ := hmoved hs
        cases ha
        exact ⟨w₁, s₀, hsteps, hc, .refl, rfl, rfl⟩
      | fail sid₀ s₀ x hs₀ hrun hp =>
        obtain ⟨_, rfl⟩ := hmoved hs
        cases ha
      | die sid₀ s₀ hs₀ hrun =>
        obtain ⟨_, rfl⟩ := hmoved hs
        cases ha

theorem Steps.committed_at {w₀ w : World V ε α ι} (h : Steps sys w₀ w) {sid : Nat} (hnew : w₀.sessions sid = none)
    {s : Session V ε α ι} {a : α} (hs : w.sessions sid = some s) (ha : s.status = .committed a) :
    ∃ w₁ s₁, Steps sys w₀ w₁ ∧ Commits sys w₁ sid s₁ a ∧ Steps sys (w₁.committed sid s₁ a) w ∧
      s₁.request = s.request ∧ s₁.trace = s.trace :=
  h.committed_since (by simp [hnew]) hs ha

theorem Steps.committed_either {w₀ w₁ w : World V ε α ι} (h₁ : Steps sys w₀ w₁) (h₂ : Steps sys w₁ w) {sid : Nat}
    (hnew : w₀.sessions sid = none) {s : Session V ε α ι} {a : α} (hs : w.sessions sid = some s)
    (ha : s.status = .committed a) :
    ∃ w₂ s₂, Steps sys w₀ w₂ ∧ Commits sys w₂ sid s₂ a ∧ s₂.request = s.request ∧ s₂.trace = s.trace ∧
      Steps sys (w₂.committed sid s₂ a) w ∧
      (Steps sys (w₂.committed sid s₂ a) w₁ ∨ Steps sys w₁ (w₂.committed sid s₂ a)) := by
  by_cases hmid : w₁.sessions sid = some s
  · obtain ⟨w₂, s₂, h₃, hc, h₄, hreq, htr⟩ := h₁.committed_at hnew hmid ha
    exact ⟨w₂, s₂, h₃, hc, hreq, htr, h₄.trans h₂, .inl h₄⟩
  · obtain ⟨w₂, s₂, h₃, hc, h₄, hreq, htr⟩ := h₂.committed_since hmid hs ha
    exact ⟨w₂, s₂, h₁.trans h₃, hc, hreq, htr, h₄, .inr (h₃.tail (.commit sid s₂ a hc))⟩

theorem Steps.admitted_either {w₀ w₁ w : World V ε α ι} (h₁ : Steps sys w₀ w₁) (h₂ : Steps sys w₁ w) {sid : Nat}
    (hnew : w₀.sessions sid = none) {s : Session V ε α ι} (hs : w.sessions sid = some s) {e : Entry V}
    (he : e ∈ s.trace) :
    ∃ w₂, w₂.Admits sys sid e ∧ ((Steps sys w₀ w₂ ∧ Steps sys w₂ w₁) ∨ (Steps sys w₁ w₂ ∧ Steps sys w₂ w)) := by
  cases hmid : w₁.sessions sid with
  | none =>
    obtain ⟨w₂, hans⟩ := h₂.answered_since hmid hs he
    exact ⟨w₂, hans.admits, .inr ⟨hans.reached, hans.later⟩⟩
  | some s₁ =>
    obtain ⟨s', new, hs', _, htrace, hadmits⟩ := h₂.later hmid
    cases hs.symm.trans hs'
    rw [htrace] at he
    rcases List.mem_append.1 he with he | he
    · obtain ⟨w₂, hans⟩ := h₁.answered_since hnew hmid he
      exact ⟨w₂, hans.admits, .inl ⟨hans.reached, hans.later⟩⟩
    · obtain ⟨w₂, h₃, h₄, ha⟩ := hadmits e he
      exact ⟨w₂, ha, .inr ⟨h₃, h₄⟩⟩

theorem Step.still {w w' : World V ε α ι} (h : Step sys w w') {sid : Nat} {s' : Session V ε α ι}
    (hs' : w'.sessions sid = some s') (hmoved : w'.sessions sid ≠ w.sessions sid)
    (hstill : (sys.program s'.request).Asks Op.Still) :
    w'.db = w.db ∨ ∃ s a, Commits sys w sid s a ∧ w' = w.committed sid s a ∧ s.request = s'.request := by
  have hsid : ∀ {sid₀ s₀}, (w.put sid₀ s₀).sessions sid ≠ w.sessions sid → sid = sid₀ := by
    intro sid₀ s₀ hne
    by_contra hc
    exact hne (by simp [World.put, hc])
  cases h with
  | start => exact .inl rfl
  | fail => exact .inl rfl
  | die => exact .inl rfl
  | commit sid₀ s a hc =>
    cases hsid hmoved
    refine .inr ⟨s, a, hc, rfl, ?_⟩
    rcases World.put_sessions.1 hs' with ⟨_, rfl⟩ | ⟨hne, _⟩
    · rfl
    · exact absurd rfl hne
  | fire sid₀ s e q hs hrun hp ha =>
    have hfired : ((w.fired e).put sid₀ { s with trace := s.trace ++ [e] }).sessions =
        (w.put sid₀ { s with trace := s.trace ++ [e] }).sessions := by
      simp only [World.put, World.fired_sessions]
    rw [hfired] at hmoved hs'
    cases hsid hmoved
    rcases World.put_sessions.1 hs' with ⟨_, rfl⟩ | ⟨hne, _⟩
    · have hop := hstill.after hp e (by simp)
      obtain ⟨o, x⟩ := e
      cases o with
      | act g f => exact hop.elim
      | _ => exact .inl rfl
    · exact absurd rfl hne

/-- **A session that changes nothing before its commit, and has not committed, changes nothing.** -/
theorem Step.still_open {w w' : World V ε α ι} (h : Step sys w w') {sid : Nat} {s' : Session V ε α ι}
    (hs' : w'.sessions sid = some s') (hmoved : w'.sessions sid ≠ w.sessions sid)
    (hstill : (sys.program s'.request).Asks Op.Still) (hopen : ∀ a, s'.status ≠ .committed a) : w'.db = w.db := by
  rcases h.still hs' hmoved hstill with heq | ⟨s, a, _, rfl, _⟩
  · exact heq
  · simp only [World.committed, World.put, Function.update_self, Option.some.injEq] at hs'
    exact absurd (congrArg Session.status hs').symm (hopen a)

/-! ## Numbers -/

/-- **A session never draws a number twice.** -/
theorem Steps.draws_nodup {w₀ w : World V ε α ι} (hidle : w₀.Idle) (h : Steps sys w₀ w) {sid : Nat}
    {s : Session V ε α ι} (hs : w.sessions sid = some s) : (draws s.trace).Nodup := by
  induction h generalizing s with
  | refl => exact absurd hs (by simp [hidle sid])
  | @tail w₁ w₂ hsteps hstep ih =>
    rcases hstep.session_cases hs with htr | ⟨s₁, hs₁, _, htr, _⟩ | ⟨s₁, e, hs₁, _, _, htr, ha, _⟩
    · rw [htr]
      exact List.nodup_nil
    · rw [← htr]
      exact ih hs₁
    · rw [htr, draws_append]
      obtain ⟨o, x⟩ := e
      cases o with
      | fresh =>
        refine List.nodup_append.2 ⟨ih hs₁, by simp [draws], fun n hn m hm => ?_⟩
        have hx : x = w₁.next := ha
        have hlt := (Steps.guarded hidle.guarded hsteps).drawn sid s₁ n hs₁ (mem_draws.1 hn)
        rw [List.mem_singleton.1 hm, hx]
        exact Nat.ne_of_lt hlt
      | _ => simpa [draws] using ih hs₁

/-- The number was handed out, and no running session drew it. -/
structure World.Spent (w : World V ε α ι) (n : Nat) : Prop where
  lt : n < w.next
  undrawn : ∀ sid s, w.sessions sid = some s → s.status = .running → ⟨.fresh, n⟩ ∉ s.trace

theorem Step.spent {w w' : World V ε α ι} (h : Step sys w w') {n : Nat} (hn : w.Spent n) : w'.Spent n := by
  refine ⟨Nat.lt_of_lt_of_le hn.lt ?_, fun sid s' hs' hrun' => ?_⟩
  · cases h with
    | fire sid s e q hs hrun hp ha => exact ha.next_le
    | _ => exact Nat.le_refl _
  · rcases h.session_cases hs' with htr | ⟨s, hs, _, htr, hst⟩ | ⟨s, e, hs, _, hrun, htr, ha, _⟩
    · simp [htr]
    · rw [← htr]
      refine hn.undrawn sid s hs ?_
      rcases hst with rfl | hst
      · exact hrun'
      · exact hst
    · rw [htr]
      intro hmem
      rcases List.mem_append.1 hmem with hmem | hmem
      · exact hn.undrawn sid s hs hrun hmem
      · cases List.mem_singleton.1 hmem
        have heq : n = w.next := ha
        exact absurd hn.lt (by omega)

theorem Steps.spent {w w' : World V ε α ι} (h : Steps sys w w') {n : Nat} (hn : w.Spent n) : w'.Spent n := by
  induction h with
  | refl => exact hn
  | tail _ hstep ih => exact hstep.spent ih

theorem Commits.spent {w : World V ε α ι} {sid : Nat} {s : Session V ε α ι} {a : α} (h : Commits sys w sid s a)
    (hw : Guarded sys w) {n : Nat} (hn : ⟨.fresh, n⟩ ∈ s.trace) :
    (w.committed sid s a).Spent n := by
  refine ⟨hw.drawn _ _ _ h.found hn, fun sid' s' hs' hrun' => ?_⟩
  rcases World.put_sessions.1 hs' with ⟨rfl, rfl⟩ | ⟨hne, hs'⟩
  · simp at hrun'
  · exact hw.distinct _ _ _ _ _ h.found hs' hne hn

/-- **The numbers that the store names are spent,** where a commit names only what it drew. -/
theorem Steps.named_spent (Named : Db V → Nat → Prop) {w₀ w : World V ε α ι} (hidle : w₀.Idle)
    (h₀ : ∀ n, Named w₀.db n → n < w₀.next)
    (hact : ∀ (db : Db V) (g : G) (f : V g → V g) n, sys.row g = false →
      Named (Function.update db g (f (db g))) n → Named db n)
    (hcommit : ∀ w sid s a n, Steps sys w₀ w → Commits sys w sid s a → Named (RowLocks.commit s.trace w.db) n →
      Named w.db n ∨ ⟨.fresh, n⟩ ∈ s.trace)
    (h : Steps sys w₀ w) {n : Nat} (hn : Named w.db n) : w.Spent n := by
  induction h generalizing n with
  | refl => exact ⟨h₀ n hn, fun sid s hs => absurd hs (by simp [hidle sid])⟩
  | @tail w₁ w₂ hsteps hstep ih =>
    by_cases hold : Named w₁.db n
    · exact hstep.spent (ih hold)
    · cases hstep with
      | fire sid s e q hs hrun hp ha =>
        refine absurd ?_ hold
        obtain ⟨o, x⟩ := e
        cases o with
        | act g f => exact hact w₁.db g f n ha hn
        | _ => exact hn
      | commit sid s a hc =>
        exact hc.spent (Steps.guarded hidle.guarded hsteps) ((hcommit _ _ _ _ n hsteps hc hn).resolve_left hold)
      | _ => exact absurd hn hold

omit [DecidableEq G] in
theorem World.Spent.not_drawn {w : World V ε α ι} {n : Nat} (h : w.Spent n) {sid : Nat} {s : Session V ε α ι} {a : α}
    (hc : Commits sys w sid s a) : ⟨.fresh, n⟩ ∉ s.trace := h.undrawn sid s hc.found hc.running

end RowLocks
