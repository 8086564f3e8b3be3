import Muefs.Laws.Delivery

/-!
# No notice is stuck

* `Outbox.Start` : a notice as its email is first queued, or as the outbox found it;
* `Notice.Sound` : what a notice and its history keep; `Outbox.Sound`;
* `Outbox.never_stuck` : the law, over any sequence of operations.
-/

namespace Muefs

variable {cfg : Settings} {o o' : Outbox} {a : MailAction}

/-! ## Where a notice starts -/

/-- A notice is inserted and its email queued, or it is from before the outbox. -/
inductive Outbox.Start (cfg : Settings) : Outbox → Prop where
  | queued (row notice : Notice) (context : Option String) (user : Option User) (now : Instant) (messageId : Nat)
      (actorId : Option UserId) (reason : Option String) (hstatus : row.deliveryStatus = .disabled)
      (hcount : row.attemptCount = 0) (hevents : row.events = [])
      (hqueue : queueEmail cfg row context user now messageId actorId reason = .ok notice) :
      Start cfg { notice }
  | legacy (notice : Notice) (hstatus : notice.deliveryStatus = .disabled ∨ notice.deliveryStatus = .legacy)
      (hcount : notice.attemptCount = 0) (hevents : ∀ e ∈ notice.events, e.outcome = .legacyStatus) :
      Start cfg { notice }

/-! ## The history of a notice -/

/-- The event of a claim: an attempt was started, or blocked. -/
def DeliveryEvent.isClaim (e : DeliveryEvent) : Bool := e.outcome == .started || e.outcome == .blocked

def claims (events : List DeliveryEvent) : List DeliveryEvent := events.filter DeliveryEvent.isClaim

/-- The history of a notice with its number of attempts. -/
structure History (events : List DeliveryEvent) (attemptCount : Nat) : Prop where
  numbered : (claims events).map DeliveryEvent.attemptNumber = List.range' 1 attemptCount
  queued : ∀ before e after, events = before ++ e :: after → e.outcome = .queued →
    e.attemptNumber = (claims before).length + 1

theorem History.length {events : List DeliveryEvent} {n : Nat} (h : History events n) : (claims events).length = n := by
  have hlength := congrArg List.length h.numbered
  rwa [List.length_map, List.length_range'] at hlength

theorem claims_concat (events : List DeliveryEvent) (e : DeliveryEvent) :
    claims (events ++ [e]) = claims events ++ if e.isClaim = true then [e] else [] := by
  unfold claims
  rw [List.filter_append, List.filter_singleton]
  cases e.isClaim <;> rfl

theorem concat_eq_append_cons {α : Type} {xs before after : List α} {x y : α} (h : xs ++ [y] = before ++ x :: after) :
    (after = [] ∧ xs = before ∧ x = y) ∨ ∃ rest, after = rest ++ [y] ∧ xs = before ++ x :: rest := by
  rcases List.eq_nil_or_concat after with rfl | ⟨rest, z, rfl⟩
  · obtain ⟨hxs, hy⟩ := List.append_inj' h rfl
    exact .inl ⟨rfl, hxs, ((List.cons_eq_cons.1 hy).1).symm⟩
  · rw [List.concat_eq_append, ← List.cons_append, ← List.append_assoc] at h
    obtain ⟨hxs, hy⟩ := List.append_inj' h rfl
    obtain rfl := (List.cons_eq_cons.1 hy).1
    exact .inr ⟨rest, List.concat_eq_append, hxs⟩

theorem History.claim {events : List DeliveryEvent} {n : Nat} {e : DeliveryEvent} (h : History events n)
    (hclaim : e.isClaim = true) (hnumber : e.attemptNumber = n + 1) : History (events ++ [e]) (n + 1) := by
  constructor
  · rw [claims_concat, if_pos hclaim, List.map_append, h.numbered, List.map_singleton, hnumber, List.range'_concat]
    simp [Nat.add_comm]
  · intro before x after hsplit hqueued
    rcases concat_eq_append_cons hsplit with ⟨_, _, rfl⟩ | ⟨rest, _, hbefore⟩
    · unfold DeliveryEvent.isClaim at hclaim
      rw [hqueued] at hclaim
      cases hclaim
    · exact h.queued before x rest hbefore hqueued

theorem History.queue {events : List DeliveryEvent} {n : Nat} {e : DeliveryEvent} (h : History events n)
    (houtcome : e.outcome = .queued) (hnumber : e.attemptNumber = n + 1) : History (events ++ [e]) n := by
  have hclaim : e.isClaim = false := by
    unfold DeliveryEvent.isClaim
    rw [houtcome]
    rfl
  constructor
  · rw [claims_concat, hclaim, if_neg Bool.false_ne_true, List.append_nil, h.numbered]
  · intro before x after hsplit hqueued
    rcases concat_eq_append_cons hsplit with ⟨_, rfl, rfl⟩ | ⟨rest, _, hbefore⟩
    · rw [hnumber, h.length]
    · exact h.queued before x rest hbefore hqueued

theorem History.report {events : List DeliveryEvent} {n : Nat} {e : DeliveryEvent} (h : History events n)
    (hclaim : e.isClaim = false) (houtcome : e.outcome ≠ .queued) : History (events ++ [e]) n := by
  constructor
  · rw [claims_concat, hclaim, if_neg Bool.false_ne_true, List.append_nil, h.numbered]
  · intro before x after hsplit hqueued
    rcases concat_eq_append_cons hsplit with ⟨_, _, rfl⟩ | ⟨rest, _, hbefore⟩
    · exact absurd hqueued houtcome
    · exact h.queued before x rest hbefore hqueued

theorem History.none {events : List DeliveryEvent} (h : ∀ e ∈ events, e.outcome = .legacyStatus) :
    History events 0 := by
  constructor
  · have hnone : claims events = [] := by
      unfold claims
      rw [List.filter_eq_nil_iff]
      intro e he
      unfold DeliveryEvent.isClaim
      rw [h e he]
      decide
    rw [hnone]
    rfl
  · rintro before e after rfl hqueued
    rw [h e (by simp)] at hqueued
    cases hqueued

/-! ## What a notice keeps -/

/-- A pending notice can be claimed, a notice that is being sent can be recovered, and the history counts. -/
structure Notice.Sound (notice : Notice) : Prop where
  due : notice.deliveryStatus = .pending → notice.nextAttemptAt.isSome = true
  attempted : notice.deliveryStatus = .sending → notice.lastAttemptAt.isSome = true
  /-- An email that was ever claimed is there. -/
  prepared : notice.deliveryStatus = .pending ∨ 0 < notice.attemptCount →
    notice.emailMessage.isSome = true ∧ notice.emailMessageId.isSome = true
  history : History notice.events notice.attemptCount

theorem queueEmail_sound {notice notice' : Notice} {context : Option String} {user : Option User} {now : Instant}
    {messageId : Nat} {actorId : Option UserId} {reason : Option String} (h : notice.Sound)
    (hqueue : queueEmail cfg notice context user now messageId actorId reason = .ok notice') : notice'.Sound := by
  have hstopped : ∀ status error, status ≠ .pending → status ≠ .sending →
      Notice.Sound { notice with deliveryStatus := status, lastError := error } :=
    fun status error hpending hsending =>
      { due := fun hs => absurd hs hpending
        attempted := fun hs => absurd hs hsending
        prepared := fun hs => h.prepared (.inr (hs.resolve_left hpending))
        history := h.history }
  unfold queueEmail at hqueue
  split at hqueue
  · cases hqueue
    exact hstopped .disabled notice.lastError (by decide) (by decide)
  split at hqueue
  · cases hqueue
  split at hqueue
  · cases hqueue
    exact hstopped .blocked _ (by decide) (by decide)
  split at hqueue
  · cases hqueue
    exact hstopped .blocked _ (by decide) (by decide)
  · cases hqueue
    exact {
      due := fun _ => rfl
      attempted := nofun
      prepared := fun _ => ⟨rfl, rfl⟩
      history := h.history.queue rfl rfl }

theorem claimEmail_sound {notice : Notice} {user : Option User} {context : Option String} {now : Instant}
    (h : notice.Sound) (hpending : notice.deliveryStatus = .pending) :
    (claimEmail cfg notice user context now).Sound := by
  have hprepared := h.prepared (.inl hpending)
  unfold claimEmail
  dsimp only
  cases (notice.claimed now).refusal cfg user context with
  | some error => exact {
      due := nofun
      attempted := nofun
      prepared := fun _ => hprepared
      history := h.history.claim rfl rfl }
  | none => exact {
      due := nofun
      attempted := fun _ => rfl
      prepared := fun _ => hprepared
      history := h.history.claim rfl rfl }

theorem SendResult.event_report (result : SendResult) (attempt : Nat) (now : Instant) :
    (result.event attempt now).isClaim = false ∧ (result.event attempt now).outcome ≠ .queued := by
  obtain ⟨outcome, code, detail⟩ := result
  cases outcome <;> exact ⟨rfl, Outcome.noConfusion⟩

theorem Notice.Sound.log {notice : Notice} {e : DeliveryEvent} (h : notice.Sound) (hclaim : e.isClaim = false)
    (houtcome : e.outcome ≠ .queued) : (notice.log e).Sound where
  due := h.due
  attempted := h.attempted
  prepared := h.prepared
  history := h.history.report hclaim houtcome

theorem Notice.Sound.settled {notice : Notice} (h : notice.Sound) (hcount : 0 < notice.attemptCount)
    (status : DeliveryStatus) (hsending : status ≠ .sending) (next sentAt : Option Instant) (error : Option String)
    (hdue : status = .pending → next.isSome = true) :
    Notice.Sound
      { notice with deliveryStatus := status, nextAttemptAt := next, sentAt := sentAt, lastError := error } where
  due := hdue
  attempted hs := absurd hs hsending
  prepared _ := h.prepared (.inr hcount)
  history := h.history

theorem SendResult.settle_sound (result : SendResult) {notice : Notice} {now : Instant} (h : notice.Sound)
    (hcount : 0 < notice.attemptCount) : (result.settle notice now).Sound := by
  unfold settle
  split
  · exact h.settled hcount .sent (by decide) notice.nextAttemptAt (some now) _ nofun
  · exact h.settled hcount .unknown (by decide) notice.nextAttemptAt notice.sentAt _ nofun
  · split
    · exact h.settled hcount .pending (by decide) (some _) notice.sentAt _ fun _ => rfl
    · exact h.settled hcount .failed (by decide) notice.nextAttemptAt notice.sentAt _ nofun
  · exact h.settled hcount .failed (by decide) notice.nextAttemptAt notice.sentAt _ nofun

theorem finishAttempt_sound {notice : Notice} {attempt : Nat} {result : SendResult} {now : Instant} (h : notice.Sound)
    (hattempt : 0 < attempt) : (finishAttempt notice attempt result now).Sound := by
  obtain ⟨hclaim, houtcome⟩ := result.event_report attempt now
  unfold finishAttempt
  dsimp only
  by_cases hlate : notice.attemptCount ≠ attempt ∨ (notice.deliveryStatus ≠ .sending ∧ notice.deliveryStatus ≠ .unknown)
  · rw [if_pos hlate]
    exact h.log hclaim houtcome
  · rw [if_neg hlate]
    have hcurrent : notice.attemptCount = attempt := Decidable.not_not.1 (not_or.1 hlate).1
    exact result.settle_sound (h.log hclaim houtcome) (by rwa [← hcurrent] at hattempt)

theorem recoverInterrupted_sound {notice : Notice} {now : Instant} (h : notice.Sound) :
    (recoverInterrupted notice now).Sound := by
  unfold recoverInterrupted
  split
  · exact {
      due := nofun
      attempted := nofun
      prepared := fun hs => h.prepared (.inr (hs.resolve_left nofun))
      history := h.history.report rfl Outcome.noConfusion }
  · exact h

theorem toOption_eq_some {ε α : Type} {x : Except ε α} {a : α} : x.toOption = some a ↔ x = .ok a := by
  cases x <;> simp [Except.toOption]

theorem retryDelivery_sound {notice notice' : Notice} {data : NoticeRetry} (h : notice.Sound)
    (hretry : retryDelivery cfg notice data = .ok notice') : notice'.Sound := by
  unfold retryDelivery at hretry
  simp only [except_bind_ok, check_ok] at hretry
  obtain ⟨_, _, _, _, _, _, _, _, _, _, _, _, queued, hqueue, _, _, hok⟩ := hretry
  cases hok
  exact queueEmail_sound h hqueue

theorem retryServiceDelivery_sound {notice : Notice} {data : ServiceRetry} {r : Notice × ServiceEvent}
    (h : notice.Sound)
    (hretry : retryServiceDelivery cfg notice data = .ok r) : r.1.Sound := by
  unfold retryServiceDelivery at hretry
  simp only [except_bind_ok, check_ok] at hretry
  obtain ⟨_, _, _, _, _, _, _, _, _, _, _, _, _, _, queued, hqueue, hok⟩ := hretry
  cases hok
  exact queueEmail_sound h hqueue

theorem reportDeliveryFailure_sound {notice : Notice} {events : List ServiceEvent} {data : FailureReport}
    {r : Notice × Option ServiceEvent} (h : notice.Sound)
    (hreport : reportDeliveryFailure cfg notice events data = .ok r) :
    r.1.Sound ∧ (r.1 = notice ∨ r.1.deliveryStatus = .failureReported) := by
  unfold reportDeliveryFailure at hreport
  simp only [except_bind_ok, check_ok] at hreport
  obtain ⟨_, _, staff, _, _, _, hreport⟩ := hreport
  cases hprevious : previousReport events data.key with
  | some sha =>
    simp only [hprevious, except_bind_ok, check_ok] at hreport
    obtain ⟨_, _, hok⟩ := hreport
    cases hok
    exact ⟨h, .inl rfl⟩
  | none =>
    simp only [hprevious, except_bind_ok, check_ok] at hreport
    obtain ⟨_, _, _, _, _, _, _, _, hok⟩ := hreport
    cases hok
    exact ⟨{
      due := fun hs => (by cases hs)
      attempted := fun hs => (by cases hs)
      prepared := fun hs => h.prepared (.inr (hs.resolve_left fun he => (by cases he)))
      history := h.history }, .inr rfl⟩

/-! ## Runs -/

/-- The notice is sound, and every worker holds an attempt that was claimed. -/
structure Outbox.Sound (o : Outbox) : Prop where
  notice : o.notice.Sound
  workers : ∀ n ∈ o.workers, 0 < n

theorem Outbox.Start.sound (h : Start cfg o) : o.Sound := by
  cases h with
  | queued row notice context user now messageId actorId reason hstatus hcount hevents hqueue =>
    have hrow : row.Sound := {
      due := fun hs => absurd (hstatus.symm.trans hs) (by decide)
      attempted := fun hs => absurd (hstatus.symm.trans hs) (by decide)
      prepared := by
        rintro (hs | hs)
        · exact absurd (hstatus.symm.trans hs) (by decide)
        · omega
      history := by
        rw [hcount, hevents]
        exact .none (by simp) }
    exact ⟨queueEmail_sound hrow hqueue, by simp⟩
  | legacy notice hstatus hcount hevents =>
    have hother : notice.deliveryStatus ≠ .pending ∧ notice.deliveryStatus ≠ .sending := by
      rcases hstatus with hs | hs <;> rw [hs] <;> decide
    exact ⟨{
      due := fun hs => absurd hs hother.1
      attempted := fun hs => absurd hs hother.2
      prepared := by
        rintro (hs | hs)
        · exact absurd hs hother.1
        · change 0 < notice.attemptCount at hs
          omega
      history := by
        change History notice.events notice.attemptCount
        rw [hcount]
        exact .none hevents }, by simp⟩

theorem Outbox.Sound.step (h : o.Sound) (hs : o.step cfg a = some o') : o'.Sound := by
  cases a with
  | claim user context now =>
    simp only [Outbox.step, Option.ite_none_right_eq_some, Option.some.injEq] at hs
    obtain ⟨hdue, rfl⟩ := hs
    refine ⟨claimEmail_sound h.notice (Notice.isDue_pending hdue), fun n hn => ?_⟩
    obtain ⟨_, hcount, _⟩ := claimEmail_spec cfg o.notice user context now
    dsimp only at hn
    split at hn
    · rcases List.mem_cons.1 hn with rfl | hn
      · omega
      · exact h.workers n hn
    · exact h.workers n hn
  | die attempt =>
    simp only [Outbox.step, Option.ite_none_right_eq_some, Option.some.injEq] at hs
    obtain ⟨_, rfl⟩ := hs
    exact ⟨h.notice, fun n hn => h.workers n (List.mem_of_mem_erase hn)⟩
  | finish attempt result now =>
    simp only [Outbox.step, Option.ite_none_right_eq_some, Option.some.injEq] at hs
    obtain ⟨hmem, rfl⟩ := hs
    exact ⟨finishAttempt_sound h.notice (h.workers attempt hmem), fun n hn => h.workers n (List.mem_of_mem_erase hn)⟩
  | recover now =>
    simp only [Outbox.step, Option.some.injEq] at hs
    subst hs
    exact ⟨recoverInterrupted_sound h.notice, h.workers⟩
  | retry data =>
    simp only [Outbox.step, Option.map_eq_some_iff, toOption_eq_some] at hs
    obtain ⟨notice, hretry, rfl⟩ := hs
    exact ⟨retryDelivery_sound h.notice hretry, h.workers⟩
  | retryService data =>
    simp only [Outbox.step, Option.map_eq_some_iff, toOption_eq_some] at hs
    obtain ⟨r, hretry, rfl⟩ := hs
    exact ⟨retryServiceDelivery_sound h.notice hretry, h.workers⟩
  | report data =>
    simp only [Outbox.step, Option.map_eq_some_iff, toOption_eq_some] at hs
    obtain ⟨r, hreport, rfl⟩ := hs
    exact ⟨(reportDeliveryFailure_sound h.notice hreport).1, h.workers⟩

theorem Outbox.Sound.run {as : List MailAction} (h : o.Sound) (hr : o.run cfg as = some o') : o'.Sound := by
  induction as generalizing o with
  | nil =>
    cases hr
    exact h
  | cons a as ih =>
    obtain ⟨o₁, hs, hr⟩ := run_cons hr
    exact ih (h.step hs) hr

/-! ## The law -/

theorem Outbox.requeued_automatically (h : o.Sound) (hs : o.step cfg a = some o') (hretry : a.isRetry = false)
    (hbefore : o.notice.deliveryStatus ≠ .pending) (hafter : o'.notice.deliveryStatus = .pending) :
    o.notice.attemptCount < maxAutomaticAttempts := by
  cases a with
  | claim user context now =>
    simp only [Outbox.step, Option.ite_none_right_eq_some, Option.some.injEq] at hs
    exact absurd (Notice.isDue_pending hs.1) hbefore
  | die attempt =>
    simp only [Outbox.step, Option.ite_none_right_eq_some, Option.some.injEq] at hs
    obtain ⟨_, rfl⟩ := hs
    exact absurd hafter hbefore
  | finish attempt result now =>
    simp only [Outbox.step, Option.ite_none_right_eq_some, Option.some.injEq] at hs
    obtain ⟨_, rfl⟩ := hs
    dsimp only [finishAttempt] at hafter
    split at hafter
    · exact absurd hafter hbefore
    · unfold SendResult.settle at hafter
      split at hafter
      · cases hafter
      · cases hafter
      · split at hafter
        · assumption
        · cases hafter
      · cases hafter
  | recover now =>
    simp only [Outbox.step, Option.some.injEq] at hs
    subst hs
    dsimp only [recoverInterrupted] at hafter
    split at hafter
    · cases hafter
    · exact absurd hafter hbefore
  | retry data => cases hretry
  | retryService data => cases hretry
  | report data =>
    simp only [Outbox.step, Option.map_eq_some_iff, toOption_eq_some] at hs
    obtain ⟨r, hreport, rfl⟩ := hs
    rcases (reportDeliveryFailure_sound h.notice hreport).2 with hr | hr
    · exact absurd (hr ▸ hafter) hbefore
    · exact absurd (hr.symm.trans hafter) (by decide)

theorem Outbox.claimable {t now : Instant} (hpending : o.notice.deliveryStatus = .pending)
    (hdue : o.notice.nextAttemptAt = some t) (hid : o.notice.emailMessageId.isSome = true) (hnow : t ≤ now)
    (user : Option User) (context : Option String) :
    ∃ o', o.step cfg (.claim user context now) = some o' ∧ o'.notice.deliveryStatus ≠ .pending := by
  have hisDue : o.notice.isDue now = true := by
    unfold Notice.isDue
    rw [hpending, hdue, hid]
    simpa using hnow
  refine ⟨_, if_pos hisDue, ?_⟩
  obtain ⟨e, _, _, ⟨hstatus, _⟩ | ⟨hstatus, _⟩⟩ := claimEmail_spec cfg o.notice user context now
  · exact fun hs => absurd (hstatus.symm.trans hs) (by decide)
  · exact fun hs => absurd (hstatus.symm.trans hs) (by decide)

theorem Outbox.recoverable {t now : Instant} (hsending : o.notice.deliveryStatus = .sending)
    (hattempt : o.notice.lastAttemptAt = some t) (hnow : t ≤ now - interruptedAfter) :
    ∃ o', o.step cfg (.recover now) = some o' ∧ o'.notice.deliveryStatus = .unknown := by
  refine ⟨_, rfl, ?_⟩
  change (recoverInterrupted o.notice now).deliveryStatus = .unknown
  unfold recoverInterrupted
  rw [if_pos ⟨hsending, by rw [hattempt]; simpa using hnow⟩]
  rfl

/-- **No notice is stuck.** In every state that operations reach in any order: a pending notice has a time, a message
and a message id, and a claim takes it once it is due; a notice that is being sent has the time of its attempt, and
recovery takes it; the attempts are as many as the claims in the history, which are numbered from one; every queued
email carries the number of the next claim; and without a request an email is queued again only while
attempts are left. -/
theorem Outbox.never_stuck {o₀ : Outbox} {as : List MailAction} (h₀ : Start cfg o₀) (hrun : o₀.run cfg as = some o) :
    (o.notice.deliveryStatus = .pending → o.notice.emailMessage.isSome = true ∧ o.notice.emailMessageId.isSome = true ∧
      ∃ t, o.notice.nextAttemptAt = some t ∧ ∀ now, t ≤ now → ∀ user context,
        ∃ o', o.step cfg (.claim user context now) = some o' ∧ o'.notice.deliveryStatus ≠ .pending) ∧
    (o.notice.deliveryStatus = .sending → ∃ t, o.notice.lastAttemptAt = some t ∧ ∀ now, t ≤ now - interruptedAfter →
      ∃ o', o.step cfg (.recover now) = some o' ∧ o'.notice.deliveryStatus = .unknown) ∧
    o.notice.attemptCount = (claims o.notice.events).length ∧
    (claims o.notice.events).map DeliveryEvent.attemptNumber = List.range' 1 o.notice.attemptCount ∧
    (∀ before e after, o.notice.events = before ++ e :: after → e.outcome = .queued →
      e.attemptNumber = (claims before).length + 1) ∧
    ∀ a o', o.step cfg a = some o' → a.isRetry = false → o.notice.deliveryStatus ≠ .pending →
      o'.notice.deliveryStatus = .pending → o.notice.attemptCount < maxAutomaticAttempts := by
  have hsound : o.Sound := h₀.sound.run hrun
  have hnotice := hsound.notice
  refine ⟨fun hpending => ?_, fun hsending => ?_, hnotice.history.length.symm, hnotice.history.numbered,
    hnotice.history.queued, fun a o' hs hretry => requeued_automatically hsound hs hretry⟩
  · obtain ⟨hmessage, hid⟩ := hnotice.prepared (.inl hpending)
    obtain ⟨t, ht⟩ := Option.isSome_iff_exists.1 (hnotice.due hpending)
    exact ⟨hmessage, hid, t, ht, fun now hnow => claimable hpending ht hid hnow⟩
  · obtain ⟨t, ht⟩ := Option.isSome_iff_exists.1 (hnotice.attempted hsending)
    exact ⟨t, ht, fun now hnow => recoverable hsending ht hnow⟩

def insertedNotice : Notice where
  id := 1
  noticeType := .filingAccepted
  recipientId := 1
  filingEnvelopeId := some 1

/-- The first attempt fails for now, and the notice waits for the second. -/
theorem Outbox.never_stuck_requeued : ∃ o₀ o, Start mailSettings o₀ ∧
    o₀.run mailSettings [.claim (some mailFiler) none 0, .finish 1 { outcome := .temporaryFailure } 5] = some o ∧
    o.notice.deliveryStatus = .pending ∧ ∃ t, o.notice.nextAttemptAt = some t ∧ ∀ now, t ≤ now → ∀ user context,
      ∃ o', o.step mailSettings (.claim user context now) = some o' ∧ o'.notice.deliveryStatus ≠ .pending := by
  obtain ⟨notice, hqueue⟩ : ∃ notice, queueEmail mailSettings insertedNotice none (some mailFiler) 0 7 none none =
      .ok notice := ⟨_, rfl⟩
  have h₀ : Start mailSettings { notice } := .queued insertedNotice notice _ _ _ _ _ _ rfl rfl rfl hqueue
  obtain ⟨o, hrun, hpending⟩ : ∃ o, Outbox.run mailSettings
      [.claim (some mailFiler) none 0, .finish 1 { outcome := .temporaryFailure } 5] { notice } = some o ∧
      o.notice.deliveryStatus = .pending := by
    cases hqueue
    exact ⟨_, rfl, rfl⟩
  exact ⟨_, o, h₀, hrun, hpending, ((Outbox.never_stuck h₀ hrun).1 hpending).2.2⟩

end Muefs
