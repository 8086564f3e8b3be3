import Muefs.Portal.Mail
import Mathlib.Data.List.Count
import Mathlib.Data.List.Nodup

/-!
# Notices are delivered once

* `Move` : what an operation does to the outbox; `Outbox.step_cases` : every operation makes a `Move`;
* `Outbox.Counted` : attempts are numbered and started once, and each has at most one worker;
* `Outbox.Past n` : nothing that the worker of attempt `n` reports changes the notice any more;
* `Outbox.delivery` : the law, over any sequence of operations.
-/

namespace Muefs

variable {cfg : Settings} {o o' o₁ o₂ o₃ o₄ : Outbox} {a : MailAction}

/-! ## Actions -/

def MailAction.isRetry : MailAction → Bool
  | .retry _ | .retryService _ => true
  | _ => false

/-- The request comes from the staff of the court. -/
def MailAction.byStaff : MailAction → Bool
  | .retry data => data.courtId.any data.account.isCourtStaff
  | .retryService data => data.account.isCourtStaff data.delivery.courtId
  | .report data => data.account.isCourtStaff data.delivery.courtId
  | _ => false

/-- The email is queued again, or the notice says why not. -/
structure Notice.Requeued (n n' : Notice) : Prop where
  status : n'.deliveryStatus = .disabled ∨ n'.deliveryStatus = .blocked ∨ n'.deliveryStatus = .pending
  count : n'.attemptCount = n.attemptCount
  events : ∃ es, n'.events = n.events ++ es ∧ ∀ e ∈ es, e.outcome = .queued

theorem queueEmail_requeued {notice notice' : Notice} {context : Option String} {user : Option User} {now : Instant}
    {messageId : Nat} {actorId : Option UserId} {reason : Option String}
    (h : queueEmail cfg notice context user now messageId actorId reason = .ok notice') : notice.Requeued notice' := by
  unfold queueEmail at h
  split at h
  · cases h
    exact ⟨.inl rfl, rfl, [], by simp, by simp⟩
  split at h
  · cases h
  split at h
  · cases h
    exact ⟨.inr (.inl rfl), rfl, [], by simp, by simp⟩
  split at h
  · cases h
    exact ⟨.inr (.inl rfl), rfl, [], by simp, by simp⟩
  · cases h
    exact ⟨.inr (.inr rfl), rfl, _, rfl, by simp⟩

/-- What an operation does. -/
inductive Move (o o' : Outbox) : MailAction → Prop where
  | started (user : Option User) (context : Option String) (now : Instant) (e : DeliveryEvent)
      (hstatus : o.notice.deliveryStatus = .pending) (hstatus' : o'.notice.deliveryStatus = .sending)
      (hcount : o'.notice.attemptCount = o.notice.attemptCount + 1)
      (hevents : o'.notice.events = o.notice.events ++ [e]) (houtcome : e.outcome = .started)
      (hnumber : e.attemptNumber = o.notice.attemptCount + 1)
      (hworkers : o'.workers = (o.notice.attemptCount + 1) :: o.workers) : Move o o' (.claim user context now)
  | refused (user : Option User) (context : Option String) (now : Instant) (e : DeliveryEvent)
      (hstatus : o.notice.deliveryStatus = .pending) (hstatus' : o'.notice.deliveryStatus = .blocked)
      (hcount : o'.notice.attemptCount = o.notice.attemptCount + 1)
      (hevents : o'.notice.events = o.notice.events ++ [e]) (houtcome : e.outcome ≠ .started)
      (hworkers : o'.workers = o.workers) : Move o o' (.claim user context now)
  | died (attempt : Nat) (hmem : attempt ∈ o.workers)
      (ho' : o' = { o with workers := o.workers.erase attempt }) : Move o o' (.die attempt)
  | late (attempt : Nat) (result : SendResult) (now : Instant) (e : DeliveryEvent) (hmem : attempt ∈ o.workers)
      (hlate : o.notice.attemptCount ≠ attempt ∨
        (o.notice.deliveryStatus ≠ .sending ∧ o.notice.deliveryStatus ≠ .unknown))
      (houtcome : e.outcome ≠ .started)
      (ho' : o' = { o with notice := o.notice.log e, workers := o.workers.erase attempt }) :
      Move o o' (.finish attempt result now)
  | finished (result : SendResult) (now : Instant) (e : DeliveryEvent) (hmem : o.notice.attemptCount ∈ o.workers)
      (hstatus : o.notice.deliveryStatus = .sending ∨ o.notice.deliveryStatus = .unknown)
      (hcount : o'.notice.attemptCount = o.notice.attemptCount)
      (hsent : result.outcome = .accepted → o'.notice.deliveryStatus = .sent)
      (hunknown : result.outcome = .unknown → o'.notice.deliveryStatus = .unknown)
      (hevents : o'.notice.events = o.notice.events ++ [e]) (houtcome : e.outcome ≠ .started)
      (hworkers : o'.workers = o.workers.erase o.notice.attemptCount) :
      Move o o' (.finish o.notice.attemptCount result now)
  | recovered (now : Instant) (e : DeliveryEvent) (hstatus : o.notice.deliveryStatus = .sending)
      (hstatus' : o'.notice.deliveryStatus = .unknown) (hcount : o'.notice.attemptCount = o.notice.attemptCount)
      (hevents : o'.notice.events = o.notice.events ++ [e]) (houtcome : e.outcome ≠ .started)
      (hworkers : o'.workers = o.workers) : Move o o' (.recover now)
  | retried (a : MailAction) (hretry : a.isRetry = true)
      (hstatus : o.notice.deliveryStatus ∉ [.sent, .sending, .pending])
      (hstaff : o.notice.deliveryStatus ∉ [.unknown, .legacy, .failureReported] ∨ a.byStaff = true)
      (hnotice : o.notice.Requeued o'.notice) (hworkers : o'.workers = o.workers) : Move o o' a
  | reported (data : FailureReport) (hstatus : o.notice.deliveryStatus ∈ [.sent, .unknown, .failureReported])
      (hstaff : data.account.isCourtStaff data.delivery.courtId = true)
      (hstatus' : o'.notice.deliveryStatus = .failureReported)
      (hcount : o'.notice.attemptCount = o.notice.attemptCount) (hevents : o'.notice.events = o.notice.events)
      (hnew : o'.events ≠ o.events) (hworkers : o'.workers = o.workers) : Move o o' (.report data)
  | idle (a : MailAction) (ho' : o' = o) (ha : a.isRetry = false) : Move o o' a

theorem check_ok {c : Prop} [Decidable c] {e : Failure} {u : Unit} : check c e = .ok u ↔ c := by
  unfold check
  split <;> simp_all

theorem SendOutcome.outcome_ne (outcome : SendOutcome) : outcome.outcome ≠ .started := by
  cases outcome <;> simp [SendOutcome.outcome]

theorem SendResult.settle_kept (result : SendResult) (notice : Notice) (now : Instant) :
    (result.settle notice now).attemptCount = notice.attemptCount ∧
      (result.settle notice now).events = notice.events := by
  unfold settle
  split
  · exact ⟨rfl, rfl⟩
  · exact ⟨rfl, rfl⟩
  · split <;> exact ⟨rfl, rfl⟩
  · exact ⟨rfl, rfl⟩

theorem Notice.isDue_pending {notice : Notice} {now : Instant} (h : notice.isDue now = true) :
    notice.deliveryStatus = .pending := by
  simp only [isDue, Bool.and_eq_true, beq_iff_eq] at h
  exact h.1.1

theorem claimEmail_spec (cfg : Settings) (notice : Notice) (user : Option User) (context : Option String)
    (now : Instant) :
    ∃ e, (claimEmail cfg notice user context now).attemptCount = notice.attemptCount + 1 ∧
      (claimEmail cfg notice user context now).events = notice.events ++ [e] ∧
      (((claimEmail cfg notice user context now).deliveryStatus = .sending ∧ e.outcome = .started ∧
          e.attemptNumber = notice.attemptCount + 1) ∨
        ((claimEmail cfg notice user context now).deliveryStatus = .blocked ∧ e.outcome ≠ .started)) := by
  unfold claimEmail
  dsimp only
  cases (notice.claimed now).refusal cfg user context with
  | some error => exact ⟨_, rfl, rfl, .inr ⟨rfl, Outcome.noConfusion⟩⟩
  | none => exact ⟨_, rfl, rfl, .inl ⟨rfl, rfl, rfl⟩⟩

theorem Outbox.claim_move {user : Option User} {context : Option String} {now : Instant}
    (h : o.step cfg (.claim user context now) = some o') : Move o o' (.claim user context now) := by
  simp only [step, Option.ite_none_right_eq_some, Option.some.injEq] at h
  obtain ⟨hdue, rfl⟩ := h
  have hpending := Notice.isDue_pending hdue
  obtain ⟨e, hcount, hevents, ⟨hstatus, houtcome, hnumber⟩ | ⟨hstatus, houtcome⟩⟩ :=
    claimEmail_spec cfg o.notice user context now
  · refine .started user context now e hpending hstatus hcount hevents houtcome hnumber ?_
    rw [← hcount]
    exact if_pos hstatus
  · exact .refused user context now e hpending hstatus hcount hevents houtcome (if_neg (by simp [hstatus]))

theorem Outbox.finish_move {attempt : Nat} {result : SendResult} {now : Instant}
    (h : o.step cfg (.finish attempt result now) = some o') : Move o o' (.finish attempt result now) := by
  simp only [step, Option.ite_none_right_eq_some, Option.some.injEq] at h
  obtain ⟨hmem, rfl⟩ := h
  have houtcome := result.outcome.outcome_ne
  by_cases hlate : o.notice.attemptCount ≠ attempt ∨
      (o.notice.deliveryStatus ≠ .sending ∧ o.notice.deliveryStatus ≠ .unknown)
  · refine .late attempt result now (result.event attempt now) hmem hlate houtcome ?_
    rw [finishAttempt, if_pos hlate]
  · obtain ⟨hcount, hstatus⟩ := not_or.1 hlate
    obtain rfl : o.notice.attemptCount = attempt := Decidable.not_not.1 hcount
    have hstatus : o.notice.deliveryStatus = .sending ∨ o.notice.deliveryStatus = .unknown := by
      by_contra hno
      exact hstatus (not_or.1 hno)
    rw [finishAttempt, if_neg hlate]
    obtain ⟨hcount, hevents⟩ := result.settle_kept (o.notice.log (result.event o.notice.attemptCount now)) now
    refine .finished result now _ hmem hstatus hcount (fun hr => ?_) (fun hr => ?_) hevents houtcome rfl
    · simp only [SendResult.settle, hr]
    · simp only [SendResult.settle, hr]

theorem Outbox.recover_move {now : Instant} (h : o.step cfg (.recover now) = some o') : Move o o' (.recover now) := by
  simp only [step, Option.some.injEq] at h
  subst h
  unfold recoverInterrupted
  split
  · rename_i hsending
    exact .recovered now _ hsending.1 rfl rfl rfl Outcome.noConfusion rfl
  · exact .idle _ rfl rfl

theorem except_bind_ok {ε α β : Type} {x : Except ε α} {k : α → Except ε β} {b : β} :
    (x >>= k) = .ok b ↔ ∃ a, x = .ok a ∧ k a = .ok b := by
  cases x with
  | error e => simp [bind, Except.bind]
  | ok a => simp [bind, Except.bind]

theorem Outbox.retry_move {data : NoticeRetry} (h : o.step cfg (.retry data) = some o') : Move o o' (.retry data) := by
  simp only [step, Option.map_eq_some_iff] at h
  obtain ⟨notice, h, rfl⟩ := h
  cases hr : retryDelivery cfg o.notice data with
  | error e => simp [hr, Except.toOption] at h
  | ok notice' =>
    simp only [hr, Except.toOption, Option.some.injEq] at h
    subst h
    simp only [retryDelivery, noticeForViewer, except_bind_ok, check_ok] at hr
    obtain ⟨staff, ⟨_, _, hstaff⟩, _, _, _, _, _, _, _, hstatus, _, hallowed, queued, hqueue, _, _, hr⟩ := hr
    cases hstaff
    cases hr
    refine .retried _ rfl ?_ ?_ (queueEmail_requeued hqueue) rfl
    · revert hstatus
      cases o.notice.deliveryStatus <;> simp
    · refine hallowed.imp_left fun hno => ?_
      revert hno hstatus
      cases o.notice.deliveryStatus <;> simp

theorem Outbox.retryService_move {data : ServiceRetry} (h : o.step cfg (.retryService data) = some o') :
    Move o o' (.retryService data) := by
  simp only [step, Option.map_eq_some_iff] at h
  obtain ⟨r, h, rfl⟩ := h
  cases hr : retryServiceDelivery cfg o.notice data with
  | error e => simp [hr, Except.toOption] at h
  | ok r' =>
    simp only [hr, Except.toOption, Option.some.injEq] at h
    subst h
    simp only [retryServiceDelivery, requireDeliveryViewer, except_bind_ok, check_ok] at hr
    obtain ⟨_, _, staff, ⟨_, _, _, _, _, _, hstaff⟩, _, _, _, _, _, hstatus, _, hallowed, _, _, queued,
      hqueue, hr⟩ := hr
    cases hstaff
    cases hr
    refine .retried _ rfl ?_ hallowed (queueEmail_requeued hqueue) rfl
    revert hstatus
    cases o.notice.deliveryStatus <;> simp

theorem Outbox.report_move {data : FailureReport} (h : o.step cfg (.report data) = some o') :
    Move o o' (.report data) := by
  simp only [step, Option.map_eq_some_iff] at h
  obtain ⟨r, h, rfl⟩ := h
  cases hr : reportDeliveryFailure cfg o.notice o.events data with
  | error e => simp [hr, Except.toOption] at h
  | ok r' =>
    simp only [hr, Except.toOption, Option.some.injEq] at h
    subst h
    simp only [reportDeliveryFailure, requireDeliveryViewer, except_bind_ok, check_ok] at hr
    obtain ⟨_, _, staff, ⟨_, _, _, _, _, _, hstaff⟩, _, hcheck, hr⟩ := hr
    cases hstaff
    cases hprev : previousReport o.events data.key with
    | some sha =>
      simp only [hprev, except_bind_ok, check_ok] at hr
      obtain ⟨_, _, hr⟩ := hr
      cases hr
      exact .idle _ (by simp) rfl
    | none =>
      simp only [hprev, except_bind_ok, check_ok] at hr
      obtain ⟨_, _, _, hstatus, _, _, _, _, hr⟩ := hr
      cases hr
      exact .reported data hstatus hcheck rfl rfl rfl (by simp) rfl

/-- **Every operation makes a `Move`.** -/
theorem Outbox.step_cases (h : o.step cfg a = some o') : Move o o' a := by
  cases a with
  | claim user context now => exact claim_move h
  | die attempt =>
    simp only [step, Option.ite_none_right_eq_some, Option.some.injEq] at h
    exact .died attempt h.1 h.2.symm
  | finish attempt result now => exact finish_move h
  | recover now => exact recover_move h
  | retry data => exact retry_move h
  | retryService data => exact retryService_move h
  | report data => exact report_move h

/-! ## Runs -/

theorem Outbox.run_append {as bs : List MailAction} :
    o.run cfg (as ++ bs) = (o.run cfg as).bind (Outbox.run cfg bs) := by
  induction as generalizing o with
  | nil => rfl
  | cons a as ih =>
    simp only [List.cons_append, run]
    cases o.step cfg a with
    | none => rfl
    | some o' => exact ih

theorem Outbox.run_cons {as : List MailAction} (h : o.run cfg (a :: as) = some o') :
    ∃ o₁, o.step cfg a = some o₁ ∧ o₁.run cfg as = some o' := Option.bind_eq_some_iff.1 h

theorem Outbox.run_invariant {I : Outbox → Prop} {as : List MailAction}
    (hstep : ∀ a ∈ as, ∀ o o', I o → Move o o' a → I o') (h₀ : I o) (h : o.run cfg as = some o') : I o' := by
  induction as generalizing o with
  | nil =>
    cases h
    exact h₀
  | cons a as ih =>
    obtain ⟨o₁, hs, hr⟩ := run_cons h
    exact ih (fun b hb => hstep b (List.mem_cons_of_mem _ hb)) (hstep a List.mem_cons_self o o₁ h₀ (step_cases hs)) hr

/-! ## Numbers -/

/-- The event that attempt `n` was started. -/
def startedEvent (n : Nat) (e : DeliveryEvent) : Bool := e.outcome == .started && e.attemptNumber == n

/-- Attempts are numbered and started once, and each has at most one worker. -/
structure Outbox.Counted (o : Outbox) : Prop where
  numbered : ∀ n, o.notice.attemptCount < n → o.notice.events.countP (startedEvent n) = 0
  once : ∀ n, o.notice.events.countP (startedEvent n) ≤ 1
  claimed : ∀ n ∈ o.workers, n ≤ o.notice.attemptCount
  single : o.workers.Nodup

theorem countP_concat_other {events : List DeliveryEvent} {e : DeliveryEvent} (h : e.outcome ≠ .started) (n : Nat) :
    (events ++ [e]).countP (startedEvent n) = events.countP (startedEvent n) := by
  rw [List.countP_append, List.countP_singleton, startedEvent]
  simp [h]

theorem Outbox.Initial.counted (h : o.Initial) : o.Counted := by
  have hnone : ∀ n, o.notice.events.countP (startedEvent n) = 0 := by
    intro n
    rw [List.countP_eq_zero]
    intro e he
    simp [startedEvent, h.unstarted e he]
  refine ⟨fun n _ => hnone n, fun n => ?_, ?_, ?_⟩
  · rw [hnone]
    omega
  · simp [h.idle]
  · simp [h.idle]

theorem Outbox.Counted.of_same (h : o.Counted) (hcount : o'.notice.attemptCount = o.notice.attemptCount)
    (hevents : ∀ n, o'.notice.events.countP (startedEvent n) = o.notice.events.countP (startedEvent n))
    (hworkers : o'.workers.Sublist o.workers) : o'.Counted := by
  refine ⟨fun n hn => ?_, fun n => ?_, fun n hn => ?_, hworkers.nodup h.single⟩
  · rw [hevents]
    exact h.numbered n (hcount ▸ hn)
  · rw [hevents]
    exact h.once n
  · rw [hcount]
    exact h.claimed n (hworkers.subset hn)

theorem Move.counted (h : o.Counted) (hm : Move o o' a) : o'.Counted := by
  cases hm with
  | started user context now e hstatus hstatus' hcount hevents houtcome hnumber hworkers =>
    have hsame : ∀ n, n ≠ o.notice.attemptCount + 1 →
        o'.notice.events.countP (startedEvent n) = o.notice.events.countP (startedEvent n) := by
      intro n hn
      rw [hevents, List.countP_append, List.countP_singleton, startedEvent, houtcome, hnumber]
      simp [Ne.symm hn]
    refine ⟨fun n hn => ?_, fun n => ?_, fun n hn => ?_, ?_⟩
    · rw [hsame n (by omega)]
      exact h.numbered n (by omega)
    · by_cases hn : n = o.notice.attemptCount + 1
      · have hzero := h.numbered n (by omega)
        rw [hevents, List.countP_append, hzero, List.countP_singleton]
        split <;> omega
      · rw [hsame n hn]
        exact h.once n
    · rw [hworkers] at hn
      rcases List.mem_cons.1 hn with rfl | hn
      · omega
      · have := h.claimed n hn
        omega
    · rw [hworkers, List.nodup_cons]
      refine ⟨fun hmem => ?_, h.single⟩
      have := h.claimed _ hmem
      omega
  | refused user context now e hstatus hstatus' hcount hevents houtcome hworkers =>
    refine ⟨fun n hn => ?_, fun n => ?_, fun n hn => ?_, hworkers ▸ h.single⟩
    · rw [hevents, countP_concat_other houtcome]
      exact h.numbered n (by omega)
    · rw [hevents, countP_concat_other houtcome]
      exact h.once n
    · rw [hworkers] at hn
      have := h.claimed n hn
      omega
  | died attempt hmem ho' =>
    subst ho'
    exact h.of_same rfl (fun _ => rfl) List.erase_sublist
  | late attempt result now e hmem hlate houtcome ho' =>
    subst ho'
    exact h.of_same rfl (countP_concat_other houtcome) List.erase_sublist
  | finished result now e hmem hstatus hcount hsent hunknown hevents houtcome hworkers =>
    refine h.of_same hcount (fun n => ?_) (hworkers ▸ List.erase_sublist)
    rw [hevents, countP_concat_other houtcome]
  | recovered now e hstatus hstatus' hcount hevents houtcome hworkers =>
    refine h.of_same hcount (fun n => ?_) (hworkers ▸ .refl _)
    rw [hevents, countP_concat_other houtcome]
  | retried a hretry hstatus hstaff hnotice hworkers =>
    obtain ⟨es, hes, hqueued⟩ := hnotice.events
    refine h.of_same hnotice.count (fun n => ?_) (hworkers ▸ .refl _)
    have hzero : es.countP (startedEvent n) = 0 := by
      rw [List.countP_eq_zero]
      intro e he
      simp [startedEvent, hqueued e he]
    rw [hes, List.countP_append, hzero]
    omega
  | reported data hstatus hstaff hstatus' hcount hevents hnew hworkers =>
    exact h.of_same hcount (fun n => by rw [hevents]) (hworkers ▸ .refl _)
  | idle a ho' ha => exact ho' ▸ h

/-! ## Attempts -/

/-- Attempt `n` is the current one, and its email may have gone out. -/
def Outbox.Held (n : Nat) (o : Outbox) : Prop :=
  o.notice.attemptCount = n ∧ o.notice.deliveryStatus ∈ [.sending, .unknown, .sent, .failureReported]

theorem Move.held {n : Nat} (h : o.Held n) (hm : Move o o' a) (hstaff : ¬ (a.isRetry = true ∧ a.byStaff = true))
    (hreport : ∀ result now, a = .finish n result now → result.outcome = .accepted ∨ result.outcome = .unknown) :
    o'.Held n := by
  obtain ⟨rfl, hheld⟩ := h
  cases hm with
  | started user context now e hstatus => simp [hstatus] at hheld
  | refused user context now e hstatus => simp [hstatus] at hheld
  | died attempt hmem ho' => exact ho' ▸ ⟨rfl, hheld⟩
  | late attempt result now e hmem hlate houtcome ho' => exact ho' ▸ ⟨rfl, hheld⟩
  | finished result now e hmem hstatus hcount hsent hunknown =>
    refine ⟨hcount, ?_⟩
    rcases hreport result now rfl with hr | hr
    · simp [hsent hr]
    · simp [hunknown hr]
  | recovered now e hstatus hstatus' hcount => exact ⟨hcount, by simp [hstatus']⟩
  | retried a hretry hstatus hallowed =>
    rcases hallowed with hallowed | hallowed
    · refine absurd hheld ?_
      revert hstatus hallowed
      cases o.notice.deliveryStatus <;> simp
    · exact absurd ⟨hretry, hallowed⟩ hstaff
  | reported data hstatus hs hstatus' hcount => exact ⟨hcount, by simp [hstatus']⟩
  | idle a ho' ha =>
    rw [ho']
    exact ⟨rfl, hheld⟩

/-- Nothing that the worker of attempt `n` reports changes the notice any more. -/
def Outbox.Past (n : Nat) (o : Outbox) : Prop :=
  n < o.notice.attemptCount ∨
    (n = o.notice.attemptCount ∧ o.notice.deliveryStatus ≠ .sending ∧ o.notice.deliveryStatus ≠ .unknown)

theorem Move.past {n : Nat} (h : o.Past n) (hm : Move o o' a) : o'.Past n := by
  cases hm with
  | started user context now e hstatus hstatus' hcount =>
    left
    rcases h with h | h <;> omega
  | refused user context now e hstatus hstatus' hcount =>
    left
    rcases h with h | h <;> omega
  | died attempt hmem ho' => exact ho' ▸ h
  | late attempt result now e hmem hlate houtcome ho' => exact ho' ▸ h
  | finished result now e hmem hstatus hcount =>
    rcases h with h | ⟨_, h₁, h₂⟩
    · exact .inl (hcount ▸ h)
    · exact absurd hstatus (not_or.2 ⟨h₁, h₂⟩)
  | recovered now e hstatus hstatus' hcount =>
    rcases h with h | ⟨_, h₁, _⟩
    · exact .inl (hcount ▸ h)
    · exact absurd hstatus h₁
  | retried a hretry hstatus hallowed hnotice =>
    rcases h with h | ⟨h, _⟩
    · exact .inl (hnotice.count ▸ h)
    · refine .inr ⟨h.trans hnotice.count.symm, ?_⟩
      rcases hnotice.status with hs | hs | hs <;> simp [hs]
  | reported data hstatus hs hstatus' hcount =>
    rcases h with h | ⟨h, _⟩
    · exact .inl (hcount ▸ h)
    · exact .inr ⟨h.trans hcount.symm, by simp [hstatus']⟩
  | idle a ho' ha => exact ho' ▸ h

/-! ## The law -/

/-- The operation starts attempt `n`. -/
def Outbox.Starts (cfg : Settings) (n : Nat) (o : Outbox) (a : MailAction) (o' : Outbox) : Prop :=
  o.step cfg a = some o' ∧ (∃ user context now, a = .claim user context now) ∧
    o'.notice.deliveryStatus = .sending ∧ o'.notice.attemptCount = n

/-- After attempt `n` was claimed, the notice was queued again by a request, or its failure was reported. -/
def Outbox.Superseded (cfg : Settings) (n : Nat) (o : Outbox) (as : List MailAction) : Prop :=
  ∃ l a l' o₁ o₂, as = l ++ a :: l' ∧ o.run cfg l = some o₁ ∧ o₁.step cfg a = some o₂ ∧ n ≤ o₁.notice.attemptCount ∧
    (a.isRetry = true ∨ (∃ data, a = .report data) ∧ o₂.events ≠ o₁.events)

theorem Outbox.Superseded.past {n : Nat} {as : List MailAction} (h : o.Superseded cfg n as)
    (hrun : o.run cfg as = some o') : o'.Past n := by
  obtain ⟨l, a, l', o₁, o₂, rfl, hl, ha, hn, hwhy⟩ := h
  rw [run_append, hl] at hrun
  obtain ⟨_, ha', hrun⟩ := run_cons hrun
  cases ha.symm.trans ha'
  refine run_invariant (I := Past n) (fun a _ o o' h hm => hm.past h) ?_ hrun
  have hcount : ∀ c, c = o₁.notice.attemptCount → n < c ∨ n = c := by
    rintro c rfl
    omega
  cases step_cases ha with
  | retried a hretry hstatus hallowed hnotice =>
    refine (hcount _ hnotice.count).imp_right fun h => ⟨h, ?_⟩
    rcases hnotice.status with hs | hs | hs <;> simp [hs]
  | reported data hstatus hs hstatus' hc =>
    exact (hcount _ hc).imp_right fun h => ⟨h, by simp [hstatus']⟩
  | idle a ho' ha' =>
    rcases hwhy with hretry | ⟨_, hne⟩
    · simp [hretry] at ha'
    · exact absurd (congrArg Outbox.events ho') hne
  | started | refused | died | late | finished | recovered =>
    rcases hwhy with hretry | ⟨⟨data, hdata⟩, _⟩
    · cases hretry
    · cases hdata

/-- **Mail delivery.** Along any sequence of operations: every attempt is started at most once; after an attempt that no
worker reported as failed, the next one starts only after a retry by the staff; a worker that reports late only adds to
the history; and what was sent stays so unless the staff reports a failure. -/
theorem Outbox.delivery {o₀ : Outbox} (h₀ : o₀.Initial) :
    (∀ as o, o₀.run cfg as = some o → ∀ n, o.notice.events.countP (startedEvent n) ≤ 1) ∧
    (∀ as o₁ a₁ i o₂ bs o₃ a₂ j o₄, o₀.run cfg as = some o₁ → Starts cfg i o₁ a₁ o₂ → o₂.run cfg bs = some o₃ →
      Starts cfg j o₃ a₂ o₄ →
      (∀ result now, .finish i result now ∈ bs → result.outcome = .accepted ∨ result.outcome = .unknown) →
      ∃ b ∈ bs, b.isRetry = true ∧ b.byStaff = true) ∧
    (∀ as o n result now o', o₀.run cfg as = some o → o.step cfg (.finish n result now) = some o' →
      n ≠ o.notice.attemptCount ∨ o₀.Superseded cfg n as →
      o' = { o with
        notice := { o.notice with events := o.notice.events ++ [result.event n now] }
        workers := o.workers.erase n }) ∧
    ∀ as o a o', o₀.run cfg as = some o → o.step cfg a = some o' → o.notice.deliveryStatus = .sent →
      o'.notice.deliveryStatus ≠ .sent → ∃ data, a = .report data ∧ a.byStaff = true := by
  refine ⟨?_, ?_, ?_, ?_⟩
  · intro as o hrun
    exact (run_invariant (fun a _ o o' h hm => hm.counted h) h₀.counted hrun).once
  · rintro as o₁ a₁ i o₂ bs o₃ a₂ j o₄ _ ⟨_, _, hsending, hcount⟩ hrun ⟨hstep, ⟨user, context, now, rfl⟩, _⟩ hreport
    by_contra hno
    have hheld : o₃.Held i := by
      refine run_invariant (fun a ha o o' h hm => hm.held h (fun hs => hno ⟨a, ha, hs⟩) ?_) ?_ hrun
      · rintro result now rfl
        exact hreport result now ha
      · exact ⟨hcount, by simp [hsending]⟩
    obtain ⟨_, hheld⟩ := hheld
    simp only [step, Option.ite_none_right_eq_some] at hstep
    rw [Notice.isDue_pending hstep.1] at hheld
    simp at hheld
  · intro as o n result now o' hrun hstep hwhy
    have hlate : o.notice.attemptCount ≠ n ∨
        (o.notice.deliveryStatus ≠ .sending ∧ o.notice.deliveryStatus ≠ .unknown) := by
      rcases hwhy with hne | hsuper
      · exact .inl (Ne.symm hne)
      · rcases hsuper.past hrun with hlt | ⟨_, hstatus⟩
        · exact .inl (Nat.ne_of_gt hlt)
        · exact .inr hstatus
    simp only [step, Option.ite_none_right_eq_some, Option.some.injEq] at hstep
    rw [← hstep.2, finishAttempt, if_pos hlate]
    rfl
  · intro as o a o' _ hstep hsent hne
    cases step_cases hstep with
    | started _ _ _ _ hstatus | refused _ _ _ _ hstatus => simp [hsent] at hstatus
    | recovered _ _ hstatus => simp [hsent] at hstatus
    | finished _ _ _ _ hstatus => simp [hsent] at hstatus
    | retried _ _ hstatus => simp [hsent] at hstatus
    | reported data _ hstaff => exact ⟨data, rfl, hstaff⟩
    | died _ _ ho' => exact absurd (ho' ▸ hsent) hne
    | late _ _ _ _ _ _ _ ho' => exact absurd (ho' ▸ hsent) hne
    | idle _ ho' => exact absurd (ho' ▸ hsent) hne

section Interrupted

def mailFiler : User where
  email := "ann@example.com"
  verifiedEmail := some "ann@example.com"
  firstName := "Ann"
  lastName := "Filer"
  userType := .attorney

def mailClerk : Account where
  user := { mailFiler with email := "carl@example.com", verifiedEmail := none, firstName := "Carl", userType := .clerk }
  roles := [(1, .clerk)]

def queuedOutbox : Outbox where
  notice := {
    id := 1
    noticeType := .filingAccepted
    recipientId := 1
    filingEnvelopeId := some 1
    deliveryStatus := .pending
    emailRecipient := some "ann@example.com"
    emailMessageId := some 7
    nextAttemptAt := some 0 }

def clerkRetry : NoticeRetry where
  userId := 2
  account := mailClerk
  courtId := some 1
  reason := "The relay has no record of the message"
  recipient := some mailFiler
  now := 900000000
  messageId := 8

def mailSettings : Settings := { Settings.demo with emailDeliveryEnabled := true }

/-- The worker of the first attempt stops; the second attempt starts after the staff's retry. -/
theorem Outbox.delivery_interrupted : ∃ o₁ o₂ o₃,
    Starts mailSettings 1 queuedOutbox (.claim (some mailFiler) none 0) o₁ ∧
    o₁.run mailSettings [.die 1, .recover 600000000, .retry clerkRetry] = some o₂ ∧
    Starts mailSettings 2 o₂ (.claim (some mailFiler) none 900000000) o₃ ∧
    ∃ b ∈ [MailAction.die 1, .recover 600000000, .retry clerkRetry], b.isRetry = true ∧ b.byStaff = true := by
  obtain ⟨o₁, o₂, o₃, h₁, h₂, h₃⟩ : ∃ o₁ o₂ o₃,
      Starts mailSettings 1 queuedOutbox (.claim (some mailFiler) none 0) o₁ ∧
      o₁.run mailSettings [.die 1, .recover 600000000, .retry clerkRetry] = some o₂ ∧
      Starts mailSettings 2 o₂ (.claim (some mailFiler) none 900000000) o₃ :=
    ⟨_, _, _, ⟨rfl, ⟨_, _, _, rfl⟩, rfl, rfl⟩, rfl, ⟨rfl, ⟨_, _, _, rfl⟩, rfl, rfl⟩⟩
  refine ⟨o₁, o₂, o₃, h₁, h₂, h₃, ?_⟩
  have h₀ : queuedOutbox.Initial := ⟨by simp [queuedOutbox], rfl⟩
  refine (Outbox.delivery h₀).2.1 [] _ _ 1 _ _ _ _ 2 _ rfl h₁ h₂ h₃ fun result now hmem => ?_
  simp at hmem

end Interrupted

end Muefs
