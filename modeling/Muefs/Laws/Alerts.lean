import Muefs.Deliveries.Packets
import Muefs.Laws.Outbox

/-!
# The history of a delivery

* `Notice.Tracked`, `BothRun.tracked` : attempts are numbered and nothing is stuck, and there is one
  acknowledgment at most;
* `PartyTo`, `Concerned` : whom a delivery concerns, by what his request read: staff of the case's court, its sender as
  filer, its recipient while he takes part;
* `EventBy`, `DeliveryHistory`, `BothRun.delivery_history` : the law: the commit that wrote each event, and
  that events stay.
-/

namespace Muefs
open RowLocks

variable {cfg : Settings} {w₀ w w' : BothWorld}

/-! ## Notices -/

/-- What a notice keeps: it is sound, an email that may be on its way was claimed, and it is acknowledged once. -/
structure Notice.Tracked (notice : Notice) : Prop where
  sound : notice.Sound
  claimed : notice.deliveryStatus = .sending ∨ notice.deliveryStatus = .unknown → 0 < notice.attemptCount
  acknowledged : (notice.serviceEvents.filter ServiceEvent.isAcknowledgment).length ≤ 1

theorem Notice.Tracked.withEvents {notice : Notice} (h : notice.Tracked) (events : List ServiceEvent)
    (hevents : (events.filter ServiceEvent.isAcknowledgment).length ≤ 1) :
    Notice.Tracked { notice with serviceEvents := events } where
  sound := ⟨h.sound.due, h.sound.attempted, h.sound.prepared, h.sound.history⟩
  claimed := h.claimed
  acknowledged := hevents

theorem filter_acknowledgment_concat {events : List ServiceEvent} {e : ServiceEvent} (he : e.isAcknowledgment = false) :
    (events ++ [e]).filter ServiceEvent.isAcknowledgment = events.filter ServiceEvent.isAcknowledgment := by
  simp [List.filter_append, he]

theorem queueEmail_idle {notice notice' : Notice} {context : Option String} {user : Option User} {time : Instant}
    {messageId : Nat} {actorId : Option UserId} {reason : Option String}
    (h : queueEmail cfg notice context user time messageId actorId reason = .ok notice') :
    notice'.deliveryStatus ≠ .sending ∧ notice'.deliveryStatus ≠ .unknown := by
  unfold queueEmail at h
  split at h
  · cases h
    simp
  · split at h
    · cases h
    · split at h
      · cases h
        simp
      · split at h <;> cases h <;> simp

theorem queueEmail_tracked {notice notice' : Notice} {context : Option String} {user : Option User} {time : Instant}
    {messageId : Nat} {actorId : Option UserId} {reason : Option String} (h : notice.Tracked)
    (hqueue : queueEmail cfg notice context user time messageId actorId reason = .ok notice') : notice'.Tracked where
  sound := queueEmail_sound h.sound hqueue
  claimed hs := by
    obtain ⟨hsending, hunknown⟩ := queueEmail_idle hqueue
    exact absurd hs (by simp [hsending, hunknown])
  acknowledged := by
    rw [(queueEmail_steady hqueue).2]
    exact h.acknowledged

theorem tracked_new {notice : Notice} (hstatus : notice.deliveryStatus = .disabled) (hcount : notice.attemptCount = 0)
    (hevents : notice.events = []) (hservice : notice.serviceEvents = []) : notice.Tracked where
  sound := {
    due := fun hs => absurd (hstatus.symm.trans hs) (by decide)
    attempted := fun hs => absurd (hstatus.symm.trans hs) (by decide)
    prepared := by
      rintro (hs | hs)
      · exact absurd (hstatus.symm.trans hs) (by decide)
      · omega
    history := by
      rw [hcount, hevents]
      exact .none (by simp) }
  claimed := by
    rintro (hs | hs)
    · exact absurd (hstatus.symm.trans hs) (by decide)
    · exact absurd (hstatus.symm.trans hs) (by decide)
  acknowledged := by simp [hservice]

theorem claimEmail_tracked {notice : Notice} {user : Option User} {context : Option String} {time : Instant}
    (h : notice.Tracked) (hdue : notice.isDue time = true) : (claimEmail cfg notice user context time).Tracked where
  sound := claimEmail_sound h.sound (Notice.isDue_pending hdue)
  claimed _ := by
    obtain ⟨_, hcount, _⟩ := claimEmail_spec cfg notice user context time
    omega
  acknowledged := by
    obtain ⟨_, _, _, _, hevents⟩ := claimEmail_kept cfg notice user context time
    rw [hevents]
    exact h.acknowledged

theorem finishAttempt_tracked {notice : Notice} {attempt : Nat} {result : SendResult} {time : Instant}
    (h : notice.Tracked) : (finishAttempt notice attempt result time).Tracked := by
  obtain ⟨_, _, hevents⟩ := finishAttempt_kept notice attempt result time
  suffices hsound : (finishAttempt notice attempt result time).Sound ∧
      ((finishAttempt notice attempt result time).deliveryStatus = .sending ∨
        (finishAttempt notice attempt result time).deliveryStatus = .unknown →
        0 < (finishAttempt notice attempt result time).attemptCount) from
    ⟨hsound.1, hsound.2, hevents ▸ h.acknowledged⟩
  obtain ⟨hclaim, houtcome⟩ := result.event_report attempt time
  have hlog := h.sound.log hclaim houtcome
  unfold finishAttempt
  dsimp only
  by_cases hlate : notice.attemptCount ≠ attempt ∨ (notice.deliveryStatus ≠ .sending ∧ notice.deliveryStatus ≠ .unknown)
  · rw [if_pos hlate]
    exact ⟨hlog, h.claimed⟩
  · rw [if_neg hlate]
    have hcount : 0 < notice.attemptCount := h.claimed (by
      by_contra hother
      exact hlate (.inr (not_or.1 hother)))
    refine ⟨result.settle_sound hlog hcount, fun _ => ?_⟩
    rw [(result.settle_kept _ time).1]
    exact hcount

theorem recoverInterrupted_tracked {notice : Notice} {time : Instant} (h : notice.Tracked) :
    (recoverInterrupted notice time).Tracked := by
  obtain ⟨_, _, hevents⟩ := recoverInterrupted_kept notice time
  refine ⟨recoverInterrupted_sound h.sound, ?_, hevents ▸ h.acknowledged⟩
  unfold recoverInterrupted
  split
  · rename_i hstuck
    exact fun _ => h.claimed (.inl hstuck.1)
  · exact h.claimed

theorem reportDeliveryFailure_tracked {notice notice' : Notice} {events : List ServiceEvent} {report : FailureReport}
    {event : ServiceEvent} (h : notice.Tracked)
    (hreport : reportDeliveryFailure cfg notice events report = .ok (notice', some event)) : notice'.Sound ∧
      (notice'.deliveryStatus = .sending ∨ notice'.deliveryStatus = .unknown → 0 < notice'.attemptCount) := by
  obtain ⟨hsound, hcases⟩ := reportDeliveryFailure_sound h.sound hreport
  refine ⟨hsound, ?_⟩
  rcases hcases with hsame | hstatus
  · change notice' = notice at hsame
    rw [hsame]
    exact h.claimed
  · change notice'.deliveryStatus = .failureReported at hstatus
    rw [hstatus]
    simp

/-- **Every change of a notice keeps it tracked.** -/
theorem MailStep.tracked {r : ServiceRequest} {db db' : BothStore} {tr : BothTrace} {id : NoticeId} {notice' : Notice}
    (h : MailStep cfg r db db' tr id notice') (hI : ∀ notice, db (.inr (.notice id)) = some notice → notice.Tracked) :
    notice'.Tracked := by
  cases h with
  | sent _ _ _ _ packet rcp _ _ _ _ _ _ _ hnotice =>
    obtain ⟨_, _, _, _, _, hqueue, _⟩ := hnotice
    exact queueEmail_tracked (tracked_new rfl rfl rfl rfl) hqueue
  | alerted _ _ _ _ _ _ _ _ hqueue => exact queueEmail_tracked (tracked_new rfl rfl rfl rfl) hqueue
  | acknowledged userId _ notice _ _ _ _ _ _ hdb _ _ _ hfirst =>
    refine (hI notice hdb).withEvents _ ?_
    have hnone : notice.serviceEvents.filter ServiceEvent.isAcknowledgment = [] := by
      rw [List.filter_eq_nil_iff]
      exact fun e he => by simpa using List.any_eq_false.1 hfirst e he
    rw [List.filter_append, hnone, List.nil_append]
    exact List.length_filter_le _ _
  | requeued userId _ _ _ notice queued _ _ _ _ _ _ reason hdb _ _ _ _ hqueue =>
    refine (queueEmail_tracked (hI notice hdb) hqueue).withEvents _ ?_
    rw [filter_acknowledgment_concat rfl]
    exact (hI notice hdb).acknowledged
  | claimed notice _ _ _ _ hdb hdue => exact claimEmail_tracked (hI notice hdb) hdue
  | finished notice attempt result time hdb => exact finishAttempt_tracked (hI notice hdb)
  | recovered notice time hdb => exact recoverInterrupted_tracked (hI notice hdb)
  | reported _ _ _ _ _ _ _ notice notice₁ report event hdb _ _ _ _ _ hreport =>
    obtain ⟨hsound, hclaimed⟩ := reportDeliveryFailure_tracked (hI notice hdb) hreport
    obtain ⟨_, _, hother⟩ := reportDeliveryFailure_kept hreport
    refine ⟨⟨hsound.due, hsound.attempted, hsound.prepared, hsound.history⟩, hclaimed, ?_⟩
    rw [filter_acknowledgment_concat hother]
    exact (hI notice hdb).acknowledged

theorem BothRun.tracked (h : BothRun cfg w₀ w) (id : NoticeId) :
    ∀ notice, w.db (.inr (.notice id)) = some notice → notice.Tracked := by
  refine BothRun.row_since (g := .notice id) (I := fun v => ∀ notice, v = some notice → notice.Tracked)
    ⟨h.start, .refl⟩ ?_ ?_ h.steps
  · intro notice hnotice
    exact absurd ((h.start.notice id).symm.trans hnotice) (by simp)
  · intro w₁ sid s a _ _ _ hI hstep notice hnotice
    obtain ⟨notice', hv, hmail⟩ := hstep
    cases hv.symm.trans hnotice
    exact hmail.tracked hI

/-! ## What stays -/

/-- The history of a notice only grows. -/
structure Notice.Extends (notice notice' : Notice) : Prop where
  events : notice.events <+: notice'.events
  serviceEvents : notice.serviceEvents <+: notice'.serviceEvents

theorem Notice.Extends.trans {n₁ n₂ n₃ : Notice} (h : n₁.Extends n₂) (h' : n₂.Extends n₃) : n₁.Extends n₃ :=
  ⟨h.events.trans h'.events, h.serviceEvents.trans h'.serviceEvents⟩

theorem queueEmail_extends {notice notice' : Notice} {context : Option String} {user : Option User} {time : Instant}
    {messageId : Nat} {actorId : Option UserId} {reason : Option String}
    (h : queueEmail cfg notice context user time messageId actorId reason = .ok notice') :
    notice.events <+: notice'.events := by
  unfold queueEmail at h
  split at h
  · cases h
    exact List.prefix_rfl
  · split at h
    · cases h
    · split at h
      · cases h
        exact List.prefix_rfl
      · split at h
        · cases h
          exact List.prefix_rfl
        · cases h
          exact List.prefix_append _ _

theorem finishAttempt_extends (notice : Notice) (attempt : Nat) (result : SendResult) (time : Instant) :
    notice.events <+: (finishAttempt notice attempt result time).events := by
  have hlog : notice.events <+: (notice.log (result.event attempt time)).events := List.prefix_append _ _
  unfold finishAttempt
  dsimp only
  split
  · exact hlog
  · rw [(result.settle_kept _ time).2]
    exact hlog

theorem recoverInterrupted_extends (notice : Notice) (time : Instant) :
    notice.events <+: (recoverInterrupted notice time).events := by
  unfold recoverInterrupted
  split
  · exact List.prefix_append _ _
  · exact List.prefix_rfl

theorem reportDeliveryFailure_events {notice notice' : Notice} {events : List ServiceEvent} {report : FailureReport}
    {event : ServiceEvent} (h : reportDeliveryFailure cfg notice events report = .ok (notice', some event)) :
    notice'.events = notice.events ∧ report.account.isCourtStaff report.delivery.courtId = true ∧
      ∃ sha status email, event = .failureReported report.actorId report.key sha status email := by
  unfold reportDeliveryFailure at h
  simp only [except_bind_ok, check_ok] at h
  obtain ⟨_, _, staff, hviewer, _, hstaff, h⟩ := h
  have hcourt : staff = report.account.isCourtStaff report.delivery.courtId := by
    simp only [requireDeliveryViewer, except_bind_ok, check_ok] at hviewer
    obtain ⟨_, _, _, _, _, _, hok⟩ := hviewer
    exact (Except.ok.inj hok).symm
  rw [← hcourt]
  cases hprevious : previousReport events report.key with
  | some sha =>
    simp only [hprevious, except_bind_ok, check_ok] at h
    obtain ⟨_, _, hok⟩ := h
    cases hok
  | none =>
    simp only [hprevious, except_bind_ok, check_ok] at h
    obtain ⟨_, _, _, _, _, _, _, _, hok⟩ := h
    cases hok
    exact ⟨rfl, hstaff, _, _, _, rfl⟩

/-- The service event that a request adds to a notice, if any. -/
inductive Adds (r : ServiceRequest) (db : BothStore) (tr : BothTrace) (id : NoticeId) : Option ServiceEvent → Prop where
  | nothing : Adds r db tr id none
  | acknowledged (userId : UserId) (deliveryId : DeliveryId) (packet : ServicePacket) (rcp : ServiceRecipient)
      (account : Account) (delivery : Delivery) (staff : Bool) (hr : r = .acknowledgeDelivery userId deliveryId)
      (hentered : Entered db tr userId deliveryId packet rcp account delivery staff) (hid : rcp.notificationId = id)
      (huser : rcp.recipientId = userId) : Adds r db tr id (some (.acknowledged userId))
  | retryRequested (userId : UserId) (deliveryId : DeliveryId) (packet : ServicePacket) (rcp : ServiceRecipient)
      (account : Account) (delivery : Delivery) (staff : Bool) (reason : String)
      (hr : r = .retryDeliveryAlert userId deliveryId reason)
      (hentered : Entered db tr userId deliveryId packet rcp account delivery staff) (hid : rcp.notificationId = id)
      (hmay : userId = delivery.senderId ∨ staff = true) : Adds r db tr id (some (.retryRequested userId reason))
  | failureReported (userId : UserId) (deliveryId : DeliveryId) (packet : ServicePacket) (rcp : ServiceRecipient)
      (account : Account) (delivery : Delivery) (staff : Bool) (key : Uuid) (data : ServiceFailureReport)
      (sha : Digest ServiceFailureReport) (status : DeliveryStatus) (email : Option String)
      (hr : r = .recordDeliveryFailure userId deliveryId key data)
      (hentered : Entered db tr userId deliveryId packet rcp account delivery staff) (hid : rcp.notificationId = id)
      (hstaff : account.isCourtStaff delivery.courtId = true) :
      Adds r db tr id (some (.failureReported userId key sha status email))

theorem MailStep.extends {r : ServiceRequest} {db db' : BothStore} {tr : BothTrace} {id : NoticeId}
    {notice notice' : Notice} (h : MailStep cfg r db db' tr id notice') (hdb : db (.inr (.notice id)) = some notice)
    (hold : ⟨.fresh, id⟩ ∉ tr) : notice.events <+: notice'.events ∧
      ∃ e, notice'.serviceEvents = notice.serviceEvents ++ e.toList ∧ Adds r db tr id e := by
  cases h with
  | sent _ _ _ _ _ _ _ _ _ _ _ _ hnew => exact absurd hnew hold
  | alerted _ _ _ _ _ _ _ hnew => exact absurd hnew hold
  | acknowledged userId deliveryId notice₀ packet rcp account delivery staff hr hdb₀ hentered hid huser =>
    cases hdb.symm.trans hdb₀
    refine ⟨List.prefix_rfl, some _, rfl, ?_⟩
    exact .acknowledged userId deliveryId packet rcp account delivery staff hr hentered hid huser
  | requeued userId deliveryId packet rcp notice₀ queued account delivery staff _ _ _ reason hdb₀ hentered hid hretry _
      hqueue hr =>
    cases hdb.symm.trans hdb₀
    have hevents := queueEmail_extends hqueue
    refine ⟨hevents, some _, rfl, ?_⟩
    simp only [requireRetry, except_bind_ok, check_ok] at hretry
    obtain ⟨_, hmay, _⟩ := hretry
    exact .retryRequested userId deliveryId packet rcp account delivery staff reason hr hentered hid hmay
  | claimed _ account seen time _ hdb₀ =>
    cases hdb.symm.trans hdb₀
    obtain ⟨_, _, hevents, _⟩ := claimEmail_spec cfg notice (account.map Account.user) (emailContext cfg seen id) time
    obtain ⟨_, _, _, _, hservice⟩ :=
      claimEmail_kept cfg notice (account.map Account.user) (emailContext cfg seen id) time
    exact ⟨hevents ▸ List.prefix_append _ _, none, by simpa using hservice, .nothing⟩
  | finished _ attempt result time hdb₀ =>
    cases hdb.symm.trans hdb₀
    exact ⟨finishAttempt_extends notice attempt result time, none,
      by simpa using (finishAttempt_kept notice attempt result time).2.2, .nothing⟩
  | recovered _ time hdb₀ =>
    cases hdb.symm.trans hdb₀
    exact ⟨recoverInterrupted_extends notice time, none, by simpa using (recoverInterrupted_kept notice time).2.2,
      .nothing⟩
  | reported userId deliveryId packet rcp account delivery staff notice₀ notice₁ report event hdb₀ hentered hid hactor
      haccount hdelivery hreport hr =>
    cases hdb.symm.trans hdb₀
    obtain ⟨hevents, hstaff, sha, status, email, rfl⟩ := reportDeliveryFailure_events hreport
    rw [haccount, hdelivery] at hstaff
    refine ⟨hevents ▸ List.prefix_rfl, some _, rfl, ?_⟩
    rw [hactor]
    exact .failureReported userId deliveryId packet rcp account delivery staff _ _ sha status email hr
      hentered hid hstaff

theorem BothRun.notice_since (h : BothRun cfg w₀ w) (hs : Steps (bothPortal cfg) w w') {id : NoticeId} {notice : Notice}
    (hnotice : w.db (.inr (.notice id)) = some notice) :
    ∃ notice', w'.db (.inr (.notice id)) = some notice' ∧ notice.Extends notice' := by
  refine h.row_since (g := .notice id) (I := fun v => ∃ notice', v = some notice' ∧ notice.Extends notice')
    ⟨notice, hnotice, List.prefix_rfl, List.prefix_rfl⟩ ?_ hs
  intro w₁ sid s a hrun _ hc hI _
  obtain ⟨notice₁, hnotice₁, hextends⟩ := hI
  obtain ⟨hold, hsame | ⟨notice₂, hnotice₂, hstep⟩⟩ := hrun.notice_step hc hnotice₁
  · exact ⟨notice₁, hsame, hextends⟩
  · obtain ⟨hevents, e, hservice, _⟩ := hstep.extends hnotice₁ hold
    exact ⟨notice₂, hnotice₂, hextends.trans ⟨hevents, hservice ▸ List.prefix_append _ _⟩⟩

/-! ## Whom a delivery concerns -/

section Concerned
variable (cfg : Settings) (w₀ made : BothWorld) (sid : Nat) (s : BothSession)

/-- What a session read of a name before it commits in `made`. -/
def Looked (g : BothRow) (v : BothView g) : Prop :=
  ∃ read, AnsweredIn (bothPortal cfg) w₀ made sid s ⟨.look g, v⟩ read

variable (packet : ServicePacket) (rcp : ServiceRecipient) (userId : UserId)

/-- Staff of the court of the packet's case, as the session read the account and the case. -/
def StaffRead : Prop :=
  ∃ (account : Account) (case : CaseFile), Looked cfg w₀ made sid s (.inl (.user userId)) (some account) ∧
    Looked cfg w₀ made sid s (.inl (.case packet.caseId)) (some case) ∧ account.isCourtStaff case.row.courtId = true

/-- The recipient takes part in the case and may read it, as the session read them. -/
def ReaderRead (actor : Account) : Prop :=
  ∃ (case : CaseFile) (p : CaseParticipant) (read : BothWorld) (now : CaseFile),
    Looked cfg w₀ made sid s (.inl (.case packet.caseId)) (some case) ∧
    case.participants.find? (fun q => q.id == rcp.contactSnapshot.participantId) = some p ∧
    mayViewAsRecipient userId actor.user p = true ∧
    AnsweredIn (bothPortal cfg) w₀ made sid s ⟨.snapshot, read.db⟩ read ∧
    read.db (.inl (.case packet.caseId)) = some now ∧
    userMayReadCase userId { user := actor.user, roles := ((read.db (.inl (.user userId))).map Account.roles).getD [] }
    now =
      true

/-- **Whom a delivery concerns:** staff of the case's court, its sender as the filer, its recipient as a reader. -/
inductive PartyTo (actor : Account) : Prop where
  | staff (hstaff : StaffRead cfg w₀ made sid s packet userId)
  | sender (huser : userId = packet.actorId) (hfiler : ∃ file : FilingFile,
      Looked cfg w₀ made sid s (.inl (.envelope packet.filingId)) (some file) ∧ file.filing.filerId = userId)
  | recipient (huser : userId = rcp.recipientId) (hreader : ReaderRead cfg w₀ made sid s packet rcp userId actor)

/-- An active account that the delivery concerns, by what its session read before it commits in `made`. -/
def Concerned : Prop :=
  ∃ actor : Account, (Looked cfg w₀ made sid s (.inl (.user userId)) (some actor) ∨
      made.db (.inl (.user userId)) = some actor) ∧
    actor.user.isActive = true ∧ PartyTo cfg w₀ made sid s packet rcp userId actor

end Concerned

theorem requireDeliveryViewer_ok {userId : UserId} {account : Account} {delivery : Delivery} {staff : Bool}
    (h : requireDeliveryViewer userId account delivery = .ok staff) : staff = account.isCourtStaff delivery.courtId ∧
      (staff = true ∨ (userId = delivery.senderId ∧ delivery.filerId = userId) ∨
        (userId = delivery.recipientId ∧ delivery.recipientMayRead = true)) := by
  simp only [requireDeliveryViewer, except_bind_ok, check_ok] at h
  obtain ⟨_, _, _, hviewer, _, hreader, hok⟩ := h
  have hstaff : account.isCourtStaff delivery.courtId = staff := Except.ok.inj hok
  rw [hstaff] at hviewer hreader
  refine ⟨hstaff.symm, ?_⟩
  cases staff with
  | true => exact .inl rfl
  | false =>
    right
    simp only [Bool.false_or, Bool.and_eq_true, beq_iff_eq, Bool.false_eq_true, false_or] at hviewer hreader
    rcases hreader with hsender | hmay
    · exact .inl hsender
    · rcases hviewer with hsender | hrecipient
      · exact .inl hsender
      · exact .inr ⟨hrecipient, hmay⟩

theorem BothRun.reads (h : BothRun cfg w₀ w) {sid : Nat} {s : BothSession} (hs : w.sessions sid = some s) {g : BothRow}
    {v : BothView g} (hv : ⟨.look g, v⟩ ∈ s.trace) : Looked cfg w₀ w sid s g v :=
  h.steps.answered_at h.start.idle hs hv

theorem Entered.concerned {userId : UserId} {deliveryId : DeliveryId} {packet : ServicePacket} {rcp : ServiceRecipient}
    {account : Account} {delivery : Delivery} {staff : Bool} {sid : Nat} {s : BothSession} (h : BothRun cfg w₀ w)
    (hs : w.sessions sid = some s) (he : Entered w.db s.trace userId deliveryId packet rcp account delivery staff) :
    Concerned cfg w₀ w sid s packet rcp userId ∧ (staff = true → StaffRead cfg w₀ w sid s packet userId) := by
  obtain ⟨actor, hlook, hactive, hviewed⟩ := he.actor
  obtain ⟨hstaff, hstanding⟩ := requireDeliveryViewer_ok he.viewer
  have hread : staff = true → StaffRead cfg w₀ w sid s packet userId := by
    intro htrue
    obtain ⟨case, hcase, hcourt⟩ := hviewed.court
    obtain ⟨row, hrow, haccount⟩ := hviewed.account_eq
    rw [htrue, haccount, hcourt] at hstaff
    cases row with
    | none => cases hstaff
    | some found => exact ⟨found, case, h.reads hs hrow, h.reads hs hcase, hstaff.symm⟩
  refine ⟨⟨actor, hlook.imp_left (h.reads hs), hactive, ?_⟩, hread⟩
  rcases hstanding with htrue | ⟨hsender, hfiler⟩ | ⟨hrecipient, hmay⟩
  · exact .staff (hread htrue)
  · obtain ⟨row, hrow, hfilerId⟩ := hviewed.filer
    rw [hfiler] at hfilerId
    cases row with
    | none => exact absurd hfilerId (Nat.succ_ne_self userId).symm
    | some file => exact .sender (hsender.trans hviewed.senderId) ⟨file, h.reads hs hrow, hfilerId.symm⟩
  · obtain ⟨case, p, seen, now, hcase, hp, hview, hseen, hnow, hmayRead⟩ := hviewed.reader hmay
    obtain ⟨row, _, haccount⟩ := hviewed.account_eq
    obtain ⟨read, hread⟩ := h.steps.answered_at h.start.idle hs hseen
    obtain rfl := hread.snapshot
    rw [haccount] at hmayRead
    exact .recipient (hrecipient.trans hviewed.recipientId)
      ⟨case, p, read, now, h.reads hs hcase, hp, hview, hread, hnow, hmayRead⟩

theorem Entered.packet_eq {userId : UserId} {deliveryId : DeliveryId} {packet packet' : ServicePacket}
    {rcp rcp' : ServiceRecipient} {account : Account} {delivery : Delivery} {staff : Bool} {sid : Nat} {s : BothSession}
    (h : BothRun cfg w₀ w) (hs : w.sessions sid = some s)
    (he : Entered w.db s.trace userId deliveryId packet' rcp' account delivery staff) {id : PacketId}
    (hpacket : w.db (.inr (.packet id)) = some packet) (hrcp : rcp ∈ packet.recipients)
    (hid : rcp'.notificationId = rcp.notificationId) : packet' = packet ∧ rcp' = rcp := by
  obtain ⟨_, _, _, hviewed⟩ := he.actor
  obtain ⟨packetId, _, hlook⟩ := hviewed.looked
  obtain ⟨w₁, hrun₁, hs₁, hval⟩ := h.looked hs hlook
  exact h.recipient_eq hpacket hrcp (hrun₁.packet_kept hs₁ hval) hviewed.mem hid

/-! ## The law -/

/-- The request that writes an event of a delivery, and whose it is: the recipient acknowledges, the sender or staff of
the court ask for a retry, staff of the court report a failure. -/
def WrittenBy (cfg : Settings) (w₀ made : BothWorld) (sid : Nat) (s : BothSession) (packet : ServicePacket)
    (rcp : ServiceRecipient) : ServiceEvent → Prop
  | .acknowledged userId => s.request = .acknowledgeDelivery userId rcp.id ∧ userId = rcp.recipientId ∧
      Concerned cfg w₀ made sid s packet rcp userId
  | .retryRequested userId reason => s.request = .retryDeliveryAlert userId rcp.id reason ∧
      (userId = packet.actorId ∨ StaffRead cfg w₀ made sid s packet userId) ∧
      Concerned cfg w₀ made sid s packet rcp userId
  | .failureReported userId key _ _ _ => (∃ data, s.request = .recordDeliveryFailure userId rcp.id key data) ∧
      StaffRead cfg w₀ made sid s packet userId ∧ Concerned cfg w₀ made sid s packet rcp userId

/-- **The commit that wrote an event of a delivery.** -/
structure EventBy (cfg : Settings) (w₀ w : BothWorld) (packet : ServicePacket) (rcp : ServiceRecipient)
    (e : ServiceEvent)
    (made : BothWorld) (sid : Nat) (s : BothSession) (a : ServiceResponse) : Prop where
  run : BothRun cfg w₀ made
  commits : Commits (bothPortal cfg) made sid s a
  later : Steps (bothPortal cfg) (made.committed sid s a) w
  appended : ∃ notice notice', made.db (.inr (.notice rcp.notificationId)) = some notice ∧
    (made.committed sid s a).db (.inr (.notice rcp.notificationId)) = some notice' ∧
    notice'.serviceEvents = notice.serviceEvents ++ [e]
  written : WrittenBy cfg w₀ made sid s packet rcp e

theorem Adds.writtenBy {id : PacketId} {packet : ServicePacket} {rcp : ServiceRecipient} {e : ServiceEvent} {sid : Nat}
    {s : BothSession} (h : BothRun cfg w₀ w) (hs : w.sessions sid = some s)
    (hpacket : w.db (.inr (.packet id)) = some packet) (hrcp : rcp ∈ packet.recipients)
    (ha : Adds s.request w.db s.trace rcp.notificationId (some e)) : WrittenBy cfg w₀ w sid s packet rcp e := by
  cases ha with
  | acknowledged userId deliveryId packet' rcp' account delivery staff hr he hid huser =>
    obtain ⟨hconcerned, _⟩ := he.concerned h hs
    obtain ⟨rfl, rfl⟩ := he.packet_eq h hs hpacket hrcp hid
    obtain ⟨_, _, _, hviewed⟩ := he.actor
    exact ⟨hviewed.id_eq ▸ hr, huser.symm, hconcerned⟩
  | retryRequested userId deliveryId packet' rcp' account delivery staff reason hr he hid hmay =>
    obtain ⟨hconcerned, hstaff⟩ := he.concerned h hs
    obtain ⟨rfl, rfl⟩ := he.packet_eq h hs hpacket hrcp hid
    obtain ⟨_, _, _, hviewed⟩ := he.actor
    exact ⟨hviewed.id_eq ▸ hr, hmay.imp (fun hsender => hsender.trans hviewed.senderId) hstaff, hconcerned⟩
  | failureReported userId deliveryId packet' rcp' account delivery staff key data sha status email hr he hid hcourt =>
    obtain ⟨hconcerned, hstaff⟩ := he.concerned h hs
    obtain ⟨rfl, rfl⟩ := he.packet_eq h hs hpacket hrcp hid
    obtain ⟨_, _, _, hviewed⟩ := he.actor
    exact ⟨⟨data, hviewed.id_eq ▸ hr⟩, hstaff ((requireDeliveryViewer_ok he.viewer).1.trans hcourt), hconcerned⟩

theorem BothRun.events_by (h : BothRun cfg w₀ w) {id : PacketId} {packet : ServicePacket}
    (hpacket : w.db (.inr (.packet id)) = some packet) {rcp : ServiceRecipient} (hrcp : rcp ∈ packet.recipients)
    {notice : Notice} (hnotice : w.db (.inr (.notice rcp.notificationId)) = some notice) :
    ∀ e ∈ notice.serviceEvents, ∃ made sid s a, EventBy cfg w₀ w packet rcp e made sid s a := by
  obtain ⟨_, w₁, sid, s, a, userId, filingId, key, data, hsent⟩ := h.sent_at hpacket
  obtain ⟨new, hnew, hnewNotice⟩ := hsent.new_notice hrcp
  have hrun := hsent.after
  suffices hall : ∀ w', Steps (bothPortal cfg) (w₁.committed sid s a) w' → ∃ notice,
      w'.db (.inr (.notice rcp.notificationId)) = some notice ∧
      ∀ e ∈ notice.serviceEvents, ∃ made sid s a, EventBy cfg w₀ w' packet rcp e made sid s a by
    obtain ⟨_, hsame, hevents⟩ := hall w hsent.later
    cases hnotice.symm.trans hsame
    exact hevents
  intro w' hs
  induction hs with
  | refl =>
    refine ⟨new, hnew, ?_⟩
    rw [hnewNotice.kept.2.2.2.1]
    simp
  | @tail w₂ w₃ hs₂ hs₃ ih =>
    obtain ⟨notice, hnotice, hevents⟩ := ih
    have hrun₂ := hrun.trans hs₂
    have hlater : ∀ e ∈ notice.serviceEvents, ∃ made sid s a, EventBy cfg w₀ w₃ packet rcp e made sid s a := by
      intro e he
      obtain ⟨made, sid, s, a, hby⟩ := hevents e he
      exact ⟨made, sid, s, a, { hby with later := hby.later.tail hs₃ }⟩
    rcases BothRun.step_cases hs₃ with heq | ⟨sid, s, a, hc, rfl⟩
    · exact ⟨notice, (heq (.inr (.notice rcp.notificationId)) rfl).trans hnotice, hlater⟩
    · obtain ⟨hold, hsame | ⟨notice', hnotice', hstep⟩⟩ := hrun₂.notice_step hc hnotice
      · exact ⟨notice, hsame, hlater⟩
      · refine ⟨notice', hnotice', fun e he => ?_⟩
        obtain ⟨_, added, hservice, hadds⟩ := hstep.extends hnotice hold
        rw [hservice] at he
        rcases List.mem_append.1 he with he | he
        · exact hlater e he
        · rw [Option.mem_toList] at he
          subst he
          have hwritten := hadds.writtenBy hrun₂ hc.found (hrun.packet_kept hs₂ hsent.saved) hrcp
          exact ⟨w₂, sid, s, a, hrun₂, hc, .refl, ⟨notice, notice', hnotice, hnotice', hservice⟩, hwritten⟩

/-- **The history of a delivery.** Claims are numbered one after the other, nothing is stuck, and there is one
acknowledgment at most; every event was written by an active account that the delivery concerned, and what was
written stays. -/
structure DeliveryHistory (cfg : Settings) (w₀ w : BothWorld) (packet : ServicePacket) (rcp : ServiceRecipient)
    (notice : Notice) : Prop where
  tracked : notice.Tracked
  eventsBy : ∀ e ∈ notice.serviceEvents, ∃ made sid s a, EventBy cfg w₀ w packet rcp e made sid s a
  stays : ∀ w', Steps (bothPortal cfg) w w' →
    ∃ notice', w'.db (.inr (.notice rcp.notificationId)) = some notice' ∧ notice.Extends notice'

/-- **What happened to a delivery is written down by those whom it concerns, and stays.** -/
theorem BothRun.delivery_history (h : BothRun cfg w₀ w) {id : PacketId} {packet : ServicePacket}
    (hpacket : w.db (.inr (.packet id)) = some packet) {rcp : ServiceRecipient} (hrcp : rcp ∈ packet.recipients)
    {notice : Notice} (hnotice : w.db (.inr (.notice rcp.notificationId)) = some notice) :
    DeliveryHistory cfg w₀ w packet rcp notice where
  tracked := h.tracked _ notice hnotice
  eventsBy := h.events_by hpacket hrcp hnotice
  stays _ hs := h.notice_since hs hnotice

def acknowledgedWorld : BothWorld :=
  sentWorld.serveAll (bothPortal mailedSettings) 4 [(5000, .acknowledgeDelivery 4 18),
    (6000, .acknowledgeDelivery 4 18)]

/-- The delivery is acknowledged once. -/
theorem BothRun.history_acknowledged : ∃ packet rcp notice, acknowledgedWorld.db (.inr (.packet 16)) = some packet ∧
    rcp ∈ packet.recipients ∧ acknowledgedWorld.db (.inr (.notice rcp.notificationId)) = some notice ∧
    notice.serviceEvents = [.acknowledged 4] ∧
    DeliveryHistory mailedSettings mailedWorld acknowledgedWorld packet rcp notice := by
  have hrun : BothRun mailedSettings mailedWorld acknowledgedWorld := sentWorld_serve (by decide +kernel)
  have hsent : (acknowledgedWorld.db (.inr (.packet 16))).any (fun packet => packet.recipients.any fun rcp =>
      (acknowledgedWorld.db (.inr (.notice rcp.notificationId))).any fun notice =>
        notice.serviceEvents == [.acknowledged 4]) = true := by decide +kernel
  obtain ⟨packet, hpacket, hrecipient⟩ := (Option.any_eq_true _ _).1 hsent
  obtain ⟨rcp, hrcp, hnotice⟩ := List.any_eq_true.1 hrecipient
  obtain ⟨notice, hnotice, hevents⟩ := (Option.any_eq_true _ _).1 hnotice
  exact ⟨packet, rcp, notice, hpacket, hrcp, hnotice, by simpa using hevents,
    hrun.delivery_history hpacket hrcp hnotice⟩

end Muefs
