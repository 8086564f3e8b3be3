import Mathlib.Data.List.Pairwise
import Muefs.Deliveries.Runs
import Muefs.Steps.Persistence

/-!
# Packets over a run

* `BothRun.packet_kept` : a packet stays as it was saved; `BothRun.sent_at` : the commit that saved it;
* `Announced`, `BothRun.is_announced` : the rows of each recipient: his delivery, and the notice that announces it;
* `BothRun.notice_step` : what a commit does to a notice that is there;
* `BothRun.contacts_distinct`, `BothRun.contact_since` : contacts of a case have distinct numbers, and versions that
  only grow.
-/

namespace Muefs
open RowLocks

variable {cfg : Settings} {w₀ w w' : BothWorld}

/-! ## Packets -/

/-- **A packet stays as it was saved.** -/
theorem BothRun.packet_kept (h : BothRun cfg w₀ w) (hs : Steps (bothPortal cfg) w w') {id : PacketId}
    {packet : ServicePacket} (hpacket : w.db (.inr (.packet id)) = some packet) :
    w'.db (.inr (.packet id)) = some packet := by
  refine h.row_since (g := .packet id) (I := fun v => v = some packet) hpacket ?_ hs
  intro w₁ sid s a hrun _ hc hI hstep
  obtain ⟨packet', _, _, _, _, _, hid, _, hsent⟩ := hstep
  exact absurd (hid ▸ hsent.fresh) ((hrun.spent (.packet (by rw [hI]; rfl))).not_drawn hc)

/-- The commit that saved a packet. -/
structure SentAt (cfg : Settings) (w₀ w : BothWorld) (packet : ServicePacket) (w₁ : BothWorld) (sid : Nat)
    (s : BothSession) (a : ServiceResponse) (userId : UserId) (filingId : FilingId) (key : Uuid)
    (data : ServicePacketCreate) : Prop where
  run : BothRun cfg w₀ w₁
  commits : Commits (bothPortal cfg) w₁ sid s a
  later : Steps (bothPortal cfg) (w₁.committed sid s a) w
  saved : (w₁.committed sid s a).db (.inr (.packet packet.id)) = some packet
  request : s.request = .sendDocuments userId filingId key data
  sent : Sent cfg w₁.db (commit s.trace w₁.db) s.trace userId filingId key data packet

theorem BothRun.sent_at (h : BothRun cfg w₀ w) {id : PacketId} {packet : ServicePacket}
    (hpacket : w.db (.inr (.packet id)) = some packet) : packet.id = id ∧ ∃ w₁ sid s a userId filingId key data,
      SentAt cfg w₀ w packet w₁ sid s a userId filingId key data := by
  have h₀ : ¬ w₀.db (.inr (.packet id)) = some packet := by simp [h.start.packet id]
  obtain ⟨w₁, w₂, hs₁, hs, hs₂, hnot, hsaved⟩ :=
    h.steps.born (P := fun w => w.db (.inr (.packet id)) = some packet) h₀ hpacket
  have h₁ : BothRun cfg w₀ w₁ := ⟨h.start, hs₁⟩
  rcases BothRun.step_cases hs with heq | ⟨sid, s, a, hc, rfl⟩
  · exact absurd ((heq (.inr (.packet id)) rfl).symm.trans hsaved) hnot
  · rcases (h₁.changes hc).right (.packet id) with heq | ⟨packet', userId, filingId, key, data, hpacket',
      hid, hr, hsent⟩
    · exact absurd (heq.symm.trans hsaved) hnot
    · cases hsaved.symm.trans hpacket'
      exact ⟨hid, w₁, sid, s, a, userId, filingId, key, data, h₁, hc, hs₂, by rw [hid]; exact hsaved, hr, hsent⟩

section Sending
variable {packet : ServicePacket} {w₁ : BothWorld} {sid : Nat} {s : BothSession} {a : ServiceResponse}
  {userId : UserId} {filingId : FilingId} {key : Uuid} {data : ServicePacketCreate}

theorem SentAt.numbers_nodup (h : SentAt cfg w₀ w packet w₁ sid s a userId filingId key data) :
    (packet.recipients.flatMap fun rcp => [rcp.notificationId, rcp.id]).Nodup :=
  h.sent.numbers.nodup (h.run.steps.draws_nodup h.run.start.idle h.commits.found)

theorem SentAt.after (h : SentAt cfg w₀ w packet w₁ sid s a userId filingId key data) :
    BothRun cfg w₀ (w₁.committed sid s a) :=
  h.run.tail (.commit sid s a h.commits)

end Sending

theorem eq_of_mem_flatMap {α β : Type} {l : List α} {f : α → List β} (h : (l.flatMap f).Nodup) {a b : α} (ha : a ∈ l)
    (hb : b ∈ l) {n : β} (hna : n ∈ f a) (hnb : n ∈ f b) : a = b := by
  by_contra hne
  have : Std.Symm (Function.onFun List.Disjoint f) := ⟨fun _ _ hd _ hb ha => hd ha hb⟩
  have hdisjoint := (List.nodup_flatMap.1 h).2.forall ha hb hne
  exact hdisjoint hna hnb

/-! ## The rows of a recipient -/

/-- A recipient has his delivery and a notice that announces it. -/
structure Announced (db : BothStore) (packet : ServicePacket) (rcp : ServiceRecipient) : Prop where
  delivery : db (.inr (.delivery rcp.id)) = some packet.id
  alert : db (.inr (.alert rcp.notificationId)) = some packet.id
  notice : ∃ notice, db (.inr (.notice rcp.notificationId)) = some notice ∧ notice.id = rcp.notificationId ∧
    notice.noticeType = .serviceOfProcess ∧ notice.recipientId = rcp.recipientId

theorem NewNotice.kept {tr : BothTrace} {actorId : UserId} {caseId : CaseId} {filingId : FilingId}
    {rcp : ServiceRecipient} {notice : Notice} (h : NewNotice cfg tr actorId caseId filingId rcp notice) :
    notice.id = rcp.notificationId ∧ notice.noticeType = .serviceOfProcess ∧ notice.recipientId = rcp.recipientId ∧
      notice.serviceEvents = [] ∧ notice.attempts = [] := by
  obtain ⟨_, _, _, _, _, hqueue, _⟩ := h
  obtain ⟨hsteady, hevents⟩ := queueEmail_steady hqueue
  exact ⟨hsteady.id, hsteady.noticeType, hsteady.recipientId, hevents, hsteady.attempts⟩

theorem claimEmail_kept (cfg : Settings) (notice : Notice) (user : Option User) (context : Option String)
    (time : Instant) :
    (claimEmail cfg notice user context time).id = notice.id ∧
      (claimEmail cfg notice user context time).noticeType = notice.noticeType ∧
      (claimEmail cfg notice user context time).recipientId = notice.recipientId ∧
      (claimEmail cfg notice user context time).emailRecipient = notice.emailRecipient ∧
      (claimEmail cfg notice user context time).serviceEvents = notice.serviceEvents := by
  unfold claimEmail
  dsimp only
  split <;> exact ⟨rfl, rfl, rfl, rfl, rfl⟩

theorem finishAttempt_kept (notice : Notice) (attempt : Nat) (result : SendResult) (time : Instant) :
    notice.Steady (finishAttempt notice attempt result time) ∧
      (finishAttempt notice attempt result time).emailRecipient = notice.emailRecipient ∧
      (finishAttempt notice attempt result time).serviceEvents = notice.serviceEvents := by
  have hlog : notice.Steady (notice.log (result.event attempt time)) := by
    refine ⟨rfl, rfl, rfl, ?_⟩
    have houtcome : ((result.event attempt time).outcome == .started) = false := by
      obtain ⟨outcome, _, _⟩ := result
      cases outcome <;> rfl
    simp [Notice.attempts, Notice.log, List.filter_append, houtcome]
  unfold finishAttempt
  dsimp only
  split
  · exact ⟨hlog, rfl, rfl⟩
  · unfold SendResult.settle
    repeat' split
    all_goals exact ⟨⟨hlog.id, hlog.noticeType, hlog.recipientId, hlog.attempts⟩, rfl, rfl⟩

theorem recoverInterrupted_kept (notice : Notice) (time : Instant) :
    notice.Steady (recoverInterrupted notice time) ∧
      (recoverInterrupted notice time).emailRecipient = notice.emailRecipient ∧
      (recoverInterrupted notice time).serviceEvents = notice.serviceEvents := by
  unfold recoverInterrupted
  split
  · refine ⟨⟨rfl, rfl, rfl, ?_⟩, rfl, rfl⟩
    simp [Notice.attempts, Notice.log, List.filter_append]
  · exact ⟨⟨rfl, rfl, rfl, rfl⟩, rfl, rfl⟩

theorem reportDeliveryFailure_kept {notice notice' : Notice} {events : List ServiceEvent} {report : FailureReport}
    {event : ServiceEvent} (h : reportDeliveryFailure cfg notice events report = .ok (notice', some event)) :
    notice.Steady notice' ∧ notice'.emailRecipient = notice.emailRecipient ∧ event.isAcknowledgment = false := by
  unfold reportDeliveryFailure at h
  simp only [except_bind_ok, check_ok] at h
  obtain ⟨_, _, staff, _, _, _, h⟩ := h
  cases hprevious : previousReport events report.key with
  | some sha =>
    simp only [hprevious, except_bind_ok, check_ok] at h
    obtain ⟨_, _, hok⟩ := h
    cases hok
  | none =>
    simp only [hprevious, except_bind_ok, check_ok] at h
    obtain ⟨_, _, _, _, _, _, _, _, hok⟩ := h
    cases hok
    exact ⟨⟨rfl, rfl, rfl, rfl⟩, rfl, rfl⟩

theorem MailStep.kept {r : ServiceRequest} {db db' : BothStore} {tr : BothTrace} {id : NoticeId}
    {notice notice' : Notice}
    (h : MailStep cfg r db db' tr id notice') (hdb : db (.inr (.notice id)) = some notice) (hold : ⟨.fresh, id⟩ ∉ tr) :
    notice'.id = notice.id ∧ notice'.noticeType = notice.noticeType ∧ notice'.recipientId = notice.recipientId := by
  cases h with
  | sent _ _ _ _ _ _ _ _ _ _ _ _ hnew => exact absurd hnew hold
  | alerted _ _ _ _ _ _ _ hnew => exact absurd hnew hold
  | acknowledged _ _ notice₀ _ _ _ _ _ _ hdb₀ =>
    cases hdb.symm.trans hdb₀
    exact ⟨rfl, rfl, rfl⟩
  | requeued _ _ _ _ notice₀ queued _ _ _ _ _ _ _ hdb₀ _ _ _ _ hqueue =>
    cases hdb.symm.trans hdb₀
    obtain ⟨hsteady, _⟩ := queueEmail_steady hqueue
    exact ⟨hsteady.id, hsteady.noticeType, hsteady.recipientId⟩
  | claimed _ _ _ _ _ hdb₀ =>
    cases hdb.symm.trans hdb₀
    obtain ⟨hid, htype, hrecipient, _⟩ := claimEmail_kept cfg notice _ _ _
    exact ⟨hid, htype, hrecipient⟩
  | finished _ attempt result time hdb₀ =>
    cases hdb.symm.trans hdb₀
    obtain ⟨hsteady, _⟩ := finishAttempt_kept notice attempt result time
    exact ⟨hsteady.id, hsteady.noticeType, hsteady.recipientId⟩
  | recovered _ time hdb₀ =>
    cases hdb.symm.trans hdb₀
    obtain ⟨hsteady, _⟩ := recoverInterrupted_kept notice time
    exact ⟨hsteady.id, hsteady.noticeType, hsteady.recipientId⟩
  | reported _ _ _ _ _ _ _ _ _ _ _ hdb₀ _ _ _ _ _ hreport =>
    cases hdb.symm.trans hdb₀
    obtain ⟨hsteady, _⟩ := reportDeliveryFailure_kept hreport
    exact ⟨hsteady.id, hsteady.noticeType, hsteady.recipientId⟩

theorem BothRun.notice_step (h : BothRun cfg w₀ w) {sid : Nat} {s : BothSession} {a : ServiceResponse}
    (hc : Commits (bothPortal cfg) w sid s a) {id : NoticeId} {notice : Notice}
    (hdb : w.db (.inr (.notice id)) = some notice) : ⟨.fresh, id⟩ ∉ s.trace ∧
      (commit s.trace w.db (.inr (.notice id)) = some notice ∨
        ∃ notice', commit s.trace w.db (.inr (.notice id)) = some notice' ∧
          MailStep cfg s.request w.db (commit s.trace w.db) s.trace id notice') := by
  refine ⟨(h.spent (.notice (by rw [hdb]; rfl))).not_drawn hc, ?_⟩
  rcases (h.changes hc).right (.notice id) with heq | hstep
  · exact .inl (heq.trans hdb)
  · exact .inr hstep

theorem Announced.since {packet : ServicePacket} {rcp : ServiceRecipient} (h : BothRun cfg w₀ w)
    (ha : Announced w.db packet rcp) (hs : Steps (bothPortal cfg) w w') : Announced w'.db packet rcp := by
  refine ⟨?_, ?_, ?_⟩
  · refine h.row_since (g := .delivery rcp.id) (I := fun v => v = some packet.id) ha.delivery ?_ hs
    intro w₁ sid s a hrun _ hc hI hstep
    exact absurd hstep.1 ((hrun.spent (.delivery (by rw [hI]; rfl))).not_drawn hc)
  · refine h.row_since (g := .alert rcp.notificationId) (I := fun v => v = some packet.id) ha.alert ?_ hs
    intro w₁ sid s a hrun _ hc hI hstep
    exact absurd hstep.1 ((hrun.spent (.alert (by rw [hI]; rfl))).not_drawn hc)
  · refine h.row_since (g := .notice rcp.notificationId) (I := fun v => ∃ notice, v = some notice ∧
      notice.id = rcp.notificationId ∧ notice.noticeType = .serviceOfProcess ∧ notice.recipientId = rcp.recipientId)
      ha.notice ?_ hs
    intro w₁ sid s a hrun _ hc hI _
    obtain ⟨notice, hnotice, hid, htype, hrecipient⟩ := hI
    obtain ⟨hold, hsame | ⟨notice', hnotice', hstep⟩⟩ := hrun.notice_step hc hnotice
    · exact ⟨notice, hsame, hid, htype, hrecipient⟩
    · obtain ⟨hid', htype', hrecipient'⟩ := hstep.kept hnotice hold
      exact ⟨notice', hnotice', hid'.trans hid, htype'.trans htype, hrecipient'.trans hrecipient⟩

theorem SentAt.new_notice {packet : ServicePacket} {w₁ : BothWorld} {sid : Nat} {s : BothSession} {a : ServiceResponse}
    {userId : UserId} {filingId : FilingId} {key : Uuid} {data : ServicePacketCreate}
    (h : SentAt cfg w₀ w packet w₁ sid s a userId filingId key data) {rcp : ServiceRecipient}
    (hrcp : rcp ∈ packet.recipients) :
    ∃ notice, (w₁.committed sid s a).db (.inr (.notice rcp.notificationId)) = some notice ∧
      NewNotice cfg s.trace userId packet.caseId packet.filingId rcp notice := by
  obtain ⟨_, _, notice, hnotice, rcp', hrcp', hid, hnew⟩ := h.sent.rows rcp hrcp
  rw [eq_of_mem_flatMap h.numbers_nodup hrcp' hrcp (n := rcp.notificationId) (by simp [hid]) (by simp)] at hnew
  exact ⟨notice, hnotice, hnew⟩

/-- **Every recipient of a packet has his delivery and its notice.** -/
theorem BothRun.is_announced (h : BothRun cfg w₀ w) {id : PacketId} {packet : ServicePacket}
    (hpacket : w.db (.inr (.packet id)) = some packet) {rcp : ServiceRecipient} (hrcp : rcp ∈ packet.recipients) :
    Announced w.db packet rcp := by
  obtain ⟨_, w₁, sid, s, a, userId, filingId, key, data, hsent⟩ := h.sent_at hpacket
  obtain ⟨hdelivery, halert, _⟩ := hsent.sent.rows rcp hrcp
  obtain ⟨notice, hnotice, hnew⟩ := hsent.new_notice hrcp
  obtain ⟨hid, htype, hrecipient, _⟩ := hnew.kept
  exact Announced.since hsent.after ⟨hdelivery, halert, notice, hnotice, hid, htype, hrecipient⟩ hsent.later

theorem BothRun.recipient_eq (h : BothRun cfg w₀ w) {id id' : PacketId} {packet packet' : ServicePacket}
    {rcp rcp' : ServiceRecipient} (hpacket : w.db (.inr (.packet id)) = some packet) (hrcp : rcp ∈ packet.recipients)
    (hpacket' : w.db (.inr (.packet id')) = some packet') (hrcp' : rcp' ∈ packet'.recipients)
    (hid : rcp'.notificationId = rcp.notificationId) : packet' = packet ∧ rcp' = rcp := by
  obtain ⟨hpid, w₁, sid, s, a, userId, filingId, key, data, hsent⟩ := h.sent_at hpacket
  obtain ⟨hpid', _⟩ := h.sent_at hpacket'
  have halert := (h.is_announced hpacket' hrcp').alert
  rw [hid, (h.is_announced hpacket hrcp).alert] at halert
  have hsame : packet' = packet := by
    rw [← hpid', ← Option.some.inj halert, hpid, hpacket] at hpacket'
    exact (Option.some.inj hpacket').symm
  subst hsame
  exact ⟨rfl, eq_of_mem_flatMap hsent.numbers_nodup hrcp' hrcp (n := rcp.notificationId) (by simp [hid]) (by simp)⟩

/-! ## Contacts -/

/-- **The contacts of a case have distinct numbers.** -/
theorem BothRun.contacts_distinct (h : BothRun cfg w₀ w) (id : CaseId) :
    ((w.db (.inr (.contacts id))).map ServiceContact.id).Nodup := by
  refine BothRun.row_since (g := .contacts id) (I := fun cs => (cs.map ServiceContact.id).Nodup)
    ⟨h.start, .refl⟩ (h.start.contact id).1 ?_ h.steps
  intro w₁ sid s a hrun _ hc hI hstep
  obtain ⟨event, hstep, _⟩ := hstep
  generalize commit s.trace w₁.db (.inr (.contacts id)) = cs at hstep
  cases hstep with
  | revised _ _ _ old new _ _ _ hid =>
    rw [map_id_map (fun c => by split <;> simp_all)]
    exact hI
  | added _ _ _ new _ _ _ hid =>
    rw [List.map_append]
    refine List.nodup_append.2 ⟨hI, by simp, fun n hn m hm => ?_⟩
    obtain ⟨c, hc', rfl⟩ := List.mem_map.1 hn
    rw [List.map_singleton, List.mem_singleton] at hm
    rintro rfl
    exact (hrun.spent (.contact id c hc' rfl)).not_drawn hc (hm ▸ hid)

/-- **A contact stays in its case, as it is or under a later version.** -/
theorem BothRun.contact_since (h : BothRun cfg w₀ w) (hs : Steps (bothPortal cfg) w w') {id : CaseId}
    {c : ServiceContact} (hc : c ∈ w.db (.inr (.contacts id))) :
    ∃ c' ∈ w'.db (.inr (.contacts id)), c'.id = c.id ∧ (c' = c ∨ c.version < c'.version) := by
  refine h.row_since (g := .contacts id) (I := fun cs => ∃ c' ∈ cs, c'.id = c.id ∧ (c' = c ∨ c.version < c'.version))
    ⟨c, hc, rfl, .inl rfl⟩ ?_ hs
  intro w₁ sid s a hrun _ hcommit hI hstep
  obtain ⟨c₁, hc₁, hid₁, hversion⟩ := hI
  obtain ⟨event, hstep, _⟩ := hstep
  have hnodup := hrun.contacts_distinct id
  generalize commit s.trace w₁.db (.inr (.contacts id)) = cs at hstep
  cases hstep with
  | revised _ _ _ old new _ _ hold hid hreview =>
    refine ⟨_, List.mem_map_of_mem hc₁, ?_⟩
    by_cases hsame : c₁.id = old.id
    · rw [if_pos hsame]
      have heq : c₁ = old := List.inj_on_of_nodup_map hnodup hc₁ (List.mem_of_find?_eq_some hold) hsame
      subst heq
      refine ⟨hid.trans hid₁, .inr ?_⟩
      have hnext : new.version = c₁.version + 1 := by
        rw [hreview.version, ← hreview.expected]
        rfl
      rcases hversion with rfl | hlt
      · omega
      · omega
    · rw [if_neg hsame]
      exact ⟨hid₁, hversion⟩
  | added _ _ _ new => exact ⟨c₁, List.mem_append_left _ hc₁, hid₁, hversion⟩

end Muefs
