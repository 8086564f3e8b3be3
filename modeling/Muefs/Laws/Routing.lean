import Muefs.Deliveries.Packets
import Muefs.Laws.Delivery

/-!
# Deliveries follow the court's service instructions

* `Routed` : in this state an alert of a delivery may be sent, to the address that the court reviewed;
* `BothRun.addressed` : the email of a delivery is for the address in the instructions that its packet froze;
* `BothRun.started_by` : every attempt was started by a claim that read such a state;
* `RoutingLaw`, `BothRun.routing` : the law; a claim that reads after the instructions changed starts nothing.
-/

namespace Muefs
open RowLocks

variable {cfg : Settings} {w₀ w w' : BothWorld} {db : BothStore}

/-! ## Routing -/

/-- **The delivery may be announced now.** The contact is the one that the packet froze, reviewed with the participant
as he is; its account's verified email is the account's email and the contact's. -/
structure Routed (cfg : Settings) (db : BothStore) (caseId : CaseId) (rcp : ServiceRecipient) (case : CaseFile)
    (contact : ServiceContact) (p : CaseParticipant) (account : Account) : Prop where
  case_eq : db (.inl (.case caseId)) = some case
  contact_eq : (db (.inr (.contacts caseId))).find? (fun c => c.id == rcp.contactId) = some contact
  version : contact.version = rcp.contactVersion
  snapshot : contactSnapshot contact = rcp.contactSnapshot
  participant_eq : case.participants.find? (fun q => q.id == contact.participantId) = some p
  reviewed : contact.participantSnapshot = some (participantSnapshot p)
  issues : routingIssues cfg case.row p (some (rcp.recipientId, account.user)) contact = []
  account_eq : db (.inl (.user rcp.recipientId)) = some account
  verified : account.user.verifiedEmail = some (cfg.lower (strip account.user.email))
  email : account.user.verifiedEmail = rcp.contactSnapshot.email

theorem contactOf_eq_some {caseId : CaseId} {id : ContactId} {case : CaseFile} {contact : ServiceContact}
    {p : CaseParticipant} (h : contactOf db caseId id = some (case, contact, p)) :
    db (.inl (.case caseId)) = some case ∧ (db (.inr (.contacts caseId))).find? (fun c => c.id == id) = some contact ∧
      case.participants.find? (fun q => q.id == contact.participantId) = some p := by
  simp only [contactOf, Option.bind_eq_bind, Option.bind_eq_some_iff, pure, Option.some.injEq] at h
  obtain ⟨case', hcase, contact', hcontact, p', hp, hpair⟩ := h
  cases hpair
  exact ⟨hcase, hcontact, hp⟩

theorem of_no_issue {c : Prop} [Decidable c] {x : String} (h : (if c then [] else [x]) = []) : c := by
  by_contra hc
  simp [hc] at h

theorem routingIssues_nil {case : Case} {p : CaseParticipant} {account : Option (UserId × User)}
    {contact : ServiceContact} (h : routingIssues cfg case p account contact = [])
    (hmethod : contact.method = .electronic) : contact.participantSnapshot = some (participantSnapshot p) ∧
      ∃ id user, account = some (id, user) ∧ contactMatches cfg id user contact = true := by
  simp only [routingIssues, electronicIssues, hmethod, if_true, List.append_eq_nil_iff] at h
  obtain ⟨⟨_, hsnapshot⟩, ⟨haccount, _⟩, _⟩ := h
  refine ⟨of_no_issue hsnapshot, ?_⟩
  cases hfilter : account.filter fun a => a.2.isActive && (a.2.keycloakId.any (· ≠ "") || cfg.allowDemoMode) with
  | none =>
    rw [hfilter] at haccount
    cases haccount
  | some found =>
    obtain ⟨id, user⟩ := found
    rw [hfilter] at haccount
    exact ⟨id, user, (Option.filter_eq_some_iff.1 hfilter).1, of_no_issue haccount⟩

theorem routingError_none {caseId : CaseId} {rcp : ServiceRecipient} (h : routingError cfg db caseId rcp = none)
    (hmethod : rcp.contactSnapshot.method = .electronic) :
    ∃ case contact p account, Routed cfg db caseId rcp case contact p account := by
  unfold routingError at h
  dsimp only at h
  split at h
  · cases h
  · rename_i case contact p hfound
    split at h
    · cases h
    · rename_i hsame
      simp only [not_or, not_not, ne_eq] at hsame
      obtain ⟨_, huser, hversion, hsnapshot⟩ := hsame
      have hissues : routingIssues cfg case.row p (participantUserOf db p) contact = [] := by
        by_contra hne
        simp [hne] at h
      obtain ⟨hcase, hcontact, hp⟩ := contactOf_eq_some hfound
      rw [hsnapshot] at hmethod
      obtain ⟨hreviewed, id, user, haccount, hmatch⟩ := routingIssues_nil hissues hmethod
      simp only [contactMatches, Bool.and_eq_true, beq_iff_eq] at hmatch
      obtain ⟨⟨⟨hid, _⟩, hverified⟩, hemail⟩ := hmatch
      have hrecipient : id = rcp.recipientId := Option.some.inj (hid.symm.trans huser.symm)
      subst hrecipient
      obtain ⟨userId, _, hof⟩ := Option.bind_eq_some_iff.1 haccount
      obtain ⟨account, hrow, hpair⟩ := Option.map_eq_some_iff.1 hof
      cases hpair
      exact ⟨case, contact, p, account, hcase, hcontact, hversion.symm, hsnapshot.symm, hp, hreviewed,
        haccount ▸ hissues, hrow, hverified, by rw [hemail, hsnapshot]; rfl⟩

theorem announced_eq_some {id : NoticeId} {packet : ServicePacket} {rcp : ServiceRecipient}
    (h : announced db id = some (packet, rcp)) : ∃ packetId, db (.inr (.alert id)) = some packetId ∧
      db (.inr (.packet packetId)) = some packet ∧ rcp ∈ packet.recipients ∧ rcp.notificationId = id := by
  simp only [announced, Option.bind_eq_bind, Option.bind_eq_some_iff, pure, Option.some.injEq] at h
  obtain ⟨packetId, halert, packet', hpacket, rcp', hrcp, hpair⟩ := h
  cases hpair
  exact ⟨packetId, halert, hpacket, List.mem_of_find?_eq_some hrcp, by simpa using List.find?_some hrcp⟩

theorem emailContext_none {id : NoticeId} (h : emailContext cfg db id = none) :
    ∃ packet rcp, announced db id = some (packet, rcp) ∧ routingError cfg db packet.caseId rcp = none := by
  unfold emailContext at h
  split at h
  · cases h
  · split at h
    · cases h
    · exact ⟨_, _, ‹_›, h⟩

/-! ## What a packet froze -/

theorem BothRun.electronic (h : BothRun cfg w₀ w) {id : PacketId} {packet : ServicePacket}
    (hpacket : w.db (.inr (.packet id)) = some packet) {rcp : ServiceRecipient} (hrcp : rcp ∈ packet.recipients) :
    rcp.contactSnapshot.method = .electronic := by
  obtain ⟨_, w₁, sid, s, a, userId, filingId, key, data, hsent⟩ := h.sent_at hpacket
  obtain ⟨_, _, _, _, haddressed⟩ := hsent.sent.recipients
  obtain ⟨contact, p, user, haddressed⟩ := haddressed rcp hrcp
  rw [haddressed.snapshot]
  exact haddressed.electronic

theorem announced_eq (h : BothRun cfg w₀ w) (hs : Steps (bothPortal cfg) w w') {id : PacketId}
    {packet packet' : ServicePacket} {rcp rcp' : ServiceRecipient} (hpacket : w'.db (.inr (.packet id)) = some packet)
    (hrcp : rcp ∈ packet.recipients) (ha : announced w.db rcp.notificationId = some (packet', rcp')) :
    packet' = packet ∧ rcp' = rcp := by
  obtain ⟨packetId, _, hpacket', hrcp', hid⟩ := announced_eq_some ha
  exact (h.trans hs).recipient_eq hpacket hrcp (h.packet_kept hs hpacket') hrcp' hid

theorem emailContext_routed (h : BothRun cfg w₀ w) (hs : Steps (bothPortal cfg) w w') {id : PacketId}
    {packet : ServicePacket} {rcp : ServiceRecipient} (hpacket : w'.db (.inr (.packet id)) = some packet)
    (hrcp : rcp ∈ packet.recipients) (hcontext : emailContext cfg w.db rcp.notificationId = none) :
    ∃ case contact p account, Routed cfg w.db packet.caseId rcp case contact p account := by
  obtain ⟨packet', rcp', ha, herror⟩ := emailContext_none hcontext
  obtain ⟨rfl, rfl⟩ := announced_eq h hs hpacket hrcp ha
  exact routingError_none herror ((h.trans hs).electronic hpacket hrcp)

/-! ## The address -/

theorem queueEmail_address {notice notice' : Notice} {context : Option String} {user : Option User} {time : Instant}
    {messageId : Nat} {actorId : Option UserId} {reason : Option String}
    (h : queueEmail cfg notice context user time messageId actorId reason = .ok notice')
    (hservice : notice.noticeType = .serviceOfProcess) :
    (notice'.emailRecipient = notice.emailRecipient ∧ notice'.deliveryStatus ≠ .pending) ∨
      (context = none ∧ ∃ u, user = some u ∧ notice'.emailRecipient = u.verifiedEmail) := by
  unfold queueEmail at h
  rw [if_pos hservice] at h
  split at h
  · cases h
    exact .inl ⟨rfl, by simp⟩
  · split at h
    · cases h
    · split at h
      · cases h
        exact .inl ⟨rfl, by simp⟩
      · split at h
        · cases h
          exact .inl ⟨rfl, by simp⟩
        · rename_i u hu
          cases h
          exact .inr ⟨rfl, u, (Option.filter_eq_some_iff.1 hu).1, rfl⟩

theorem Routed.address {caseId : CaseId} {rcp : ServiceRecipient} {case : CaseFile} {contact : ServiceContact}
    {p : CaseParticipant} {account : Account} (h : Routed cfg db caseId rcp case contact p account) {u : User}
    (hu : (userOf db rcp.recipientId).map Prod.snd = some u) : u.verifiedEmail = rcp.contactSnapshot.email := by
  unfold userOf at hu
  rw [h.account_eq] at hu
  cases hu
  exact h.email

/-- **The email of a delivery is for the address that its packet froze.** -/
theorem BothRun.addressed (h : BothRun cfg w₀ w) {id : PacketId} {packet : ServicePacket}
    (hpacket : w.db (.inr (.packet id)) = some packet) {rcp : ServiceRecipient} (hrcp : rcp ∈ packet.recipients)
    {notice : Notice} (hnotice : w.db (.inr (.notice rcp.notificationId)) = some notice) :
    notice.emailRecipient = rcp.contactSnapshot.email := by
  have hmethod := h.electronic hpacket hrcp
  obtain ⟨hid, w₁, sid, s, a, userId, filingId, key, data, hsent⟩ := h.sent_at hpacket
  obtain ⟨new, hnew, seen, time, messageId, reason, hseen, hqueue, hpending⟩ := hsent.new_notice hrcp
  have hrun := hsent.after
  suffices hall : ∃ notice, w.db (.inr (.notice rcp.notificationId)) = some notice ∧
      notice.emailRecipient = rcp.contactSnapshot.email by
    obtain ⟨_, hsame, haddress⟩ := hall
    cases hnotice.symm.trans hsame
    exact haddress
  refine hrun.row_since (g := .notice rcp.notificationId)
    (I := fun v => ∃ notice, v = some notice ∧ notice.emailRecipient = rcp.contactSnapshot.email) ⟨new, hnew, ?_⟩ ?_
    hsent.later
  · rcases queueEmail_address hqueue rfl with ⟨_, hidle⟩ | ⟨hcontext, u, hu, haddress⟩
    · exact absurd hpending hidle
    · obtain ⟨_, _, _, _, hrouted⟩ := routingError_none hcontext hmethod
      exact haddress.trans (hrouted.address hu)
  · intro w₂ sid s a hrun₂ hs₂ hc hI _
    obtain ⟨notice, hnotice, haddress⟩ := hI
    have hpacket₂ := hrun.packet_kept hs₂ hsent.saved
    obtain ⟨_, hsame, _, hservice, hrecipient⟩ := (hrun₂.is_announced hpacket₂ hrcp).notice
    cases hnotice.symm.trans hsame
    obtain ⟨hold, hsame | ⟨notice', hnotice', hstep⟩⟩ := hrun₂.notice_step hc hnotice
    · exact ⟨notice, hsame, haddress⟩
    · refine ⟨notice', hnotice', ?_⟩
      cases hstep with
      | sent _ _ _ _ _ _ _ _ _ _ _ _ hfresh => exact absurd hfresh hold
      | alerted _ _ _ _ _ _ _ hfresh => exact absurd hfresh hold
      | acknowledged _ _ _ _ _ _ _ _ _ hdb =>
        cases hnotice.symm.trans hdb
        exact haddress
      | requeued _ _ _ _ _ queued _ _ _ seen _ _ _ hdb _ _ _ hseen hqueue =>
        cases hnotice.symm.trans hdb
        rcases queueEmail_address hqueue hservice with ⟨hkept, _⟩ | ⟨hcontext, u, hu, hu'⟩
        · exact hkept.trans haddress
        · obtain ⟨w₃, hrun₃, hs₃, rfl⟩ := hrun₂.snapshot hc.found hseen
          obtain ⟨_, _, _, _, hrouted⟩ := emailContext_routed hrun₃ hs₃ hpacket₂ hrcp hcontext
          rw [hrecipient] at hu
          exact hu'.trans (hrouted.address hu)
      | claimed _ _ _ _ _ hdb =>
        cases hnotice.symm.trans hdb
        obtain ⟨_, _, _, hemail, _⟩ := claimEmail_kept cfg notice _ _ _
        exact hemail.trans haddress
      | finished _ attempt result time hdb =>
        cases hnotice.symm.trans hdb
        exact (finishAttempt_kept notice attempt result time).2.1.trans haddress
      | recovered _ time hdb =>
        cases hnotice.symm.trans hdb
        exact (recoverInterrupted_kept notice time).2.1.trans haddress
      | reported _ _ _ _ _ _ _ _ _ _ _ hdb _ _ _ _ _ hreport =>
        cases hnotice.symm.trans hdb
        exact (reportDeliveryFailure_kept hreport).2.1.trans haddress

/-! ## The attempts -/

theorem claimEmail_attempts (cfg : Settings) (notice : Notice) (user : Option User) (context : Option String)
    (time : Instant) :
    (claimEmail cfg notice user context time).attempts = notice.attempts ∨
      (notice.refusal cfg user context = none ∧
        (claimEmail cfg notice user context time).attempts = notice.attempts ++
          [{ attemptNumber := notice.attemptCount + 1, outcome := .started, occurredAt := time }]) := by
  have hrefusal : (notice.claimed time).refusal cfg user context = notice.refusal cfg user context := rfl
  unfold claimEmail
  dsimp only
  rw [hrefusal]
  cases notice.refusal cfg user context with
  | some error =>
    left
    simp [Notice.attempts, Notice.log, Notice.claimed, List.filter_append]
  | none =>
    right
    simp [Notice.attempts, Notice.log, Notice.claimed, List.filter_append]

theorem MailStep.attempts {r : ServiceRequest} {db' : BothStore} {tr : BothTrace} {id : NoticeId}
    {notice notice' : Notice}
    (h : MailStep cfg r db db' tr id notice') (hdb : db (.inr (.notice id)) = some notice) (hold : ⟨.fresh, id⟩ ∉ tr) :
    notice'.attempts = notice.attempts ∨ ∃ account seen time, r = .claimNextEmail id ∧
      ⟨.look (.inl (.user notice.recipientId)), account⟩ ∈ tr ∧ ⟨.snapshot, seen⟩ ∈ tr ∧
      notice.refusal cfg (account.map Account.user) (emailContext cfg seen id) = none ∧
      notice'.attempts = notice.attempts ++
        [{ attemptNumber := notice.attemptCount + 1, outcome := .started, occurredAt := time }] := by
  cases h with
  | sent _ _ _ _ _ _ _ _ _ _ _ _ hnew => exact absurd hnew hold
  | alerted _ _ _ _ _ _ _ hnew => exact absurd hnew hold
  | acknowledged _ _ notice₀ _ _ _ _ _ _ hdb₀ =>
    cases hdb.symm.trans hdb₀
    exact .inl rfl
  | requeued _ _ _ _ notice₀ queued _ _ _ _ _ _ _ hdb₀ _ _ _ _ hqueue =>
    cases hdb.symm.trans hdb₀
    exact .inl (queueEmail_steady hqueue).1.attempts
  | claimed _ account seen time hr hdb₀ _ haccount hseen =>
    cases hdb.symm.trans hdb₀
    rcases claimEmail_attempts cfg notice (account.map Account.user) (emailContext cfg seen id) time with
      hsame | ⟨hnone, hnew⟩
    · exact .inl hsame
    · exact .inr ⟨account, seen, time, hr, haccount, hseen, hnone, hnew⟩
  | finished _ attempt result time hdb₀ =>
    cases hdb.symm.trans hdb₀
    exact .inl (finishAttempt_kept notice attempt result time).1.attempts
  | recovered _ time hdb₀ =>
    cases hdb.symm.trans hdb₀
    exact .inl (recoverInterrupted_kept notice time).1.attempts
  | reported _ _ _ _ _ _ _ _ _ _ _ hdb₀ _ _ _ _ _ hreport =>
    cases hdb.symm.trans hdb₀
    exact .inl (reportDeliveryFailure_kept hreport).1.attempts

theorem Notice.refusal_none {notice : Notice} {user : Option User} {context : Option String}
    (h : notice.refusal cfg user context = none) (hservice : notice.noticeType = .serviceOfProcess) :
    notice.isAddressed cfg user = true ∧ context = none := by
  unfold Notice.refusal at h
  rw [if_pos hservice] at h
  by_cases haddressed : notice.isAddressed cfg user = true
  · rw [haddressed] at h
    exact ⟨haddressed, h⟩
  · rw [Bool.not_eq_true] at haddressed
    rw [haddressed] at h
    cases h

theorem Notice.isAddressed_account {notice : Notice} {account : Option Account}
    (h : notice.isAddressed cfg (account.map Account.user) = true) :
    ∃ acc, account = some acc ∧ acc.user.isActive = true ∧ acc.user.verifiedEmail = notice.emailRecipient ∧
      some (cfg.lower (strip acc.user.email)) = notice.emailRecipient := by
  unfold Notice.isAddressed at h
  cases account with
  | none => cases h
  | some acc =>
    simp only [Option.map_some, Option.any_some, Bool.and_eq_true, beq_iff_eq] at h
    obtain ⟨⟨hactive, hverified⟩, hemail⟩ := h
    exact ⟨acc, rfl, hactive, hverified, hemail⟩

/-- **The claim that started an attempt,** by its commit in `claim`. It read the recipient's account, active and with
the address of the email as its verified one; and a state of the system in which the delivery may be announced. -/
structure StartedBy (cfg : Settings) (w₀ w : BothWorld) (packet : ServicePacket) (rcp : ServiceRecipient)
    (e : DeliveryEvent) (claim : BothWorld) (sid : Nat) (s : BothSession) (read looked : BothWorld) : Prop where
  run : BothRun cfg w₀ claim
  request : s.request = .claimNextEmail rcp.notificationId
  commits : ∃ a notice notice', Commits (bothPortal cfg) claim sid s a ∧
    Steps (bothPortal cfg) (claim.committed sid s a) w ∧ claim.db (.inr (.notice rcp.notificationId)) = some notice ∧
    (claim.committed sid s a).db (.inr (.notice rcp.notificationId)) = some notice' ∧
    notice'.attempts = notice.attempts ++ [e]
  routed : AnsweredIn (bothPortal cfg) w₀ claim sid s ⟨.snapshot, read.db⟩ read ∧
    ∃ case contact p account, Routed cfg read.db packet.caseId rcp case contact p account
  account : ∃ account, AnsweredIn (bothPortal cfg) w₀ claim sid s ⟨.look (.inl (.user rcp.recipientId)),
    some account⟩ looked ∧ account.user.isActive = true ∧ account.user.verifiedEmail = rcp.contactSnapshot.email ∧
    account.user.verifiedEmail = some (cfg.lower (strip account.user.email))
  outcome : e.outcome = .started

theorem StartedBy.later {packet : ServicePacket} {rcp : ServiceRecipient} {e : DeliveryEvent}
    {claim read looked : BothWorld}
    {sid : Nat} {s : BothSession} (h : StartedBy cfg w₀ w packet rcp e claim sid s read looked)
    (hs : Steps (bothPortal cfg) w w') : StartedBy cfg w₀ w' packet rcp e claim sid s read looked := by
  obtain ⟨a, notice, notice', hc, hlater, hstored⟩ := h.commits
  exact { h with commits := ⟨a, notice, notice', hc, hlater.trans hs, hstored⟩ }

/-- **Every attempt was started by a claim that read that the delivery may be announced.** -/
theorem BothRun.started_by (h : BothRun cfg w₀ w) {id : PacketId} {packet : ServicePacket}
    (hpacket : w.db (.inr (.packet id)) = some packet) {rcp : ServiceRecipient} (hrcp : rcp ∈ packet.recipients)
    {notice : Notice} (hnotice : w.db (.inr (.notice rcp.notificationId)) = some notice) :
    ∀ e ∈ notice.attempts, ∃ claim sid s read looked, StartedBy cfg w₀ w packet rcp e claim sid s read looked := by
  obtain ⟨_, w₁, sid, s, a, userId, filingId, key, data, hsent⟩ := h.sent_at hpacket
  obtain ⟨new, hnew, hnewNotice⟩ := hsent.new_notice hrcp
  have hrun := hsent.after
  suffices hall : ∀ w', Steps (bothPortal cfg) (w₁.committed sid s a) w' → ∃ notice,
      w'.db (.inr (.notice rcp.notificationId)) = some notice ∧
      ∀ e ∈ notice.attempts, ∃ claim sid s read looked, StartedBy cfg w₀ w' packet rcp e claim sid s read looked by
    obtain ⟨_, hsame, hattempts⟩ := hall w hsent.later
    cases hnotice.symm.trans hsame
    exact hattempts
  intro w' hs
  induction hs with
  | refl =>
    refine ⟨new, hnew, ?_⟩
    rw [hnewNotice.kept.2.2.2.2]
    simp
  | @tail w₂ w₃ hs₂ hs₃ ih =>
    obtain ⟨notice, hnotice, hattempts⟩ := ih
    have hrun₂ := hrun.trans hs₂
    have hlater : ∀ e ∈ notice.attempts,
        ∃ claim sid s read looked, StartedBy cfg w₀ w₃ packet rcp e claim sid s read looked := by
      intro e he
      obtain ⟨claim, sid, s, read, looked, hstarted⟩ := hattempts e he
      exact ⟨claim, sid, s, read, looked, hstarted.later (.single hs₃)⟩
    rcases BothRun.step_cases hs₃ with heq | ⟨sid, s, a, hc, rfl⟩
    · exact ⟨notice, (heq (.inr (.notice rcp.notificationId)) rfl).trans hnotice, hlater⟩
    · obtain ⟨hold, hsame | ⟨notice', hnotice', hstep⟩⟩ := hrun₂.notice_step hc hnotice
      · exact ⟨notice, hsame, hlater⟩
      · refine ⟨notice', hnotice', fun e he => ?_⟩
        have hpacket₂ := hrun.packet_kept hs₂ hsent.saved
        obtain ⟨_, hsame, _, hservice, hrecipient⟩ := (hrun₂.is_announced hpacket₂ hrcp).notice
        cases hnotice.symm.trans hsame
        rcases hstep.attempts hnotice hold with hsame | ⟨account, seen, time, hr, haccount, hseen, hnone, hnew⟩
        · exact hlater e (hsame ▸ he)
        · rcases List.mem_append.1 (hnew ▸ he) with he | he
          · exact hlater e he
          · cases List.mem_singleton.1 he
            obtain ⟨haddressed, hcontext⟩ := Notice.refusal_none hnone hservice
            obtain ⟨read, hread⟩ := hrun₂.steps.answered_at hrun₂.start.idle hc.found hseen
            obtain ⟨looked, hlooked⟩ := hrun₂.steps.answered_at hrun₂.start.idle hc.found haccount
            obtain rfl := hread.snapshot
            have hrouted := emailContext_routed ⟨hrun₂.start, hread.reached⟩ hread.later hpacket₂ hrcp hcontext
            have hemail := hrun₂.addressed hpacket₂ hrcp hnotice
            obtain ⟨acc, rfl, hactive, hverified, hmatch⟩ := Notice.isAddressed_account haddressed
            rw [hrecipient] at hlooked
            exact ⟨w₂, sid, s, read, looked, hrun₂, hr, ⟨a, notice, notice', hc, .refl, hnotice, hnotice', hnew⟩,
              ⟨hread, hrouted⟩, ⟨acc, hlooked, hactive, hverified.trans hemail, hverified.trans hmatch.symm⟩, rfl⟩

/-! ## The law -/

theorem Routed.unrevised {caseId : CaseId} {rcp : ServiceRecipient} {case : CaseFile} {contact : ServiceContact}
    {p : CaseParticipant} {account : Account} (hr : Routed cfg w'.db caseId rcp case contact p account)
    (h : BothRun cfg w₀ w) (hs : Steps (bothPortal cfg) w w') {c : ServiceContact}
    (hc : c ∈ w.db (.inr (.contacts caseId))) (hid : c.id = rcp.contactId) : c.version ≤ rcp.contactVersion := by
  obtain ⟨c', hc', hid', hversion⟩ := h.contact_since hs hc
  have hcontact := List.mem_of_find?_eq_some hr.contact_eq
  have hcontactId : contact.id = rcp.contactId := by simpa using List.find?_some hr.contact_eq
  have hsame : c' = contact := by
    refine List.inj_on_of_nodup_map ((h.trans hs).contacts_distinct caseId) hc' hcontact ?_
    rw [hid', hid, hcontactId]
  subst hsame
  rw [← hr.version]
  rcases hversion with rfl | hlt
  · exact le_rfl
  · omega

/-- **The routing law of a delivery.** Its email is for the address that the packet froze. Every attempt was started by
a claim that read the recipient's account with this address, and a state in which the delivery may be announced; no
later version of the contact was there before that. -/
structure RoutingLaw (cfg : Settings) (w₀ w : BothWorld) (packet : ServicePacket) (rcp : ServiceRecipient)
    (notice : Notice) : Prop where
  address : notice.emailRecipient = rcp.contactSnapshot.email
  started : ∀ e ∈ notice.attempts, ∃ claim sid s read looked, StartedBy cfg w₀ w packet rcp e claim sid s read looked ∧
    ∀ w₁, BothRun cfg w₀ w₁ → Steps (bothPortal cfg) w₁ read →
      ∀ c ∈ w₁.db (.inr (.contacts packet.caseId)), c.id = rcp.contactId → c.version ≤ rcp.contactVersion

/-- **Deliveries follow the court's service instructions.** -/
theorem BothRun.routing (h : BothRun cfg w₀ w) {id : PacketId} {packet : ServicePacket}
    (hpacket : w.db (.inr (.packet id)) = some packet) {rcp : ServiceRecipient} (hrcp : rcp ∈ packet.recipients)
    {notice : Notice} (hnotice : w.db (.inr (.notice rcp.notificationId)) = some notice) :
    RoutingLaw cfg w₀ w packet rcp notice := by
  refine ⟨h.addressed hpacket hrcp hnotice, fun e he => ?_⟩
  obtain ⟨claim, sid, s, read, looked, hstarted⟩ := h.started_by hpacket hrcp hnotice e he
  obtain ⟨_, case, contact, p, account, hrouted⟩ := hstarted.routed
  refine ⟨claim, sid, s, read, looked, hstarted, fun w₁ hrun hs c hc hid => ?_⟩
  exact hrouted.unrevised hrun hs hc hid

def claimedWorld : BothWorld := sentWorld.serveAll (bothPortal mailedSettings) 4 [(5000, .claimNextEmail 17)]

/-- The alert that the worker claimed is sent to the defendant. -/
theorem BothRun.routing_claimed : ∃ packet rcp notice, claimedWorld.db (.inr (.packet 16)) = some packet ∧
    rcp ∈ packet.recipients ∧ claimedWorld.db (.inr (.notice rcp.notificationId)) = some notice ∧
    notice.attempts.length = 1 ∧ RoutingLaw mailedSettings mailedWorld claimedWorld packet rcp notice := by
  have hrun : BothRun mailedSettings mailedWorld claimedWorld := sentWorld_serve (by decide +kernel)
  have hsent : (claimedWorld.db (.inr (.packet 16))).any (fun packet => packet.recipients.any fun rcp =>
      (claimedWorld.db (.inr (.notice rcp.notificationId))).any fun notice => notice.attempts.length == 1) = true := by
    decide +kernel
  obtain ⟨packet, hpacket, hrecipient⟩ := (Option.any_eq_true _ _).1 hsent
  obtain ⟨rcp, hrcp, hnotice⟩ := List.any_eq_true.1 hrecipient
  obtain ⟨notice, hnotice, hattempts⟩ := (Option.any_eq_true _ _).1 hnotice
  exact ⟨packet, rcp, notice, hpacket, hrcp, hnotice, by simpa using hattempts, hrun.routing hpacket hrcp hnotice⟩

end Muefs
