import Muefs.Portal.Relay
import Muefs.Laws.Delivery

/-!
# What an exchange with the relay is taken for

* `PayloadSent` : the exchange in which the message is sent; `openExchange_iff`;
* `Reply.refuses`, `Reply.misread` : a refusal, and a reply that is none but is taken for one;
* `HonestSend` : no failure is reported where the relay may have accepted; `sendEmail_honest` : when that holds.
-/

namespace Muefs

variable {cfg : RelaySettings} {asciiEmail : String → Except SmtpError (Option String)} {relay : Relay}
  {notice : Notice}

/-! ## The exchange -/

/-- The calls before the message all succeed, so that the message is sent. -/
structure PayloadSent (cfg : RelaySettings) (asciiEmail : String → Except SmtpError (Option String)) (relay : Relay)
    (notice : Notice) : Prop where
  complete : notice.emailMessage.isSome = true
  sender : ∃ sender ascii, notice.emailSender = some sender ∧ sender ≠ "" ∧ asciiEmail sender = .ok (some ascii)
  recipient : ∃ recipient ascii, notice.emailRecipient = some recipient ∧ recipient ≠ "" ∧
    asciiEmail recipient = .ok (some ascii)
  connected : relay.connect = .ok ()
  secured : cfg.smtpTls = .starttls → relay.starttls = .ok ()
  signedIn : cfg.smtpUsername ≠ "" → relay.login = .ok ()
  greeted : relay.hello = .ok ()
  mailed : relay.mail = .code 250
  addressed : relay.rcpt = .code 250 ∨ relay.rcpt = .code 251
  asked : relay.data = .code 354

theorem Reply.get_ok {reply : Reply} {n : Int} : reply.get = .ok n ↔ reply = .code n := by
  cases reply <;> simp [Reply.get]

theorem callIf_ok {c : Prop} [Decidable c] {call : Except SmtpError Unit} {u : Unit} :
    callIf c call = .ok u ↔ (c → call = .ok ()) := by
  unfold callIf
  by_cases hc : c
  · simp [hc]
  · simp [hc]

theorem refusal_ne_accepted (code : Int) : refusal code ≠ .accepted := by
  unfold refusal
  split <;> exact SendOutcome.noConfusion

theorem openExchange_iff (sender recipient : String) : openExchange cfg asciiEmail relay sender recipient = .ok none ↔
    relay.connect = .ok () ∧ (cfg.smtpTls = .starttls → relay.starttls = .ok ()) ∧
      (cfg.smtpUsername ≠ "" → relay.login = .ok ()) ∧ relay.hello = .ok () ∧
      (∃ ascii, asciiEmail sender = .ok (some ascii)) ∧ (∃ ascii, asciiEmail recipient = .ok (some ascii)) ∧
      relay.mail = .code 250 ∧ (relay.rcpt = .code 250 ∨ relay.rcpt = .code 251) := by
  unfold openExchange
  simp only [except_bind_ok]
  constructor
  · rintro ⟨_, hconnect, _, htls, _, hlogin, _, hhello, a, ha, b, hb, h⟩
    split at h
    · cases h
    rename_i hsome
    simp only [not_or, Option.isNone_iff_eq_none] at hsome
    obtain ⟨⟨a', rfl⟩, b', rfl⟩ := And.intro (Option.ne_none_iff_exists'.1 hsome.1)
      (Option.ne_none_iff_exists'.1 hsome.2)
    obtain ⟨code, hmail, h⟩ := except_bind_ok.1 h
    split at h
    · cases h
    rename_i hcode
    obtain ⟨code', hrcpt, h⟩ := except_bind_ok.1 h
    split at h
    · cases h
    rename_i hcode'
    obtain rfl := Decidable.not_not.1 hcode
    refine ⟨hconnect, callIf_ok.1 htls, callIf_ok.1 hlogin, hhello, ⟨a', ha⟩, ⟨b', hb⟩, Reply.get_ok.1 hmail, ?_⟩
    have hrcpt := Reply.get_ok.1 hrcpt
    by_cases h250 : code' = 250
    · exact .inl (h250 ▸ hrcpt)
    · have h251 : code' = 251 := by
        by_contra hno
        exact hcode' ⟨h250, hno⟩
      exact .inr (h251 ▸ hrcpt)
  · rintro ⟨hconnect, htls, hlogin, hhello, ⟨a, ha⟩, ⟨b, hb⟩, hmail, hrcpt⟩
    refine ⟨(), hconnect, (), callIf_ok.2 htls, (), callIf_ok.2 hlogin, (), hhello, some a, ha, some b, hb, ?_⟩
    rw [if_neg (by simp), hmail]
    rcases hrcpt with hrcpt | hrcpt
    · rw [hrcpt]
      rfl
    · rw [hrcpt]
      rfl

theorem openExchange_some {sender recipient : String} {result : SendResult}
    (h : openExchange cfg asciiEmail relay sender recipient = .ok (some result)) : result.outcome ≠ .accepted := by
  unfold openExchange at h
  simp only [except_bind_ok] at h
  obtain ⟨_, _, _, _, _, _, _, _, a, _, b, _, h⟩ := h
  split at h
  · cases h
    exact SendOutcome.noConfusion
  obtain ⟨code, _, h⟩ := except_bind_ok.1 h
  split at h
  · cases h
    exact refusal_ne_accepted code
  obtain ⟨code', _, h⟩ := except_bind_ok.1 h
  split at h
  · cases h
    exact refusal_ne_accepted code'
  · cases h

theorem caught_ne_accepted {sending : Bool} {e : SmtpError} {result : SendResult} (h : caught sending e = .ok result) :
    result.outcome ≠ .accepted := by
  unfold caught at h
  split at h
  · cases h
    exact refusal_ne_accepted _
  · cases h
    exact SendOutcome.noConfusion
  · split at h <;> cases h <;> exact SendOutcome.noConfusion
  · cases h

/-! ## The final reply -/

/-- A reply that says the message was not accepted. -/
def Reply.refuses (reply : Reply) : Prop := ∃ n, reply = .code n ∧ 400 ≤ n ∧ n ≤ 599

/-- A reply that is neither an acceptance nor a refusal, and is taken for a refusal. -/
def Reply.misread (reply : Reply) : Prop :=
  reply = .overlong ∨ ∃ n, reply = .code n ∧ n ≠ 250 ∧ ¬ (400 ≤ n ∧ n ≤ 599)

def Reply.taken (reply : Reply) : Except SmtpError SendResult :=
  match reply.get with
  | .error e => caught true e
  | .ok n =>
    if n = 250 then .ok { outcome := .accepted, code := some n }
    else .ok { outcome := refusal n, code := some n, detail := some "SMTP relay refused the message" }

theorem Reply.taken_failed {reply : Reply} {result : SendResult} (h : reply.taken = .ok result)
    (hfailed : result.outcome = .temporaryFailure ∨ result.outcome = .permanentFailure) :
    reply.refuses ∨ reply.misread := by
  cases reply with
  | overlong => exact .inr (.inl rfl)
  | lost =>
    cases h
    simp at hfailed
  | code n =>
    by_cases hn : n = 250
    · subst hn
      cases h
      simp at hfailed
    · by_cases hrefuses : 400 ≤ n ∧ n ≤ 599
      · exact .inl ⟨n, rfl, hrefuses⟩
      · exact .inr (.inr ⟨n, rfl, hn, hrefuses⟩)

theorem Reply.taken_misread {reply : Reply} (h : reply.misread) : ∃ result, reply.taken = .ok result ∧
    (result.outcome = .temporaryFailure ∨ result.outcome = .permanentFailure) ∧ ¬ reply.refuses := by
  rcases h with rfl | ⟨n, rfl, hn, hrefuses⟩
  · refine ⟨_, rfl, .inr rfl, ?_⟩
    rintro ⟨n, hn, _⟩
    cases hn
  · refine ⟨_, if_neg hn, ?_, ?_⟩
    · simp only [refusal]
      split
      · exact .inl rfl
      · exact .inr rfl
    · rintro ⟨m, hm, h⟩
      cases hm
      exact hrefuses h

theorem Reply.taken_accepted {reply : Reply} {result : SendResult} (h : reply.taken = .ok result)
    (haccepted : result.outcome = .accepted) : reply = .code 250 := by
  cases reply with
  | overlong =>
    change caught true (.response 500) = .ok result at h
    exact absurd haccepted (caught_ne_accepted h)
  | lost =>
    change caught true .connection = .ok result at h
    exact absurd haccepted (caught_ne_accepted h)
  | code n =>
    by_cases hn : n = 250
    · rw [hn]
    · simp only [taken, get, if_neg hn, Except.ok.injEq] at h
      subst h
      exact absurd haccepted (refusal_ne_accepted n)

theorem sendEmail_sent (h : PayloadSent cfg asciiEmail relay notice) :
    sendEmail cfg asciiEmail relay notice = relay.final.taken := by
  obtain ⟨sender, a, hsender, hne, ha⟩ := h.sender
  obtain ⟨recipient, b, hrecipient, hne', hb⟩ := h.recipient
  obtain ⟨message, hmessage⟩ := Option.isSome_iff_exists.1 h.complete
  have hopen := (openExchange_iff sender recipient).2 ⟨h.connected, h.secured, h.signedIn, h.greeted, ⟨a, ha⟩, ⟨b, hb⟩,
    h.mailed, h.addressed⟩
  have hdata : relay.acceptsData = relay.final.get := by
    unfold Relay.acceptsData
    rw [h.asked]
    rfl
  unfold sendEmail Reply.taken
  rw [hsender, hrecipient, hmessage, Option.filter_some_pos (by simpa using hne),
    Option.filter_some_pos (by simpa using hne')]
  cases hget : relay.final.get <;> simp only [hopen, hdata, hget]

theorem sendEmail_unsent {result : SendResult} (h : ¬ PayloadSent cfg asciiEmail relay notice)
    (hresult : sendEmail cfg asciiEmail relay notice = .ok result) : result.outcome ≠ .accepted := by
  unfold sendEmail at hresult
  split at hresult
  · rename_i sender recipient message hsender hrecipient hmessage
    obtain ⟨hsender, hne⟩ := Option.filter_eq_some_iff.1 hsender
    obtain ⟨hrecipient, hne'⟩ := Option.filter_eq_some_iff.1 hrecipient
    split at hresult
    · exact caught_ne_accepted hresult
    · rename_i hopen
      cases hresult
      exact openExchange_some hopen
    · rename_i hopen
      obtain ⟨h₁, h₂, h₃, h₄, ⟨a, ha⟩, ⟨b, hb⟩, h₇, h₈⟩ := (openExchange_iff sender recipient).1 hopen
      split at hresult
      · exact caught_ne_accepted hresult
      · rename_i code hdata
        unfold Relay.acceptsData at hdata
        obtain ⟨n, hn, hdata⟩ := except_bind_ok.1 hdata
        split at hdata
        · cases hdata
        · rename_i h354
          have hasked : relay.data = .code 354 := by
            rw [Reply.get_ok.1 hn, Decidable.not_not.1 h354]
          exact absurd ⟨by rw [hmessage]; rfl, ⟨sender, a, hsender, by simpa using hne, ha⟩,
            ⟨recipient, b, hrecipient, by simpa using hne', hb⟩, h₁, h₂, h₃, h₄, h₇, h₈, hasked⟩ h
  · cases hresult
    exact SendOutcome.noConfusion

/-! ## Honest results -/

/-- The relay was sent the message and has not refused it. -/
def MayHaveAccepted (cfg : RelaySettings) (asciiEmail : String → Except SmtpError (Option String)) (relay : Relay)
    (notice : Notice) : Prop :=
  PayloadSent cfg asciiEmail relay notice ∧ ¬ relay.final.refuses

/-- A failure is reported, and the email queued again by itself, only where the relay cannot have accepted it; and it is
taken for accepted only after 250. -/
structure HonestSend (cfg : RelaySettings) (asciiEmail : String → Except SmtpError (Option String)) (relay : Relay)
    (notice : Notice) : Prop where
  definite : ∀ result, sendEmail cfg asciiEmail relay notice = .ok result →
    result.outcome = .temporaryFailure ∨ result.outcome = .permanentFailure →
    ¬ MayHaveAccepted cfg asciiEmail relay notice
  accepted : ∀ result, sendEmail cfg asciiEmail relay notice = .ok result → result.outcome = .accepted →
    PayloadSent cfg asciiEmail relay notice ∧ relay.final = .code 250
  requeued : ∀ result, sendEmail cfg asciiEmail relay notice = .ok result → ∀ current attempt now,
    current.deliveryStatus ≠ .pending → (finishAttempt current attempt result now).deliveryStatus = .pending →
    ¬ MayHaveAccepted cfg asciiEmail relay notice

theorem finishAttempt_requeues {current : Notice} {attempt : Nat} {result : SendResult} {now : Instant}
    (hbefore : current.deliveryStatus ≠ .pending)
    (h : (finishAttempt current attempt result now).deliveryStatus = .pending) :
      result.outcome = .temporaryFailure := by
  unfold finishAttempt at h
  split at h
  · exact absurd h hbefore
  · unfold SendResult.settle at h
    cases houtcome : result.outcome with
    | temporaryFailure => rfl
    | accepted =>
      rw [houtcome] at h
      cases h
    | unknown =>
      rw [houtcome] at h
      cases h
    | permanentFailure =>
      rw [houtcome] at h
      cases h

/-- **When a result is honest.** Unless the message was sent and the final reply was too long a line, or a code that is
neither 250 nor one of 400 to 599. -/
theorem sendEmail_honest (cfg : RelaySettings) (asciiEmail : String → Except SmtpError (Option String)) (relay : Relay)
    (notice : Notice) : HonestSend cfg asciiEmail relay notice ↔
      ¬ (PayloadSent cfg asciiEmail relay notice ∧ relay.final.misread) := by
  constructor
  · rintro h ⟨hsent, hmisread⟩
    obtain ⟨result, hresult, hfailed, hrefuses⟩ := Reply.taken_misread hmisread
    exact h.definite result ((sendEmail_sent hsent).trans hresult) hfailed ⟨hsent, hrefuses⟩
  · intro h
    have hdefinite : ∀ result, sendEmail cfg asciiEmail relay notice = .ok result →
        result.outcome = .temporaryFailure ∨ result.outcome = .permanentFailure →
        ¬ MayHaveAccepted cfg asciiEmail relay notice := by
      rintro result hresult hfailed ⟨hsent, hrefuses⟩
      rw [sendEmail_sent hsent] at hresult
      rcases Reply.taken_failed hresult hfailed with hr | hmisread
      · exact hrefuses hr
      · exact h ⟨hsent, hmisread⟩
    refine ⟨hdefinite, ?_, ?_⟩
    · intro result hresult haccepted
      by_cases hsent : PayloadSent cfg asciiEmail relay notice
      · rw [sendEmail_sent hsent] at hresult
        exact ⟨hsent, Reply.taken_accepted hresult haccepted⟩
      · exact absurd haccepted (sendEmail_unsent hsent hresult)
    · intro result hresult current attempt now hbefore hafter
      exact hdefinite result hresult (.inl (finishAttempt_requeues hbefore hafter))

def queuedNotice : Notice where
  id := 1
  noticeType := .filingAccepted
  recipientId := 2
  filingEnvelopeId := none
  deliveryStatus := .sending
  emailRecipient := some "filer@example.test"
  emailSender := some "portal@example.test"
  emailMessageId := some 1
  emailMessage := some {
    sender := "portal@example.test", recipient := "filer@example.test", date := 0, messageId := 1
    page := .notifications, reference := 1 }
  attemptCount := 1

/-- The relay takes the message, and a final reply that cannot be read is taken for a temporary failure. -/
theorem sendEmail_unreadable_reply :
    ¬ HonestSend {} (fun address => .ok (some address)) { final := .code (-1) } queuedNotice := by
  intro h
  have hsent : PayloadSent {} (fun address => .ok (some address)) { final := .code (-1) } queuedNotice :=
    ⟨rfl, ⟨_, _, rfl, by decide, rfl⟩, ⟨_, _, rfl, by decide, rfl⟩, rfl, fun _ => rfl, fun _ => rfl, rfl, rfl, .inl rfl,
      rfl⟩
  refine h.requeued _ (sendEmail_sent hsent) queuedNotice 1 0 (by decide) (by decide) ⟨hsent, ?_⟩
  rintro ⟨n, hn, hlow, hhigh⟩
  cases hn
  exact absurd hlow (by decide)

end Muefs
