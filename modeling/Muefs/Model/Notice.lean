import Muefs.Model.Filing
import Muefs.Model.People

/-!
# Notices and the emails that announce them

* `Notice` : a row of `notifications` without its text, with its delivery events and those of the delivery it announces;
* `queueEmail` : prepare the email of a notice and put it in the queue, or say why not;
* `noticeOf` : the notice of a transaction, before its email is queued.
-/

namespace Muefs

inductive NoticeType where
  | filingSubmitted
  | filingAccepted
  | filingRejected
  | filingReturned
  | serviceOfProcess
  | caseUpdate
  deriving DecidableEq, Repr

inductive DeliveryStatus where
  | disabled
  | blocked
  | pending
  | sending
  | sent
  | unknown
  | legacy
  | failed
  | failureReported
  deriving DecidableEq, Repr

/-- `outcome` of a delivery event -/
inductive Outcome where
  | queued
  | started
  | blocked
  | accepted
  | unknown
  | temporaryFailure
  | permanentFailure
  /-- Written for notices from before the outbox. -/
  | legacyStatus
  deriving DecidableEq, Repr

/-- The page that an email points to. -/
inductive NoticePage where
  | delivery
  | history (filing : FilingId)
  | notifications
  deriving DecidableEq

structure EmailMessage where
  sender : String
  recipient : String
  date : Instant
  messageId : Nat
  page : NoticePage
  reference : NoticeId
  deriving DecidableEq

/-- A row of `notification_delivery_events`. -/
structure DeliveryEvent where
  attemptNumber : Nat
  outcome : Outcome
  occurredAt : Instant
  detail : Option String := none
  smtpCode : Option Int := none
  actorId : Option UserId := none
  message : Option EmailMessage := none
  deriving DecidableEq

/-- `ServiceFailureReport` -/
structure ServiceFailureReport where
  source : String
  sourceReference : String
  description : String
  observedAt : Instant
  expectedMessageId : Nat
  expectedAttemptCount : Nat
  deriving DecidableEq

/-- A row of `service_events`, but for those of downloads. -/
inductive ServiceEvent where
  | retryRequested (actorId : UserId) (reason : String)
  | failureReported (actorId : UserId) (key : Uuid) (requestSha256 : Digest ServiceFailureReport)
      (previousStatus : DeliveryStatus) (emailRecipient : Option String)
  | acknowledged (actorId : UserId)
  deriving DecidableEq

structure Notice where
  id : NoticeId
  noticeType : NoticeType
  recipientId : UserId
  filingEnvelopeId : Option FilingId
  deliveryStatus : DeliveryStatus := .disabled
  emailRecipient : Option String := none
  emailSender : Option String := none
  emailMessageId : Option Nat := none
  emailMessage : Option EmailMessage := none
  attemptCount : Nat := 0
  nextAttemptAt : Option Instant := none
  lastAttemptAt : Option Instant := none
  lastError : Option String := none
  sentAt : Option Instant := none
  events : List DeliveryEvent := []
  /-- Those of the delivery that it announces, which are written under its row lock. -/
  serviceEvents : List ServiceEvent := []
  deriving DecidableEq

/-- The recipient has an active account with a verified email that is still the account's. -/
def mayReceiveEmail (cfg : Settings) (user : User) : Bool :=
  user.isActive && user.verifiedEmail.any (· ≠ "") && user.verifiedEmail == some (cfg.lower (strip user.email))

/-- `queue_email`. `context` is what `email_context` answers, for a service of process only; `messageId` is drawn for
the new message. An email configuration that does not pass its own check raises. -/
def queueEmail (cfg : Settings) (notice : Notice) (context : Option String) (user : Option User) (now : Instant)
    (messageId : Nat) (actorId : Option UserId) (reason : Option String) : Except Failure Notice :=
  if !cfg.emailDeliveryEnabled then .ok { notice with deliveryStatus := .disabled }
  else match cfg.emailConfigError with
    | some detail => .error (.value detail)
    | none =>
      match (if notice.noticeType = .serviceOfProcess then context else none) with
      | some error => .ok { notice with deliveryStatus := .blocked, lastError := some error }
      | none =>
        match user.filter (mayReceiveEmail cfg) with
        | none => .ok { notice with
            deliveryStatus := .blocked
            lastError := some "Recipient needs an active account and a verified matching email" }
        | some user =>
          let page := if notice.noticeType = .serviceOfProcess then .delivery
            else match notice.filingEnvelopeId with
              | some filing => .history filing
              | none => .notifications
          let message : EmailMessage := {
            sender := cfg.smtpFrom
            recipient := user.verifiedEmail.getD ""
            date := now
            messageId
            page
            reference := notice.id }
          .ok { notice with
            emailRecipient := user.verifiedEmail
            emailSender := some cfg.smtpFrom
            emailMessageId := some messageId
            emailMessage := some message
            deliveryStatus := .pending
            sentAt := none
            nextAttemptAt := some now
            lastError := none
            events := notice.events ++ [{
              attemptNumber := notice.attemptCount + 1
              outcome := .queued
              occurredAt := now
              actorId
              detail := reason
              message := some message }] }

theorem queueEmail_kept {cfg : Settings} {notice notice' : Notice} {context : Option String} {user : Option User}
    {now : Instant} {messageId : Nat} {actorId : Option UserId} {reason : Option String}
    (h : queueEmail cfg notice context user now messageId actorId reason = .ok notice') :
    notice'.id = notice.id ∧ notice'.recipientId = notice.recipientId ∧
      notice'.filingEnvelopeId = notice.filingEnvelopeId := by
  unfold queueEmail at h
  split at h
  · cases h
    exact ⟨rfl, rfl, rfl⟩
  · split at h
    · cases h
    · split at h
      · cases h
        exact ⟨rfl, rfl, rfl⟩
      · split at h <;> cases h <;> exact ⟨rfl, rfl, rfl⟩

/-- The type of the notice that `notify_filing_status_change` writes. -/
def noticeTypeOf : EventType → NoticeType
  | .submitted => .filingSubmitted
  | .accepted => .filingAccepted
  | .rejected => .filingRejected
  | .returned => .filingReturned
  | _ => .caseUpdate

/-- The notice of a transaction, before its email is queued. -/
def noticeOf (id : NoticeId) (filing : FilingEnvelope) (event : EventType) : Notice where
  id := id
  noticeType := noticeTypeOf event
  recipientId := filing.filerId
  filingEnvelopeId := some filing.id

end Muefs
