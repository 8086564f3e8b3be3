import Muefs.Model.Notice

/-!
# Mail delivery

Every operation here is one transaction that holds the lock of the notice's row, so it is a function of the row.

* `claimEmail`, `finishAttempt`, `recoverInterrupted` : the mail worker;
* `retryDelivery`, `retryServiceDelivery`, `reportDeliveryFailure` : the endpoints for filers, senders and staff;
* `Outbox` : a notice with its service events and the workers that are sending it; `Outbox.step` : one operation;
  `Outbox.run` : operations one after the other, in any order.
-/

namespace Muefs

/-! ## The worker -/

/-- `MAX_AUTOMATIC_ATTEMPTS` -/
def maxAutomaticAttempts : Nat := 5

/-- `INTERRUPTED_AFTER`, in microseconds -/
def interruptedAfter : Int := 10 * 60 * 1000000

/-- The query of `claim_email` may pick this notice. -/
def Notice.isDue (notice : Notice) (now : Instant) : Bool :=
  notice.deliveryStatus == .pending && notice.nextAttemptAt.any (fun t => decide (t ≤ now))
    && notice.emailMessageId.isSome

/-- The recipient's account is still the one that the email was prepared for. -/
def Notice.isAddressed (cfg : Settings) (notice : Notice) (user : Option User) : Bool :=
  user.any fun u => u.isActive && u.verifiedEmail == notice.emailRecipient
    && some (cfg.lower (strip u.email)) == notice.emailRecipient

/-- Append a delivery event. -/
def Notice.log (notice : Notice) (event : DeliveryEvent) : Notice :=
  { notice with events := notice.events ++ [event] }

/-- The values that the update of `claim_email` sets. -/
def Notice.claimed (notice : Notice) (now : Instant) : Notice :=
  { notice with
    deliveryStatus := .sending
    lastAttemptAt := some now
    nextAttemptAt := none
    attemptCount := notice.attemptCount + 1 }

/-- Why a claimed notice is not sent. `context` is what `email_context` answers, for a service of process only. -/
def Notice.refusal (cfg : Settings) (notice : Notice) (user : Option User) (context : Option String) : Option String :=
  if !notice.isAddressed cfg user then some "Recipient verification or account changed before sending"
  else if notice.noticeType = .serviceOfProcess then context
  else none

/-- `claim_email`, on a notice that its query picked -/
def claimEmail (cfg : Settings) (notice : Notice) (user : Option User) (context : Option String) (now : Instant) :
    Notice :=
  let claimed := notice.claimed now
  match claimed.refusal cfg user context with
  | some error => { claimed with deliveryStatus := .blocked, lastError := some error }.log
      { attemptNumber := claimed.attemptCount, outcome := .blocked, occurredAt := now, detail := some error }
  | none => claimed.log { attemptNumber := claimed.attemptCount, outcome := .started, occurredAt := now }

/-- What `send_email` answers. -/
inductive SendOutcome where
  | accepted
  | unknown
  | temporaryFailure
  | permanentFailure
  deriving DecidableEq, Repr

def SendOutcome.outcome : SendOutcome → Outcome
  | .accepted => .accepted
  | .unknown => .unknown
  | .temporaryFailure => .temporaryFailure
  | .permanentFailure => .permanentFailure

structure SendResult where
  outcome : SendOutcome
  code : Option Int := none
  detail : Option String := none
  deriving DecidableEq

/-- The event of a report. -/
def SendResult.event (result : SendResult) (attempt : Nat) (now : Instant) : DeliveryEvent where
  attemptNumber := attempt
  outcome := result.outcome.outcome
  occurredAt := now
  smtpCode := result.code
  detail := result.detail

/-- What the report of the current attempt changes. -/
def SendResult.settle (result : SendResult) (notice : Notice) (now : Instant) : Notice :=
  match result.outcome with
  | .accepted => { notice with lastError := result.detail, deliveryStatus := .sent, sentAt := some now }
  | .unknown => { notice with lastError := result.detail, deliveryStatus := .unknown }
  | .temporaryFailure =>
    if notice.attemptCount < maxAutomaticAttempts then
      { notice with
        lastError := result.detail
        deliveryStatus := .pending
        nextAttemptAt := some (now + 2 ^ notice.attemptCount * 60 * 1000000) }
    else { notice with lastError := result.detail, deliveryStatus := .failed }
  | .permanentFailure => { notice with lastError := result.detail, deliveryStatus := .failed }

/-- `finish_attempt`, by the worker that claimed attempt number `attempt` -/
def finishAttempt (current : Notice) (attempt : Nat) (result : SendResult) (now : Instant) : Notice :=
  let logged := current.log (result.event attempt now)
  if current.attemptCount ≠ attempt ∨ (current.deliveryStatus ≠ .sending ∧ current.deliveryStatus ≠ .unknown) then
    logged
  else result.settle logged now

/-- `recover_interrupted` -/
def recoverInterrupted (notice : Notice) (now : Instant) : Notice :=
  if notice.deliveryStatus = .sending ∧ notice.lastAttemptAt.any (fun t => decide (t ≤ now - interruptedAfter)) then
    let error := "Worker stopped before recording an outcome; inspect relay records"
    { notice with deliveryStatus := .unknown, lastError := some error }.log
      { attemptNumber := notice.attemptCount, outcome := .unknown, occurredAt := now, detail := some error }
  else notice

/-! ## Retries -/

/-- Go on only if `c` holds. -/
def check (c : Prop) [Decidable c] (e : Failure) : Except Failure Unit := if c then .ok () else .error e

/-- `_notice_for_viewer`: whether the viewer is staff of the court of the notice's filing -/
def noticeForViewer (notice : Notice) (courtId : Option CourtId) (userId : UserId) (account : Account) :
    Except Failure Bool := do
  let staff := courtId.any account.isCourtStaff
  check (notice.recipientId = userId ∨ staff = true) (.http 403 "Notice recipient or assigned court staff required")
  return staff

/-- What a retry of a notice brings, with what its transaction read. -/
structure NoticeRetry where
  userId : UserId
  account : Account
  /-- The court of the notice's filing. -/
  courtId : Option CourtId
  reason : String
  /-- The recipient's account. -/
  recipient : Option User
  now : Instant
  messageId : Nat

/-- `POST /notifications/{notice_id}/retry` -/
def retryDelivery (cfg : Settings) (notice : Notice) (data : NoticeRetry) : Except Failure Notice := do
  let staff ← noticeForViewer notice data.courtId data.userId data.account
  check (notice.noticeType ≠ .serviceOfProcess)
    (.http 409 "Review and retry this alert from its document delivery record")
  check (cfg.emailDeliveryEnabled = true) (.http 503 "Email delivery is not enabled")
  check (strip data.reason ≠ "") (.http 400 "A reason for retrying is required")
  check (notice.deliveryStatus ∈ [.disabled, .blocked, .failed, .unknown, .legacy])
    (.http 409 "Notice is already queued, sending or sent")
  check (notice.deliveryStatus ∉ [.unknown, .legacy] ∨ staff = true)
    (.http 403 "Court staff must review an uncertain outcome")
  let queued ← queueEmail cfg notice none data.recipient data.now data.messageId (some data.userId)
    (some (strip data.reason))
  check (queued.deliveryStatus ≠ .blocked) (.http 409 (queued.lastError.getD ""))
  return queued

/-! ## Document deliveries -/

/-- A delivery to one recipient, as `require_delivery_viewer` reads it. -/
structure Delivery where
  recipientId : UserId
  /-- Who sent the packet. -/
  senderId : UserId
  filingId : FilingId
  /-- The filer of the packet's filing. -/
  filerId : UserId
  /-- The court of the packet's case. -/
  courtId : CourtId
  /-- The recipient takes part in the case and may read it. -/
  recipientMayRead : Bool

/-- `require_delivery_viewer`: whether the account is staff of the case's court -/
def requireDeliveryViewer (actorId : UserId) (account : Account) (delivery : Delivery) : Except Failure Bool := do
  let staff := account.isCourtStaff delivery.courtId
  check (account.user.isActive = true) (.http 403 "Account is unavailable")
  let sender := actorId == delivery.senderId && (staff || delivery.filerId == actorId)
  check (sender = true ∨ staff = true ∨ actorId = delivery.recipientId)
    (.http 403 "Delivery recipient, sender or assigned court staff required")
  check (sender = true ∨ staff = true ∨ delivery.recipientMayRead = true)
    (.http 403 "Current case participation and access are required")
  return staff

/-- What a retry of a delivery brings, with what its transaction read. -/
structure ServiceRetry where
  actorId : UserId
  account : Account
  delivery : Delivery
  reason : String
  /-- What `email_context` answers. -/
  context : Option String
  recipient : Option User
  now : Instant
  messageId : Nat

/-- `POST /service/deliveries/{delivery_id}/retry` -/
def retryServiceDelivery (cfg : Settings) (notice : Notice) (data : ServiceRetry) :
    Except Failure (Notice × ServiceEvent) := do
  check (data.account.user.isActive = true) (.http 403 "This account is no longer active")
  let staff ← requireDeliveryViewer data.actorId data.account data.delivery
  check (data.actorId = data.delivery.senderId ∨ staff = true)
    (.http 403 "The sender or assigned court staff must request a retry")
  check (staff = true ∨ data.account.user.userType ≠ .publicUser) (.http 403 publicAccountRefusal)
  check (notice.deliveryStatus ∈ [.blocked, .disabled, .failed, .unknown, .legacy, .failureReported])
    (.http 409 "The alert is already queued, sending or accepted by the relay")
  check (notice.deliveryStatus ∉ [.unknown, .legacy, .failureReported] ∨ staff = true)
    (.http 403 "Court staff must review this delivery outcome before retrying")
  check (data.context = none) (.http 409 (data.context.getD ""))
  let queued ← queueEmail cfg notice data.context data.recipient data.now data.messageId (some data.actorId)
    (some data.reason)
  return (queued, .retryRequested data.actorId data.reason)

/-- What a failure report brings, with what its transaction read. -/
structure FailureReport where
  actorId : UserId
  account : Account
  delivery : Delivery
  key : Uuid
  data : ServiceFailureReport
  now : Instant
  /-- The notice that tells the sender, and the sender's account. -/
  alert : Notice
  sender : Option User
  messageId : Nat

/-- The report that an earlier request recorded under this key. -/
def previousReport (events : List ServiceEvent) (key : Uuid) : Option (Digest ServiceFailureReport) :=
  events.findSome? fun
    | .failureReported _ k sha _ _ => if k = key then some sha else none
    | _ => none

/-- The sender's alert of a failure report. -/
def alertSender (cfg : Settings) (report : FailureReport) : Except Failure Unit :=
  if report.delivery.senderId ≠ report.actorId then do
    let _ ← queueEmail cfg report.alert none report.sender report.now report.messageId (some report.actorId)
      (some "Delivery-failure report recorded")
    return ()
  else .ok ()

/-- `POST /service/deliveries/{delivery_id}/failure-reports`. A report under a used key answers without an event. -/
def reportDeliveryFailure (cfg : Settings) (notice : Notice) (events : List ServiceEvent) (report : FailureReport) :
    Except Failure (Notice × Option ServiceEvent) := do
  check (report.account.user.isActive = true) (.http 403 "This account is no longer active")
  let staff ← requireDeliveryViewer report.actorId report.account report.delivery
  check (staff = true) (.http 403 "Assigned court staff must review delivery-failure reports")
  match previousReport events report.key with
  | some sha => do
    check (sha = .of report.data) (.http 409 "This report key was already used for different information")
    return (notice, none)
  | none => do
    check (notice.emailMessageId = some report.data.expectedMessageId ∧
        notice.attemptCount = report.data.expectedAttemptCount)
      (.http 409 "The delivery attempt changed. Refresh and review it before reporting")
    check (notice.deliveryStatus ∈ [.sent, .unknown, .failureReported])
      (.http 409 "Review a completed or uncertain transmission before reporting a failure")
    check (report.data.observedAt ≤ report.now ∧
        notice.lastAttemptAt.any (fun t => decide (t / 1000000 * 1000000 ≤ report.data.observedAt)) = true)
      (.http 422 "The report time must follow the transmission and cannot be in the future")
    alertSender cfg report
    return ({ notice with
      deliveryStatus := .failureReported
      nextAttemptAt := none
      lastError := some ("Delivery failure reported: " ++ report.data.description) },
      some (.failureReported report.actorId report.key (.of report.data) notice.deliveryStatus notice.emailRecipient))

/-! ## The outbox -/

/-- A notice, the events of its delivery, and the attempts whose workers are sending. -/
structure Outbox where
  notice : Notice
  events : List ServiceEvent := []
  workers : List Nat := []

/-- One operation, with what it reads from other rows. -/
inductive MailAction where
  | claim (user : Option User) (context : Option String) (now : Instant)
  /-- The worker of this attempt stops without a report. -/
  | die (attempt : Nat)
  | finish (attempt : Nat) (result : SendResult) (now : Instant)
  | recover (now : Instant)
  | retry (data : NoticeRetry)
  | retryService (data : ServiceRetry)
  | report (data : FailureReport)

/-- The state after an operation, if it is not refused. A worker sends only what it has claimed, and reports once. -/
def Outbox.step (cfg : Settings) (o : Outbox) : MailAction → Option Outbox
  | .claim user context now =>
    if o.notice.isDue now then
      let claimed := claimEmail cfg o.notice user context now
      some { o with
        notice := claimed
        workers := if claimed.deliveryStatus = .sending then claimed.attemptCount :: o.workers else o.workers }
    else none
  | .die attempt => if attempt ∈ o.workers then some { o with workers := o.workers.erase attempt } else none
  | .finish attempt result now =>
    if attempt ∈ o.workers then
      some { o with notice := finishAttempt o.notice attempt result now, workers := o.workers.erase attempt }
    else none
  | .recover now => some { o with notice := recoverInterrupted o.notice now }
  | .retry data => (retryDelivery cfg o.notice data).toOption.map fun notice => { o with notice }
  | .retryService data => (retryServiceDelivery cfg o.notice data).toOption.map fun r =>
    { o with notice := r.1, events := o.events ++ [r.2] }
  | .report data => (reportDeliveryFailure cfg o.notice o.events data).toOption.map fun r =>
    { o with notice := r.1, events := o.events ++ r.2.toList }

/-- Operations one after the other. -/
def Outbox.run (cfg : Settings) : List MailAction → Outbox → Option Outbox
  | [], o => some o
  | a :: as, o => (o.step cfg a).bind (Outbox.run cfg as)

/-- A notice whose delivery has not begun. -/
structure Outbox.Initial (o : Outbox) : Prop where
  unstarted : ∀ e ∈ o.notice.events, e.outcome ≠ .started
  idle : o.workers = []

end Muefs
