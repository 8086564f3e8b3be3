import Muefs.Portal.Mail

/-!
# The email relay

* `SmtpError`, `Reply` : what goes wrong in an exchange, and what comes back for a command;
* `Relay` : what the relay does in one exchange; `Relay.acceptsData` : `SMTP.data`;
* `sendEmail` : the exchange, and what it is taken for.
-/

namespace Muefs

inductive SmtpTls where
  | starttls
  | ssl
  | plain
  deriving DecidableEq, Repr

/-- The settings of the relay. -/
structure RelaySettings where
  smtpTls : SmtpTls := .starttls
  smtpUsername : String := ""

inductive SmtpError where
  /-- `SMTPResponseException` -/
  | response (code : Int)
  /-- `OSError`, and every other `SMTPException` -/
  | connection
  /-- `EmailNotValidError` -/
  | notValid
  | other (name : String)
  deriving DecidableEq, Repr

/-- What comes back for a command: a reply, or none before the connection ends or the time is over, or a line that is
too long. A code that cannot be read is -1. -/
inductive Reply where
  | code (n : Int)
  | lost
  | overlong
  deriving DecidableEq, Repr

/-- `SMTP.getreply` -/
def Reply.get : Reply → Except SmtpError Int
  | .code n => .ok n
  | .lost => .error .connection
  | .overlong => .error (.response 500)

/-- What the relay does in one exchange. The calls before the first command of the message may fail in any way. -/
structure Relay where
  connect : Except SmtpError Unit := .ok ()
  starttls : Except SmtpError Unit := .ok ()
  login : Except SmtpError Unit := .ok ()
  hello : Except SmtpError Unit := .ok ()
  mail : Reply := .code 250
  rcpt : Reply := .code 250
  /-- The reply to `DATA`. -/
  data : Reply := .code 354
  /-- The reply to the message itself. -/
  final : Reply := .code 250

/-- `SMTP.data`. The message is sent if the reply to `DATA` is 354. -/
def Relay.acceptsData (relay : Relay) : Except SmtpError Int := do
  let code ← relay.data.get
  if code ≠ 354 then throw (.response code)
  relay.final.get

/-- `"temporary_failure" if code < 500 else "permanent_failure"` -/
def refusal (code : Int) : SendOutcome := if code < 500 then .temporaryFailure else .permanentFailure

/-- A call that is made under a condition. -/
def callIf (c : Prop) [Decidable c] (call : Except SmtpError Unit) : Except SmtpError Unit := if c then call else .ok ()

/-- The exchange up to the message. A refusal of an address ends it. `asciiEmail` is `validate_email(…).ascii_email`. -/
def openExchange (cfg : RelaySettings) (asciiEmail : String → Except SmtpError (Option String)) (relay : Relay)
    (emailSender emailRecipient : String) : Except SmtpError (Option SendResult) := do
  relay.connect
  callIf (cfg.smtpTls = .starttls) relay.starttls
  callIf (cfg.smtpUsername ≠ "") relay.login
  relay.hello
  let sender ← asciiEmail emailSender
  let recipient ← asciiEmail emailRecipient
  if sender.isNone ∨ recipient.isNone then
    return some { outcome := .permanentFailure, detail := some "SMTPUTF8 addresses require a supported relay" }
  let code ← relay.mail.get
  if code ≠ 250 then
    return some { outcome := refusal code, code := some code, detail := some "SMTP relay refused the sender" }
  let code ← relay.rcpt.get
  if code ≠ 250 ∧ code ≠ 251 then
    return some { outcome := refusal code, code := some code, detail := some "SMTP relay refused the recipient" }
  return none

/-- The clauses that catch. What none of them catches is raised. -/
def caught (sendingData : Bool) : SmtpError → Except SmtpError SendResult
  | .response code =>
    .ok { outcome := refusal code, code := some code, detail := some "SMTP relay rejected the exchange" }
  | .notValid => .ok { outcome := .permanentFailure, detail := some "Queued address is invalid" }
  | .connection =>
    if sendingData then
      .ok { outcome := .unknown, detail := some "The connection ended before the relay confirmed acceptance" }
    else .ok { outcome := .temporaryFailure, detail := some "Could not complete a connection to the email relay" }
  | .other name => .error (.other name)

/-- `send_email` -/
def sendEmail (cfg : RelaySettings) (asciiEmail : String → Except SmtpError (Option String)) (relay : Relay)
    (notice : Notice) : Except SmtpError SendResult :=
  match notice.emailSender.filter (· ≠ ""), notice.emailRecipient.filter (· ≠ ""), notice.emailMessage with
  | some sender, some recipient, some _ =>
    match openExchange cfg asciiEmail relay sender recipient with
    | .error e => caught false e
    | .ok (some result) => .ok result
    | .ok none => match relay.acceptsData with
      | .error e => caught true e
      | .ok code =>
        if code = 250 then .ok { outcome := .accepted, code := some code }
        else .ok { outcome := refusal code, code := some code, detail := some "SMTP relay refused the message" }
  | _, _, _ => .ok { outcome := .permanentFailure, detail := some "Queued email is incomplete" }

end Muefs
