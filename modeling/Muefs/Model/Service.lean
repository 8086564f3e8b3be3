import Muefs.Model.Notice

/-!
# Document deliveries

* `routingIssues` : why a contact cannot be served now;
* `ContactSnapshot`, `contactSnapshot` : service instructions as they are kept with a delivery;
* `ContactEvent` : what the audit log says of them;
* `ServicePacket` : the documents of a receipt that were selected, with a `ServiceRecipient` for each addressee;
* `Notice.attempts`, `Notice.Steady` : the attempts of an email in its history, and what leaves them alone.
-/

namespace Muefs

/-! ## Contacts -/

/-- The verified email of the account is still the account's, and the contact's. -/
def contactMatches (cfg : Settings) (userId : UserId) (user : User) (contact : ServiceContact) : Bool :=
  contact.userId == some userId && user.verifiedEmail.any (· ≠ "")
    && user.verifiedEmail == some (cfg.lower (strip user.email)) && user.verifiedEmail == contact.email

/-- The issues of `routing_issues` that only electronic service has. -/
def electronicIssues (cfg : Settings) (case : Case) (p : CaseParticipant) (account : Option (UserId × User))
    (contact : ServiceContact) : List String :=
  (match account.filter fun a => a.2.isActive && (a.2.keycloakId.any (· ≠ "") || cfg.allowDemoMode) with
    | none => ["Electronic routing requires an active account linked to the identity provider."]
    | some (id, user) =>
      if contactMatches cfg id user contact then []
      else ["The service email must match the linked account's current verified email."]) ++
  (if case.isSealed && !p.accessEnabled then
    ["Electronic routing requires this participant's restricted-case access grant."] else []) ++
  (if p.role.isCounsel && !account.any (fun a => counselMatches a.2 p) then
    ["Counsel routing requires the linked attorney's matching verified bar number."] else [])

/-- `routing_issues` -/
def routingIssues (cfg : Settings) (case : Case) (p : CaseParticipant) (account : Option (UserId × User))
    (contact : ServiceContact) : List String :=
  (if contact.isActive then [] else ["These service instructions are inactive."]) ++
  (if p.isActive && p.reviewedAt.isSome then [] else ["The participant needs an active, court-reviewed record."]) ++
  (if contact.participantSnapshot = some (participantSnapshot p) then []
    else ["The participant record changed. Court review of these instructions is required."]) ++
  (if contact.method = .electronic then electronicIssues cfg case p account contact else [])

/-- `CONTACT_SNAPSHOT_FIELDS` -/
structure ContactSnapshot where
  id : ContactId
  participantId : ParticipantId
  participantSnapshot : Option ParticipantSnapshot
  userId : Option UserId
  name : String
  method : ServiceMethod
  email : Option String
  address : Option String
  isActive : Bool
  authority : Option String
  version : Nat
  deriving DecidableEq, Repr

/-- `contact_snapshot` -/
def contactSnapshot (contact : ServiceContact) : ContactSnapshot where
  id := contact.id
  participantId := contact.participantId
  participantSnapshot := contact.participantSnapshot
  userId := contact.userId
  name := contact.name
  method := contact.method
  email := contact.email
  address := contact.address
  isActive := contact.isActive
  authority := contact.authority
  version := contact.version

/-- The details of `case.service_contact_changed` in the audit log. -/
structure ContactEvent where
  participantId : ParticipantId
  actorName : String
  reason : String
  before : Option ContactSnapshot
  after : ContactSnapshot
  deriving DecidableEq, Repr

/-! ## Packets -/

/-- The selection whose fingerprint a packet keeps. -/
structure PacketFields where
  filingId : FilingId
  sourceTransactionId : TransactionId
  documents : List DocumentId
  recipients : List (ContactId × Nat)
  deriving DecidableEq

structure ServiceRecipient where
  id : DeliveryId
  recipientId : UserId
  contactId : ContactId
  contactVersion : Nat
  contactSnapshot : ContactSnapshot
  notificationId : NoticeId
  deriving DecidableEq

/-- A packet with its recipients; neither changes. -/
structure ServicePacket where
  id : PacketId
  caseId : CaseId
  filingId : FilingId
  sourceTransactionId : TransactionId
  actorId : UserId
  actorName : String
  createdAt : Instant
  idempotencyKey : Uuid
  requestSha256 : Digest PacketFields
  courtName : Option String
  caseNumber : String
  caseTitle : String
  documents : List DocumentResponse
  recipients : List ServiceRecipient
  deriving DecidableEq

/-! ## Notices of deliveries -/

/-- The recipient acknowledged the delivery. -/
def ServiceEvent.isAcknowledgment : ServiceEvent → Bool
  | .acknowledged _ => true
  | _ => false

/-- The attempts that were started, in their order. -/
def Notice.attempts (notice : Notice) : List DeliveryEvent := notice.events.filter fun e => e.outcome == .started

/-- Addressee and subject stay, and nothing is started. -/
structure Notice.Steady (notice notice' : Notice) : Prop where
  id : notice'.id = notice.id
  noticeType : notice'.noticeType = notice.noticeType
  recipientId : notice'.recipientId = notice.recipientId
  attempts : notice'.attempts = notice.attempts

theorem queueEmail_steady {cfg : Settings} {notice notice' : Notice} {context : Option String} {user : Option User}
    {now : Instant} {messageId : Nat} {actorId : Option UserId} {reason : Option String}
    (h : queueEmail cfg notice context user now messageId actorId reason = .ok notice') :
    notice.Steady notice' ∧ notice'.serviceEvents = notice.serviceEvents := by
  unfold queueEmail at h
  split at h
  · cases h
    exact ⟨⟨rfl, rfl, rfl, rfl⟩, rfl⟩
  · split at h
    · cases h
    · split at h
      · cases h
        exact ⟨⟨rfl, rfl, rfl, rfl⟩, rfl⟩
      · split at h
        · cases h
          exact ⟨⟨rfl, rfl, rfl, rfl⟩, rfl⟩
        · cases h
          refine ⟨⟨rfl, rfl, rfl, ?_⟩, rfl⟩
          simp [Notice.attempts, List.filter_append]

end Muefs
