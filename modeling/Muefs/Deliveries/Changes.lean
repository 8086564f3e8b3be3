import Mathlib.Data.List.Nodup
import Muefs.Deliveries.Step
import Muefs.Laws.Delivery
import Muefs.Steps.Commits

/-!
# What the requests about deliveries change

* `saveServiceInstructions_meets` : the contacts of one case, and the event of the change;
* the other requests change the notice of one delivery, and those of the mail worker the notices that they are about;
* `downloadDeliveryDocument_meets` : the event of a download, and what it served (`Served`).
-/

namespace Muefs
open RowLocks

variable {cfg : Settings} {db : BothStore} {userId : UserId}

theorem meets_ofPortal {α : Type} {p : Portal α} {Q : α → Prop}
    (h : Meets (leftDb db) p fun tr a => Quiet tr ∧ Q a) : Meets db (ofPortal p) fun tr a => Silent tr ∧ Q a := by
  refine h.left.mono ?_
  rintro tr a ⟨tr₀, hside, hquiet, hQ⟩
  exact ⟨hquiet.silent hside, hQ⟩

/-! ## Mail -/

/-- One notice is written. -/
def OnlyNotice (id : NoticeId) (notice : Notice) : (g : BothRow) → BothView g → Prop
  | .inr (.notice id'), v => id' = id ∧ v = some notice
  | _, _ => False

theorem MailStep.bothStep {r : ServiceRequest} {db' : BothStore} {tr tr' : BothTrace} {id : NoticeId} {notice : Notice}
    (h : MailStep cfg r db db' tr id notice) (hw : Writes (OnlyNotice id notice) tr') :
    Writes (BothStep cfg r db db' tr) tr' := by
  refine hw.mono fun g v hg => ?_
  rcases g with g | g
  · exact hg.elim
  · cases g with
    | notice id' =>
      obtain ⟨rfl, rfl⟩ := hg
      exact ⟨notice, rfl, h⟩
    | _ => exact hg.elim

theorem MailStep.changes {r : ServiceRequest} {tr : BothTrace} {id : NoticeId} {notice : Notice}
    (h : MailStep cfg r db (commit tr db) tr id notice) (hw : Writes (OnlyNotice id notice) tr) :
    ServiceChanges cfg r db tr := .of_writes (h.bothStep hw)

theorem claimNextEmail_changes {id : NoticeId} :
    Meets db (claimNextEmail cfg id) fun tr _ => ServiceChanges cfg (.claimNextEmail id) db tr := by
  simp only [claimNextEmail, meets_bind, meets_now, meets_lock]
  intro time
  cases hrow : (db (.inr (.notice id))).filter fun notice => notice.isDue time with
  | none =>
    simp only [meets_pure]
    exact .of_silent (by simp [Writes])
  | some notice =>
    obtain ⟨hdb, hdue⟩ := Option.filter_eq_some_iff.1 hrow
    simp only [left_look, meets_bind, meets_look, meets_snapshot, meets_write, meets_pure]
    intro account seen
    refine MailStep.changes (.claimed notice account seen time rfl hdb hdue (by simp) (by simp)) ?_
    simp [Writes, OnlyNotice]

theorem finishEmail_changes {id : NoticeId} {attempt : Nat} {result : SendResult} :
    Meets db (finishEmail id attempt result) fun tr _ =>
      ServiceChanges cfg (.finishEmail id attempt result) db tr := by
  simp only [finishEmail, meets_bind, meets_now, meets_lock]
  intro time
  cases hrow : db (.inr (.notice id)) with
  | none =>
    simp only [meets_pure]
    exact .of_silent (by simp [Writes])
  | some notice =>
    simp only [meets_write]
    refine MailStep.changes (.finished notice attempt result time hrow) ?_
    simp [Writes, OnlyNotice]

/-- The notices that an update of several rows writes. -/
def Recovers (db : BothStore) (time : Instant) : (g : BothRow) → BothView g → Prop
  | .inr (.notice id), v => ∃ notice, db (.inr (.notice id)) = some notice ∧ v = some (recoverInterrupted notice time)
  | _, _ => False

theorem recoverRows_meets {time : Instant} {ids : List NoticeId} :
    Meets db (recoverRows time ids) fun tr _ => Writes (Recovers db time) tr := by
  induction ids with
  | nil => simp [recoverRows, Writes]
  | cons id ids ih =>
    simp only [recoverRows, meets_bind, meets_lock]
    cases hrow : db (.inr (.notice id)) with
    | none => exact ih.mono fun tr _ htr => by simp [Writes, htr]
    | some notice =>
      simp only [meets_bind, meets_write]
      exact ih.mono fun tr _ htr => by simp [Writes, Recovers, hrow, htr]

theorem recoverEmails_changes {ids : List NoticeId} :
    Meets db (recoverEmails ids) fun tr _ => ServiceChanges cfg (.recoverEmails ids) db tr := by
  simp only [recoverEmails, meets_bind, meets_now]
  refine fun time => recoverRows_meets.mono fun tr _ htr => .of_writes ?_
  simp only [writes_append, Writes, true_and]
  refine htr.mono fun g v hg => ?_
  rcases g with g | g
  · exact hg.elim
  · cases g with
    | notice id =>
      obtain ⟨notice, hdb, rfl⟩ := hg
      exact ⟨_, rfl, .recovered notice time hdb⟩
    | _ => exact hg.elim

/-! ## One delivery -/

theorem viewDelivery_meets {user : User} {id : DeliveryId} :
    Meets db (viewDelivery userId user id) fun tr v => Silent tr ∧
      Viewed tr userId user id v.1 v.2.1 v.2.2.1 v.2.2.2 := by
  simp only [viewDelivery, left_look, meets_bind, meets_look, meets_snapshot, meets_expect, meets_pure]
  intro entry packetId hentry row packet hrow rcp hrcp caseRow case hcase roles envelope later seen
  refine ⟨by simp [Writes], {
    looked := ⟨packetId, by simp [hentry], by simp [hrow]⟩
    mem := List.mem_of_find?_eq_some hrcp
    id_eq := by simpa using List.find?_some hrcp
    recipientId := rfl
    senderId := rfl
    court := ⟨case, by simp [hcase], rfl⟩
    filer := ⟨envelope, by simp, rfl⟩
    account_eq := ⟨roles, by simp, rfl⟩
    reader := ?_ }⟩
  intro hread
  simp only [Bool.and_eq_true, Option.any_eq_true] at hread
  obtain ⟨⟨p, hp, hmay⟩, now, hnow, hreads⟩ := hread
  obtain ⟨ps, hps, hp⟩ := Option.bind_eq_some_iff.1 hp
  obtain ⟨current, hcurrent, rfl⟩ := Option.map_eq_some_iff.1 hps
  exact ⟨current, p, seen, now, by simp [hcurrent], hp, hmay, by simp, hnow, hreads⟩

theorem lockNotice_meets {id : NoticeId} :
    Meets db (lockNotice id) fun tr notice => Silent tr ∧ db (.inr (.notice id)) = some notice := by
  simp only [lockNotice, meets_bind, meets_lock, meets_expect]
  exact fun notice hdb => ⟨by simp [Writes], hdb⟩

theorem getCurrentUser_meets : Meets db (ofPortal (getCurrentUser userId)) fun tr account =>
    Silent tr ∧ ⟨.look (.inl (.user userId)), some account⟩ ∈ tr ∧ account.user.isActive = true := by
  have h : Meets (leftDb db) (getCurrentUser userId) fun tr account =>
      Quiet tr ∧ ⟨.look (.user userId), some account⟩ ∈ tr ∧ account.user.isActive = true := by
    simp only [getCurrentUser, meets_bind, meets_look, meets_expect, meets_require, meets_pure]
    intro row account hrow hactive
    exact ⟨by simp [Writes], by simp [hrow], hactive⟩
  refine h.left.mono ?_
  rintro tr account ⟨tr₀, hside, hquiet, hmem, hactive⟩
  exact ⟨hquiet.silent hside, hside.look hmem, hactive⟩

theorem ofPortal_lockCurrentUser_meets : Meets db (ofPortal (lockCurrentUser userId)) fun tr account =>
    Silent tr ∧ db (.inl (.user userId)) = some account ∧ account.user.isActive = true :=
  meets_ofPortal (lockCurrentUser_meets.mono fun _ _ h => ⟨h.1, h.2.stored, h.2.active⟩)

theorem acknowledgeDelivery_changes {id : DeliveryId} :
    Meets db (acknowledgeDelivery userId id) fun tr _ =>
      ServiceChanges cfg (.acknowledgeDelivery userId id) db tr := by
  simp only [acknowledgeDelivery, meets_bind, meets_ofExcept, meets_require, meets_ite, meets_pure, meets_write]
  refine getCurrentUser_meets.mono fun tr₁ actor h₁ => viewDelivery_meets.mono ?_
  rintro tr₂ ⟨packet, rcp, account, delivery⟩ ⟨h₂, hviewed⟩ staff hstaff
  refine lockNotice_meets.mono fun tr₃ notice h₃ huser => ⟨fun _ => ?_, fun hfirst => ?_⟩
  · exact .of_silent (by simp [h₁.1, h₂, h₃.1])
  · refine MailStep.changes (.acknowledged userId id notice packet rcp account delivery staff rfl h₃.2 ?_ rfl huser.symm
      (Bool.not_eq_true _ ▸ hfirst)) ?_
    · exact ⟨⟨actor, .inl (by simp [h₁.2.1]), h₁.2.2, hviewed.mono fun e he => by simp [he]⟩, hstaff⟩
    · simp [h₁.1.writes, h₂.writes, h₃.1.writes, Writes, OnlyNotice]

theorem retryDeliveryAlert_changes {id : DeliveryId} {reason : String} :
    Meets db (retryDeliveryAlert cfg userId id reason) fun tr _ =>
      ServiceChanges cfg (.retryDeliveryAlert userId id reason) db tr := by
  simp only [retryDeliveryAlert, meets_bind, meets_ofExcept, meets_require, meets_snapshot, meets_now, meets_newId,
    meets_write, meets_pure]
  refine getCurrentUser_meets.mono fun tr₁ _ h₁ => ofPortal_lockCurrentUser_meets.mono fun tr₂ actor h₂ => ?_
  refine viewDelivery_meets.mono ?_
  rintro tr₃ ⟨packet, rcp, account, delivery⟩ ⟨h₃, hviewed⟩ staff hviewer
  refine lockNotice_meets.mono fun tr₄ notice h₄ _ hretry seen _ later time messageId queued hqueue => ?_
  refine MailStep.changes (.requeued userId id packet rcp notice queued account delivery staff later time
    messageId reason h₄.2 ⟨⟨actor, .inr h₂.2.1, h₂.2.2, hviewed.mono fun e he => by simp [he]⟩, hviewer⟩ rfl hretry
    (by simp) hqueue rfl) ?_
  simp [h₁.1.writes, h₂.1.writes, h₃.writes, h₄.1.writes, Writes, OnlyNotice]

theorem recordDeliveryFailure_changes {id : DeliveryId} {key : Uuid} {data : ServiceFailureReport} :
    Meets db (recordDeliveryFailure cfg userId id key data) fun tr _ =>
      ServiceChanges cfg (.recordDeliveryFailure userId id key data) db tr := by
  simp only [recordDeliveryFailure, left_look, meets_bind, meets_ofExcept, meets_now, meets_newId, meets_look]
  refine getCurrentUser_meets.mono fun tr₁ _ h₁ => ofPortal_lockCurrentUser_meets.mono fun tr₂ actor h₂ => ?_
  refine viewDelivery_meets.mono ?_
  rintro tr₃ ⟨packet, rcp, account, delivery⟩ ⟨h₃, hviewed⟩ staff hviewer
  refine lockNotice_meets.mono ?_
  rintro tr₄ notice ⟨h₄, hdb⟩ time alertId sender messageId ⟨notice', event⟩ hreport
  cases event with
  | none =>
    simp only [meets_pure]
    exact .of_silent (by simp [h₁.1, h₂.1, h₃, h₄, Writes])
  | some event =>
    simp only [meets_bind, meets_write, meets_ite, meets_pure, meets_ofExcept]
    have hstep : ∀ db' tr, (∀ e ∈ tr₃, e ∈ tr) → MailStep cfg (.recordDeliveryFailure userId id key data) db db' tr
        rcp.notificationId { notice' with serviceEvents := notice.serviceEvents ++ [event] } := fun db' tr htr =>
      .reported userId id packet rcp account delivery staff notice notice' _ event hdb
        ⟨⟨actor, .inr h₂.2.1, h₂.2.2, hviewed.mono htr⟩, hviewer⟩ rfl rfl rfl rfl hreport rfl
    refine ⟨fun _ => ?_, fun _ alert halert => ?_⟩
    · refine MailStep.changes (hstep _ _ fun e he => by simp [he]) ?_
      simp [h₁.1.writes, h₂.1.writes, h₃.writes, h₄.writes, Writes, OnlyNotice]
    · refine .of_writes ?_
      simp only [writes_append, h₁.1.writes, h₂.1.writes, h₃.writes, h₄.writes, Writes, true_and, and_true]
      refine ⟨fun _ => ⟨_, rfl, hstep _ _ fun e he => by simp [he]⟩,
        fun _ => ⟨alert, rfl, .alerted packet alert _ time messageId _ _ ?_ halert⟩⟩
      simp

/-- **What a download served,** and what it read. -/
structure Served (db : BothStore) (tr : BothTrace) (userId : UserId) (id : DeliveryId) (documentId : DocumentId)
    (packet : ServicePacket)
    (doc : FilingDocument) (saved : DocumentResponse) (served : ServedDocument) : Prop where
  entered : ∃ rcp account delivery staff, Entered db tr userId id packet rcp account delivery staff
  saved_eq : packet.documents.find? (fun d => d.id == documentId) = some saved
  notPrivate : privateDocumentTypes.contains saved.documentTypeCode = false
  document : ∃ file : FilingFile, ⟨.look (.inl (.envelope packet.filingId)), some file⟩ ∈ tr ∧
    file.documents.find? (fun d => d.id == documentId) = some doc
  retained : doc.retainedAt.isSome = true
  matching : doc.matchesRecord saved = true
  served_eq : served = ⟨doc.fileKey, saved.sha256Hash, saved.fileSizeBytes⟩

theorem downloadDeliveryDocument_meets {id : DeliveryId} {documentId : DocumentId} :
    Meets db (downloadDeliveryDocument userId id documentId) fun tr served =>
      (∃ packet doc saved, Served db tr userId id documentId packet doc saved served) ∧
      commit tr db = Function.update db (.inr (.downloads id)) (db (.inr (.downloads id)) ++
      [(userId, documentId)]) := by
  simp only [downloadDeliveryDocument, left_look, meets_bind, meets_ofExcept, meets_expect, meets_require, meets_look,
    meets_write, meets_pure]
  refine getCurrentUser_meets.mono fun tr₁ user h₁ => viewDelivery_meets.mono ?_
  rintro tr₂ ⟨packet, rcp, account, delivery⟩ ⟨h₂, hviewed⟩ staff hstaff saved hsaved envelope doc hdoc
    ⟨hretained, hmatch⟩
  obtain ⟨hsaved, hprivate⟩ := Option.filter_eq_some_iff.1 hsaved
  obtain ⟨file, rfl, hdoc⟩ := Option.bind_eq_some_iff.1 hdoc
  refine ⟨⟨packet, doc, saved, ?_⟩, ?_⟩
  · exact {
      entered := ⟨rcp, account, delivery, staff,
        ⟨user, .inl (by simp [h₁.2.1]), h₁.2.2, hviewed.mono fun e he => by simp [he]⟩, hstaff⟩
      saved_eq := hsaved
      notPrivate := by simpa using hprivate
      document := ⟨file, by simp, hdoc⟩
      retained := hretained
      matching := hmatch
      served_eq := rfl }
  · simp [commit_append, h₁.1.commit, h₂.commit, RowLocks.commit, Op.applied]

/-! ## Contacts -/

theorem contactCase_meets {caseId : CaseId} : Meets db (ofPortal (contactCase userId caseId)) fun tr out =>
    Silent tr ∧ db (.inl (.user userId)) = some out.1 ∧ db (.inl (.case caseId)) = some out.2 ∧
      out.1.user.isActive = true ∧ out.1.isCourtStaff out.2.row.courtId = true := by
  refine meets_ofPortal ?_
  simp only [contactCase, getCurrentUser, meets_bind, meets_look, meets_lock, meets_expect, meets_require, meets_pure]
  rintro _ _ _ _ actor hactor case hcase ⟨hactive, hstaff⟩
  exact ⟨by simp [Writes], hactor, hcase, hactive, hstaff⟩

theorem participantUser_meets {p : CaseParticipant} : Meets db (ofPortal (participantUser p)) fun tr account =>
    Silent tr ∧ AccountRead tr p account := by
  have h : Meets (leftDb db) (participantUser p) fun tr account => Quiet tr ∧ ((p.userId = none ∧ account = none) ∨
      ∃ id row, p.userId = some id ∧ ⟨.look (.user id), row⟩ ∈ tr ∧ account = row.map fun a => (id, a.user)) := by
    unfold participantUser
    split
    · rename_i hnone
      simp [Writes, hnone]
    · rename_i id hid
      simp only [meets_bind, meets_look, meets_pure]
      exact fun row => ⟨by simp [Writes], .inr ⟨id, row, hid, by simp, rfl⟩⟩
  refine h.left.mono ?_
  rintro tr account ⟨tr₀, hside, hquiet, hread⟩
  refine ⟨hquiet.silent hside, hread.imp_right ?_⟩
  rintro ⟨id, row, hid, hlook, haccount⟩
  exact ⟨id, row, hid, hside.look hlook, haccount⟩

theorem AccountRead.mono {tr tr' : BothTrace} {p : CaseParticipant} {account : Option (UserId × User)}
    (h : AccountRead tr p account) (htr : ∀ e ∈ tr, e ∈ tr') : AccountRead tr' p account := by
  rcases h with h | ⟨id, row, hid, hlook, haccount⟩
  · exact .inl h
  · exact .inr ⟨id, row, hid, htr _ hlook, haccount⟩

theorem routingIssues_applied {case : Case} {p : CaseParticipant} {account : Option (UserId × User)}
    {data : ContactChange} {contact contact' : ServiceContact} {version : Nat} {time : Instant} :
    routingIssues cfg case p account ((data.applied cfg p contact).reviewed version time userId) =
      routingIssues cfg case p account (data.applied cfg p contact') := rfl

/-- What a commit leaves where the contacts of a case were saved with an event. -/
def savedContacts (db : BothStore) (caseId : CaseId) (cs : List ServiceContact) (event : ContactEvent) : BothStore :=
  Function.update (Function.update db (.inr (.contacts caseId)) cs) (.inr (.contactEvents caseId))
    (db (.inr (.contactEvents caseId)) ++ [event])

theorem saveContacts_meets {caseId : CaseId} {cs : List ServiceContact} {event : ContactEvent} :
    Meets db (saveContacts caseId cs event) fun tr _ => ∀ db, commit tr db = savedContacts db caseId cs event := by
  simp only [saveContacts, meets_bind, meets_write]
  intro db
  simp [RowLocks.commit, Op.applied, savedContacts]

/-- What a request on a contact commits. -/
def ContactsSaved (cfg : Settings) (r : ServiceRequest) (db : BothStore) (caseId : CaseId) (tr : BothTrace) : Prop :=
  Silent tr ∨ ∃ cs event, ContactStep cfg r db tr caseId (db (.inr (.contacts caseId))) cs event ∧
    commit tr db = savedContacts db caseId cs event

theorem saveServiceInstructions_meets {caseId : CaseId} {participantId : ParticipantId} {data : ContactChange} :
    Meets db (saveServiceInstructions cfg userId caseId participantId data) fun tr _ =>
      ContactsSaved cfg (.saveServiceInstructions userId caseId participantId data) db caseId tr := by
  simp only [saveServiceInstructions, meets_bind, meets_lock, meets_expect, meets_require]
  refine contactCase_meets.mono ?_
  rintro tr₁ ⟨actor, case⟩ ⟨h₁, hactor, hcase, hactive, hstaff⟩ hreviewed p hp ⟨hown, hother⟩ hof hversion
  refine participantUser_meets.mono ?_
  rintro tr₂ account ⟨h₂, hread⟩ hissues
  have hp' : p.id = participantId := by simpa using List.find?_some hp
  let saved (contact : ServiceContact) (time : Instant) : ServiceContact :=
    (data.applied cfg p contact).reviewed (data.expectedVersion + 1) time userId
  cases hfound : (db (.inr (.contacts caseId))).find? fun c => c.participantId == participantId with
  | some contact =>
    rw [hfound] at hversion hother hof
    have hid : contact.participantId = participantId := by simpa using List.find?_some hfound
    have hcaseId : contact.caseId = caseId := by simpa using hof
    have hreview : ∀ tr time, (∀ e ∈ tr₂, e ∈ tr) →
        ContactReview cfg db tr userId caseId participantId data (some contact) (saved contact time) :=
        fun tr time htr => {
      staff := ⟨actor, case, hactor, hcase, hactive, hstaff, hreviewed, p, hp, hown, rfl, rfl⟩
      other := fun c hc => by simpa [← Option.some.inj hc] using hother
      routable := fun hactive => ⟨case, p, account, hcase, hp, hread.mono htr,
      routingIssues_applied.trans (hissues hactive)⟩
      expected := hversion
      version := rfl
      reviewer := rfl
      participantId := hid
      caseId := hcaseId }
    simp only [meets_ite, meets_bind, meets_now, meets_pure]
    refine ⟨fun _ => .inl (by simp [h₁, h₂, Writes]), fun _ time => saveContacts_meets.mono fun tr₃ _ h₃ => .inr ?_⟩
    refine ⟨_, data.event actor.user (some contact) (saved contact time),
      .revised userId participantId data contact (saved contact time) _ rfl hfound rfl
        (hreview _ time fun e he => by simp [he]) rfl rfl, ?_⟩
    simp [commit_append, h₁.commit, h₂.commit, h₃, RowLocks.commit, Op.applied, saved]
  | none =>
    rw [hfound] at hversion
    have hreview : ∀ tr id time, (∀ e ∈ tr₂, e ∈ tr) → ContactReview cfg db tr userId caseId participantId data none
        (saved (newContact id caseId p) time) := fun tr id time htr => {
      staff := ⟨actor, case, hactor, hcase, hactive, hstaff, hreviewed, p, hp, hown, rfl, rfl⟩
      other := fun c hc => by cases hc
      routable := fun hactive => ⟨case, p, account, hcase, hp, hread.mono htr,
      routingIssues_applied.trans (hissues hactive)⟩
      expected := hversion
      version := rfl
      reviewer := rfl
      participantId := hp'
      caseId := rfl }
    simp only [meets_bind, meets_now, meets_newId, meets_pure]
    refine fun id time => saveContacts_meets.mono fun tr₃ _ h₃ => .inr ?_
    refine ⟨_, data.event actor.user none (saved (newContact id caseId p) time),
      .added userId participantId data _ _ rfl hfound ?_ (hreview _ id time fun e he => by simp [he]) rfl rfl, ?_⟩
    · simp [saved, ContactChange.applied, ServiceContact.reviewed, newContact]
    · simp [commit_append, h₁.commit, h₂.commit, h₃, RowLocks.commit, Op.applied, saved]

theorem ContactsSaved.changes {r : ServiceRequest} {caseId : CaseId} {tr : BothTrace}
    (h : ContactsSaved cfg r db caseId tr) : ServiceChanges cfg r db tr := by
  rcases h with h | ⟨cs, event, hstep, hcommit⟩
  · exact .of_silent h
  · rw [ServiceChanges, hcommit]
    intro g
    by_cases hevents : g = .inr (.contactEvents caseId)
    · subst hevents
      refine .inr ⟨event, by simp [savedContacts], ?_⟩
      simpa [savedContacts, Function.update_of_ne] using hstep
    · by_cases hcontacts : g = .inr (.contacts caseId)
      · subst hcontacts
        refine .inr ⟨event, ?_, by simp [savedContacts]⟩
        simpa [savedContacts, Function.update_of_ne] using hstep
      · exact .inl (by simp [savedContacts, hevents, hcontacts])

end Muefs
