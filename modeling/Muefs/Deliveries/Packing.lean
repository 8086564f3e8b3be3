import Mathlib.Data.List.Nodup
import Muefs.Deliveries.Changes

/-!
# What `create_packet` saves

* `requireSender_meets`, `checkSelected_meets`, `checkDocuments_meets`, `addRecipients_meets`,
  `savePacket_meets` : its parts;
* `sendDocuments_changes` : a packet with its index entries, and a notice for each recipient;
* `SentAnswer` : the packet that the request answers with.
-/

namespace Muefs
open RowLocks

variable {cfg : Settings} {db : BothStore} {userId : UserId} {actor : Account} {filingId : FilingId}
  {data : ServicePacketCreate} {key : Uuid} {case : CaseFile} {caseId : CaseId} {contacts : List ServiceContact}

/-! ## The selection -/

theorem requireSender_meets : Meets db (ofPortal (requireSender cfg userId actor filingId)) fun tr out =>
    Silent tr ∧ db (.inl (.envelope filingId)) = some out.1 ∧ out.1.filing.caseId = some out.2.1 ∧
      db (.inl (.case out.2.1)) = some out.2.2 ∧
      (db (.inl (.user userId)) = some actor → actor.user.isActive = true → Sender cfg db userId out.1 out.2.2) := by
  refine meets_ofPortal ?_
  simp only [requireSender, requireUserMayManageEfilings, meets_bind, meets_require, meets_lockFiling, meets_expect,
    meets_lock, meets_pure]
  intro hpublic file hfile hfiler _ caseId hcaseId case hcase hcourt hmail hmay
  refine ⟨by simp [Writes], hfile, hcaseId, hcase, fun hactor hactive =>
    ⟨⟨actor, hactor, hactive, hmail, hpublic, ?_⟩, hcourt⟩⟩
  rcases hmay with hstaff | hmay
  · exact .inl hstaff
  · rcases hfiler with hfiler | hstaff
    · exact .inr ⟨hfiler, hmay⟩
    · exact .inl hstaff

theorem sourceDocuments_spec {source : FilingTransaction} {manifest : List DocumentResponse}
    (h : sourceDocuments source = .ok manifest) : ∃ records, source.details.documents = some records ∧
      (records.map DocumentResponse.id).Nodup ∧
      manifest = records.filter fun record => !privateDocumentTypes.contains record.documentTypeCode := by
  unfold sourceDocuments at h
  split at h
  · split at h
    · cases h
      exact ⟨_, ‹_›, ‹_›, rfl⟩
    · cases h
  · cases h

theorem mem_selectedContacts {seen : BothStore} {choices : List (ContactId × Nat)} {row : SelectedRecipient}
    (h : row ∈ selectedContacts seen caseId case contacts choices) : row.contact ∈ contacts ∧
      row.contact.caseId = caseId ∧
      case.participants.find? (fun p => p.id == row.contact.participantId) = some row.participant ∧
      participantUserOf seen row.participant = some (row.userId, row.user) := by
  obtain ⟨contact, hcontact, hrow⟩ := List.mem_filterMap.1 h
  have hmem := List.mem_filter.1 ((List.mergeSort_perm _ _).mem_iff.1 hcontact)
  simp only [Bool.and_eq_true, beq_iff_eq] at hmem
  obtain ⟨p, hp, ⟨id, user⟩, huser, hrow⟩ := by
    simpa only [Option.bind_eq_bind, Option.bind_eq_some_iff, pure, Option.some.injEq] using hrow
  cases hrow
  exact ⟨hmem.1, hmem.2.1, hp, huser⟩

/-- What the loop over the selected contacts checked. -/
structure SelectedRecipient.Checked (cfg : Settings) (case : Case) (actorId : UserId) (choices : List (ContactId × Nat))
    (row : SelectedRecipient) : Prop where
  electronic : row.contact.method = .electronic
  selected : choices.lookup row.contact.id = some row.contact.version
  routed : routingIssues cfg case row.participant (some (row.userId, row.user)) row.contact = []
  other : row.userId ≠ actorId

theorem checkSelected_meets {db : Store} {row : Case} {choices : List (ContactId × Nat)} {accounts : List UserId}
    {rows : List SelectedRecipient} :
    Meets db (checkSelected cfg row userId choices accounts rows) fun tr _ => tr = [] ∧
      (∀ r ∈ rows, r.Checked cfg row userId choices ∧ r.userId ∉ accounts) ∧
      (rows.map SelectedRecipient.userId).Nodup := by
  induction rows generalizing accounts with
  | nil => simp [checkSelected]
  | cons r rows ih =>
    simp only [checkSelected, meets_bind, meets_require]
    rintro ⟨hmethod, hversion⟩ hissues ⟨hother, hfresh⟩
    refine ih.mono ?_
    rintro tr _ ⟨rfl, hrows, hnodup⟩
    refine ⟨rfl, fun r' hr' => ?_, List.nodup_cons.2 ⟨fun hmem => ?_, hnodup⟩⟩
    · rcases List.mem_cons.1 hr' with rfl | hr'
      · exact ⟨⟨hmethod, hversion, hissues, hother⟩, hfresh⟩
      · exact ⟨(hrows r' hr').1, fun hmem => (hrows r' hr').2 (List.mem_cons_of_mem _ hmem)⟩
    · obtain ⟨r', hr', hsame⟩ := List.mem_map.1 hmem
      exact (hrows r' hr').2 (hsame ▸ List.mem_cons_self)

theorem checkDocuments_meets {db : Store} {manifest : List DocumentResponse} {docs : List FilingDocument} :
    Meets db (checkDocuments manifest docs) fun tr _ => Quiet tr ∧
      ∀ doc ∈ docs, ∃ saved ∈ manifest, saved.id = doc.id ∧ doc.matchesRecord saved = true := by
  induction docs with
  | nil => simp [checkDocuments, Writes]
  | cons doc docs ih =>
    simp only [checkDocuments, meets_bind, meets_expect, meets_require, meets_look]
    intro saved hsaved hmatch stored content _ _
    refine ih.mono fun tr _ h => ⟨by simp [h.1, Writes], fun doc' hdoc' => ?_⟩
    rcases List.mem_cons.1 hdoc' with rfl | hdoc'
    · exact ⟨saved, List.mem_of_find?_eq_some hsaved, by simpa using List.find?_some hsaved, hmatch⟩
    · exact h.2 doc' hdoc'

/-! ## Recipients -/

/-- The notices of new recipients. -/
def NewNotices (cfg : Settings) (tr : BothTrace) (actorId : UserId) (caseId : CaseId) (filingId : FilingId)
    (recipients : List ServiceRecipient) : (g : BothRow) → BothView g → Prop
  | .inr (.notice id), v => ⟨.fresh, id⟩ ∈ tr ∧ ∃ rcp ∈ recipients, rcp.notificationId = id ∧
    ∃ notice, v = some notice ∧ NewNotice cfg tr actorId caseId filingId rcp notice
  | _, _ => False

theorem NewNotices.mono {tr tr' : BothTrace} {recipients recipients' : List ServiceRecipient} (htr : ∀ e ∈ tr, e ∈ tr')
    (hsub : recipients ⊆ recipients') : ∀ g v, NewNotices cfg tr userId caseId filingId recipients g v →
      NewNotices cfg tr' userId caseId filingId recipients' g v := by
  intro g v h
  rcases g with g | g
  · exact h.elim
  · cases g with
    | notice id =>
      obtain ⟨hnew, rcp, hrcp, hid, notice, hv, seen, time, messageId, reason, hseen, hrest⟩ := h
      exact ⟨htr _ hnew, rcp, hsub hrcp, hid, notice, hv, seen, time, messageId, reason, htr _ hseen, hrest⟩
    | _ => exact h.elim

/-- The recipient that a selected contact becomes. -/
structure SelectedRecipient.Names (row : SelectedRecipient) (rcp : ServiceRecipient) : Prop where
  recipientId : rcp.recipientId = row.userId
  contactId : rcp.contactId = row.contact.id
  version : rcp.contactVersion = row.contact.version
  snapshot : rcp.contactSnapshot = contactSnapshot row.contact

theorem addRecipients_meets {rows : List SelectedRecipient} :
    Meets db (addRecipients cfg userId caseId filingId rows) fun tr recipients =>
      Writes (NewNotices cfg tr userId caseId filingId recipients) tr ∧
      recipients.map ServiceRecipient.recipientId = rows.map SelectedRecipient.userId ∧
      (∀ rcp ∈ recipients, (∃ row ∈ rows, row.Names rcp) ∧
        ∃ notice, ⟨.write (.inr (.notice rcp.notificationId)) fun _ => some notice, ()⟩ ∈ tr) ∧
      (recipients.flatMap fun rcp => [rcp.notificationId, rcp.id]).Sublist (draws tr) := by
  induction rows with
  | nil => simp [addRecipients, Writes]
  | cons row rows ih =>
    simp only [addRecipients, meets_bind, meets_newId, meets_snapshot, meets_now, meets_ofExcept, meets_require,
      meets_write, meets_pure]
    intro noticeId id seen time messageId notice hqueue hpending
    refine ih.mono ?_
    rintro tr rest ⟨hwrites, hids, hnames, hnumbers⟩
    refine ⟨?_, by simp [hids], fun rcp hrcp => ?_, ?_⟩
    · simp only [writes_append, Writes, true_and, and_true]
      refine ⟨fun _ => ⟨by simp, _, List.mem_cons_self, rfl, notice, rfl, seen, time, messageId, _, by simp, hqueue,
        hpending⟩, ?_⟩
      exact hwrites.mono (NewNotices.mono (fun e he => by simp [he]) (List.subset_cons_self _ _))
    · rcases List.mem_cons.1 hrcp with rfl | hrcp
      · exact ⟨⟨row, List.mem_cons_self, rfl, rfl, rfl, rfl⟩, notice, by simp⟩
      · obtain ⟨⟨row', hrow', hnamed⟩, notice', hwrite⟩ := hnames rcp hrcp
        exact ⟨⟨row', List.mem_cons_of_mem _ hrow', hnamed⟩, notice', by simp [hwrite]⟩
    · simpa [draws_append, draws] using hnumbers.cons messageId

/-- What is saved with a packet. -/
def SavedPacket (packet : ServicePacket) (recipients : List ServiceRecipient) : (g : BothRow) → BothView g → Prop
  | .inr (.packet id), v => id = packet.id ∧ v = some packet
  | .inr (.packetKey actorId key), v => actorId = packet.actorId ∧ key = packet.idempotencyKey ∧ v = some packet.id
  | .inr (.delivery id), v => v = some packet.id ∧ ∃ rcp ∈ recipients, rcp.id = id
  | .inr (.alert id), v => v = some packet.id ∧ ∃ rcp ∈ recipients, rcp.notificationId = id
  | _, _ => False

theorem savePacket_meets {packet : ServicePacket} {recipients : List ServiceRecipient} :
    Meets db (savePacket packet recipients) fun tr _ => Writes (SavedPacket packet recipients) tr ∧
      ⟨.write (.inr (.packet packet.id)) fun _ => some packet, ()⟩ ∈ tr ∧
      ⟨.write (.inr (.packetKey packet.actorId packet.idempotencyKey)) fun _ => some packet.id, ()⟩ ∈ tr ∧
      ∀ rcp ∈ recipients, ⟨.write (.inr (.delivery rcp.id)) fun _ => some packet.id, ()⟩ ∈ tr ∧
        ⟨.write (.inr (.alert rcp.notificationId)) fun _ => some packet.id, ()⟩ ∈ tr := by
  induction recipients with
  | nil => simp [savePacket, Writes, SavedPacket]
  | cons rcp recipients ih =>
    simp only [savePacket, meets_bind, meets_write]
    refine ih.mono ?_
    rintro tr _ ⟨hwrites, hpacket, hkey, hall⟩
    refine ⟨?_, by simp [hpacket], by simp [hkey], fun rcp' hrcp' => ?_⟩
    · simp only [writes_append, Writes, and_true]
      refine ⟨fun _ => ⟨rfl, rcp, List.mem_cons_self, rfl⟩, fun _ => ⟨rfl, rcp, List.mem_cons_self, rfl⟩, ?_⟩
      refine hwrites.mono fun g v hg => ?_
      rcases g with g | g
      · exact hg
      · cases g with
        | delivery id => exact ⟨hg.1, hg.2.imp fun _ h => ⟨List.mem_cons_of_mem _ h.1, h.2⟩⟩
        | alert id => exact ⟨hg.1, hg.2.imp fun _ h => ⟨List.mem_cons_of_mem _ h.1, h.2⟩⟩
        | _ => exact hg
    · rcases List.mem_cons.1 hrcp' with rfl | hrcp'
      · simp
      · simp [hall rcp' hrcp']

/-! ## Keys -/

/-- The packet that a snapshot has under a key. -/
def keyedPacket (db : BothStore) (userId : UserId) (key : Uuid) : Option ServicePacket :=
  (db (.inr (.packetKey userId key))).bind fun id => db (.inr (.packet id))

theorem findPacket_meets : Meets db (findPacket userId key) fun tr found =>
    Silent tr ∧ ∃ seen, ⟨.snapshot, seen⟩ ∈ tr ∧ found = keyedPacket seen userId key := by
  simp only [findPacket, meets_bind, meets_snapshot, meets_pure]
  exact fun seen => ⟨by simp [Writes], seen, by simp, rfl⟩

theorem replayPacket_meets {packet : ServicePacket} {fields : PacketFields} :
    Meets db (replayPacket packet fields) fun tr id => Silent tr ∧ id = packet.id ∧
      packet.requestSha256 = .of fields := by
  simp only [replayPacket, meets_bind, meets_require, meets_pure]
  exact fun h => ⟨by simp [Writes], trivial, h⟩

/-- What answers a request that sends documents: the packet that it saved, or one that an earlier request saved under
the same key for the same selection. -/
def SentAnswer (tr : BothTrace) (db' : BothStore) (userId : UserId) (filingId : FilingId) (key : Uuid)
    (data : ServicePacketCreate) (id : PacketId) : Prop :=
  (⟨.fresh, id⟩ ∈ tr ∧ db' (.inr (.packetKey userId key)) = some id) ∨
    ∃ seen packet, ⟨.snapshot, seen⟩ ∈ tr ∧ keyedPacket seen userId key = some packet ∧ packet.id = id ∧
      packet.requestSha256 = .of (data.fields filingId)

/-! ## The packet -/

theorem Composed.changes {tr : BothTrace} (packet : ServicePacket)
    (h : Composed cfg db tr userId filingId key data packet) (hkey : db (.inr (.packetKey userId key)) = none)
    (hw : Writes (fun r v => NewNotices cfg tr userId packet.caseId packet.filingId packet.recipients r v ∨
      SavedPacket packet packet.recipients r v) tr)
    (hsaved : ⟨.write (.inr (.packet packet.id)) fun _ => some packet, ()⟩ ∈ tr)
    (hkeyed : ⟨.write (.inr (.packetKey packet.actorId packet.idempotencyKey)) fun _ => some packet.id, ()⟩ ∈ tr)
    (hrows : ∀ rcp ∈ packet.recipients, ⟨.write (.inr (.delivery rcp.id)) fun _ => some packet.id, ()⟩ ∈ tr ∧
      ⟨.write (.inr (.alert rcp.notificationId)) fun _ => some packet.id, ()⟩ ∈ tr ∧
      ∃ notice, ⟨.write (.inr (.notice rcp.notificationId)) fun _ => some notice, ()⟩ ∈ tr) :
    ServiceChanges cfg (.sendDocuments userId filingId key data) db tr ∧
      commit tr db (.inr (.packetKey userId key)) = some packet.id := by
  have hpacket : commit tr db (.inr (.packet packet.id)) = some packet :=
    ((hw.wrote hsaved db).resolve_left fun h => h).2
  have halert : ∀ rcp ∈ packet.recipients, commit tr db (.inr (.alert rcp.notificationId)) = some packet.id :=
    fun rcp hrcp => ((hw.wrote (hrows rcp hrcp).2.1 db).resolve_left fun h => h).1
  have hindexed : commit tr db (.inr (.packetKey userId key)) = some packet.id := by
    have hindexed := (hw.wrote hkeyed db).resolve_left fun h => h
    rw [h.actorId, h.idempotencyKey] at hindexed
    exact hindexed.2.2
  have hsent : Sent cfg db (commit tr db) tr userId filingId key data packet := by
    refine ⟨h, hindexed, fun rcp hrcp =>
      ⟨((hw.wrote (hrows rcp hrcp).1 db).resolve_left fun h => h).1, halert rcp hrcp, ?_⟩⟩
    obtain ⟨notice, hwrite⟩ := (hrows rcp hrcp).2.2
    obtain ⟨_, rcp', hrcp', hid, notice', hnotice', hnew⟩ := (hw.wrote hwrite db).resolve_right fun h => h
    exact ⟨notice', hnotice', rcp', hrcp', hid, hnew⟩
  have hdrew : ∀ rcp ∈ packet.recipients, ⟨.fresh, rcp.notificationId⟩ ∈ tr ∧ ⟨.fresh, rcp.id⟩ ∈ tr := by
    intro rcp hrcp
    have hmem : ∀ n ∈ [rcp.notificationId, rcp.id], ⟨.fresh, n⟩ ∈ tr := fun n hn =>
      mem_draws.1 (h.numbers.subset (List.mem_flatMap.2 ⟨rcp, hrcp, hn⟩))
    exact ⟨hmem _ (by simp), hmem _ (by simp)⟩
  refine ⟨.of_writes (hw.mono fun g v hg => ?_), hindexed⟩
  rcases g with g | g
  · exact hg.elim id id
  · cases g with
    | notice id =>
      obtain ⟨hnew, rcp, hrcp, rfl, notice, rfl, hnotice⟩ := hg.resolve_right fun h => h
      exact ⟨notice, rfl, .sent userId filingId key data packet rcp notice rfl hpacket hrcp rfl (halert rcp hrcp) hnew
        hnotice⟩
    | packet id =>
      obtain ⟨rfl, rfl⟩ := hg.resolve_left fun h => h
      exact ⟨packet, userId, filingId, key, data, rfl, rfl, rfl, hsent⟩
    | packetKey actorId key' =>
      obtain ⟨rfl, rfl, rfl⟩ := hg.resolve_left fun h => h
      rw [h.actorId, h.idempotencyKey]
      exact ⟨hkey, packet, rfl, hpacket, h.actorId, h.idempotencyKey⟩
    | delivery id =>
      obtain ⟨rfl, rcp, hrcp, rfl⟩ := hg.resolve_left fun h => h
      exact ⟨(hdrew rcp hrcp).2, packet, rfl, hpacket, rcp, hrcp, rfl⟩
    | alert id =>
      obtain ⟨rfl, rcp, hrcp, rfl⟩ := hg.resolve_left fun h => h
      exact ⟨(hdrew rcp hrcp).1, packet, rfl, hpacket, rcp, hrcp, rfl⟩
    | _ => exact hg.elim False.elim False.elim

theorem map_id_filterMap_find {manifest : List DocumentResponse} {ids : List DocumentId}
    (h : ids ⊆ manifest.map DocumentResponse.id) :
    (ids.filterMap fun id => manifest.find? fun record => record.id == id).map DocumentResponse.id = ids := by
  induction ids with
  | nil => rfl
  | cons id ids ih =>
    obtain ⟨record, hrecord, rfl⟩ := List.mem_map.1 (h List.mem_cons_self)
    cases hfind : manifest.find? fun r => r.id == record.id with
    | none => exact absurd (List.find?_eq_none.1 hfind record hrecord) (by simp)
    | some found =>
      simp only [List.filterMap_cons, hfind, List.map_cons]
      have hid : found.id = record.id := by simpa using List.find?_some hfind
      rw [ih fun _ hid => h (List.mem_cons_of_mem _ hid), hid]

theorem sentDocuments_newPacket {file : FilingFile} {source : FilingTransaction} {manifest : List DocumentResponse}
    {id : PacketId} {time : Instant} {court : Option Court} {recipients : List ServiceRecipient}
    (hcaseId : file.filing.caseId = some caseId) (hsource : currentSource file = .ok source)
    (hreviewed : source.id = data.sourceTransactionId) (hmanifest : sourceDocuments source = .ok manifest)
    (hselected : data.documentIds ⊆ manifest.map DocumentResponse.id)
    (havailable : (file.documents.filter fun doc => doc.retainedAt.isSome && data.documentIds.contains doc.id).length =
      data.documentIds.length)
    (hdocs : ∀ doc ∈ file.documents.filter fun doc => doc.retainedAt.isSome && data.documentIds.contains doc.id,
      ∃ saved ∈ manifest, saved.id = doc.id ∧ doc.matchesRecord saved = true) :
    SentDocuments file source data { newPacket id caseId case file source userId actor time key (data.fields filingId)
      court manifest with recipients } := by
  obtain ⟨records, hrecords, hnodup, rfl⟩ := sourceDocuments_spec hmanifest
  have hsorted : (data.fields filingId).documents ⊆
      (records.filter fun record => !privateDocumentTypes.contains record.documentTypeCode).map DocumentResponse.id :=
    fun id hid => hselected ((List.mergeSort_perm _ _).subset hid)
  have hids := map_id_filterMap_find hsorted
  have hmem : ∀ d ∈ (data.fields filingId).documents.filterMap fun id =>
      (records.filter fun record => !privateDocumentTypes.contains record.documentTypeCode).find?
        fun record => record.id == id,
      d ∈ records ∧ privateDocumentTypes.contains d.documentTypeCode = false := by
    intro d hd
    obtain ⟨_, _, hfind⟩ := List.mem_filterMap.1 hd
    have hfilter := List.mem_filter.1 (List.mem_of_find?_eq_some hfind)
    exact ⟨hfilter.1, by simpa using hfilter.2⟩
  refine ⟨hsource, hreviewed, rfl, hcaseId, rfl, ⟨records, hrecords, hnodup, fun d hd => (hmem d hd).1⟩,
    fun d hd => (hmem d hd).2, hids, havailable, fun doc hdoc hretained hid => ?_⟩
  obtain ⟨saved, hsaved, hsame, hmatch⟩ := hdocs doc (List.mem_filter.2 ⟨hdoc, by simp [hretained, hid]⟩)
  have hlisted : doc.id ∈ (data.fields filingId).documents := (List.mergeSort_perm _ _).mem_iff.2 hid
  rw [← hids] at hlisted
  obtain ⟨d, hd, hdid⟩ := List.mem_map.1 hlisted
  refine ⟨d, hd, hdid, ?_⟩
  rwa [List.inj_on_of_nodup_map hnodup (hmem d hd).1 (List.mem_filter.1 hsaved).1 (hdid.trans hsame.symm)]

theorem insertPacket_changes (pre : BothTrace) (hpre : Silent pre) (hactor : db (.inl (.user userId)) = some actor)
    (hactive : actor.user.isActive = true) :
    Meets db (insertPacket cfg userId actor filingId data key) fun tr id =>
      ServiceChanges cfg (.sendDocuments userId filingId key data) db (pre ++ tr) ∧
        SentAnswer (pre ++ tr) (commit (pre ++ tr) db) userId filingId key data id := by
  simp only [insertPacket, left_look, meets_bind, meets_require, meets_ofExcept, meets_snapshot, meets_look, meets_now,
    meets_newId, meets_lock]
  intro _ _
  refine requireSender_meets.mono ?_
  rintro tr₁ ⟨file, caseId, case⟩ ⟨h₁, hfile, hcaseId, hcase, hsender⟩ source hsource hreviewed manifest hmanifest
    hselected seen hlength
  refine checkSelected_meets.left.mono ?_
  rintro tr₂ _ ⟨_, hside, rfl, hrows, hnodup⟩ havailable
  cases hside
  refine (meets_ofPortal checkDocuments_meets).mono ?_
  rintro tr₃ _ ⟨h₂, hdocs⟩ court time id
  dsimp only at *
  cases hkey : db (.inr (.packetKey userId key)) with
  | some _ =>
    simp only [meets_bind, meets_expect]
    refine findPacket_meets.mono ?_
    rintro tr₃ found ⟨h₃, seen', hseen', hfound⟩ packet hpacket
    refine replayPacket_meets.mono ?_
    rintro tr₄ _ ⟨h₄, rfl, hsha⟩
    refine ⟨.of_silent (by simp [hpre, h₁, h₂, h₃, h₄, Writes]), .inr ⟨seen', packet, by simp [hseen'], ?_, rfl, hsha⟩⟩
    rw [← hfound, hpacket]
  | none =>
    simp only [meets_bind, meets_pure]
    refine addRecipients_meets.mono ?_
    rintro tr₃ recipients ⟨h₃, hids, hnames, hnumbers⟩
    refine savePacket_meets.mono ?_
    rintro tr₄ _ ⟨h₄, hsaved, hkeyed, hrecipients⟩
    have hdocuments : SentDocuments file source data { newPacket id caseId case file source userId actor time key
        (data.fields filingId) court manifest with recipients } :=
      sentDocuments_newPacket hcaseId hsource hreviewed hmanifest hselected havailable hdocs
    refine (Composed.changes { newPacket id caseId case file source userId actor time key (data.fields filingId) court
      manifest with recipients } ?_ hkey ?_ ?_ ?_ fun rcp hrcp => ?_).imp_right fun h => .inl ⟨?_, h⟩
    · exact {
        actorId := rfl
        idempotencyKey := rfl
        requestSha256 := rfl
        fresh := by simp [newPacket]
        documents := ⟨file, source, case, hfile, hdocuments, hcase, hsender hactor hactive⟩
        recipients := by
          refine ⟨case, seen, hcase, by simp, fun rcp hrcp => ?_⟩
          obtain ⟨⟨row, hrow, hnamed⟩, _⟩ := hnames rcp hrcp
          obtain ⟨hmem, hof, hparticipant, huser⟩ := mem_selectedContacts hrow
          have hchecked := (hrows row hrow).1
          refine ⟨row.contact, row.participant, row.user, hmem, hof, hnamed.contactId, hchecked.selected,
          hnamed.version,
            hnamed.snapshot, hchecked.electronic, hparticipant, ?_, ?_⟩
          · rw [hnamed.recipientId]
            exact huser
          · rw [hnamed.recipientId]
            exact hchecked.routed
        apart := hids ▸ hnodup
        others := fun rcp hrcp => by
          obtain ⟨⟨row, hrow, hnamed⟩, _⟩ := hnames rcp hrcp
          rw [hnamed.recipientId]
          exact (hrows row hrow).1.other
        count := by
          have hlengths := congrArg List.length hids
          simp only [List.length_map] at hlengths
          exact hlengths.trans hlength
        numbers := by
          refine hnumbers.trans ?_
          simp only [draws_append]
          repeat' first | exact List.sublist_append_left _ _ | refine List.sublist_append_of_sublist_right ?_ }
    · simp only [writes_append, hpre.writes, h₁.writes, h₂.writes, Writes, true_and, and_true]
      refine ⟨h₃.mono fun g v hg => .inl (NewNotices.mono (fun e he => by simp [he]) (fun _ h => h) g v hg),
        h₄.mono fun g v => .inr⟩
    · simp [hsaved]
    · simp [hkeyed]
    · obtain ⟨_, notice, hwrite⟩ := hnames rcp hrcp
      exact ⟨by simp [hrecipients rcp hrcp], by simp [hrecipients rcp hrcp], notice, by simp [hwrite]⟩
    · simp

theorem sendDocuments_changes : Meets db (sendDocuments cfg userId filingId key data) fun tr id =>
    ServiceChanges cfg (.sendDocuments userId filingId key data) db tr ∧
      SentAnswer tr (commit tr db) userId filingId key data id := by
  simp only [sendDocuments, left_lock, meets_bind, meets_lock, meets_expect]
  refine getCurrentUser_meets.mono fun tr₁ _ h₁ actor hactor => findPacket_meets.mono ?_
  rintro tr₂ found ⟨h₂, seen, hseen, hfound⟩
  obtain ⟨hrow, hactive⟩ := Option.filter_eq_some_iff.1 hactor
  have hpre : Silent (tr₁ ++ ([⟨.lock .share (.inl (.user userId)), db (.inl (.user userId))⟩] ++ tr₂)) := by
    simp [h₁.1, h₂, Writes]
  cases found with
  | some packet =>
    refine replayPacket_meets.mono ?_
    rintro tr₃ _ ⟨h₃, rfl, hsha⟩
    exact ⟨.of_silent (by simp [h₁.1, h₂, h₃, Writes]), .inr ⟨seen, packet, by simp [hseen], hfound.symm, rfl, hsha⟩⟩
  | none => exact (insertPacket_changes _ hpre hrow hactive).mono fun tr _ h => by simpa using h

end Muefs
