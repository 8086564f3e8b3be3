import Mathlib.Data.List.Perm.Basic
import Muefs.Deliveries.Files
import Muefs.Deliveries.Packets

/-!
# Packets

* `BothRun.keyed`, `BothRun.packet_keyed` : a packet and its key lead to each other;
* `Selects`, `MadeBy` : the selection of the request that made a packet, and what it read;
* `PacketLaw`, `BothRun.packets` : a packet has the selected documents of a receipt, for reviewed contacts of its case,
  and each of its recipients has his delivery and its notice for good;
* `SentOnce`, `BothRun.sent_once` : one packet for each key of a sender, whatever runs beside them.
-/

namespace Muefs
open RowLocks

variable {cfg : Settings} {w₀ w w' : BothWorld}

/-! ## Keys -/

/-- A packet that a sender made under a key. -/
structure SentUnder (db : BothStore) (userId : UserId) (key : Uuid) (packet : ServicePacket) : Prop where
  saved : db (.inr (.packet packet.id)) = some packet
  actorId : packet.actorId = userId
  idempotencyKey : packet.idempotencyKey = key

theorem SentUnder.since {userId : UserId} {key : Uuid} {packet : ServicePacket} (h : BothRun cfg w₀ w)
    (hsent : SentUnder w.db userId key packet) (hs : Steps (bothPortal cfg) w w') : SentUnder w'.db userId key packet :=
  ⟨h.packet_kept hs hsent.saved, hsent.actorId, hsent.idempotencyKey⟩

theorem BothRun.packetKey_kept (h : BothRun cfg w₀ w) (hs : Steps (bothPortal cfg) w w') {userId : UserId} {key : Uuid}
    {id : PacketId} (hkey : w.db (.inr (.packetKey userId key)) = some id) :
    w'.db (.inr (.packetKey userId key)) = some id := by
  refine h.row_since (g := .packetKey userId key) (I := fun v => v = some id) hkey ?_ hs
  intro w₁ sid s a _ _ _ hI hstep
  exact absurd (hI.symm.trans hstep.1) (by simp)

/-- **A key leads to a packet of its sender.** -/
theorem BothRun.keyed (h : BothRun cfg w₀ w) {userId : UserId} {key : Uuid} {id : PacketId}
    (hkey : w.db (.inr (.packetKey userId key)) = some id) :
    ∃ packet, packet.id = id ∧ SentUnder w.db userId key packet := by
  have h₀ : ¬ w₀.db (.inr (.packetKey userId key)) = some id := by simp [h.start.packetKey userId key]
  obtain ⟨w₁, w₂, hs₁, hs, hs₂, hnot, hentry⟩ :=
    h.steps.born (P := fun w => w.db (.inr (.packetKey userId key)) = some id) h₀ hkey
  have h₁ : BothRun cfg w₀ w₁ := ⟨h.start, hs₁⟩
  rcases BothRun.step_cases hs with heq | ⟨sid, s, a, hc, rfl⟩
  · exact absurd ((heq (.inr (.packetKey userId key)) rfl).symm.trans hentry) hnot
  · rcases (h₁.changes hc).right (.packetKey userId key) with heq | ⟨_, packet, hv, hsaved, hactor, hidem⟩
    · exact absurd (heq.symm.trans hentry) hnot
    · have hid : packet.id = id := Option.some.inj (hv.symm.trans hentry)
      exact ⟨packet, hid, SentUnder.since (h₁.tail hs) ⟨hsaved, hactor, hidem⟩ hs₂⟩

/-- **A packet is what its key leads to.** -/
theorem BothRun.packet_keyed (h : BothRun cfg w₀ w) {userId : UserId} {key : Uuid} {packet : ServicePacket}
    (hsent : SentUnder w.db userId key packet) : w.db (.inr (.packetKey userId key)) = some packet.id := by
  obtain ⟨_, w₁, sid, s, a, userId', filingId, key', data, hat⟩ := h.sent_at hsent.saved
  have hkeyed := hat.sent.keyed
  rw [← hat.sent.actorId, ← hat.sent.idempotencyKey, hsent.actorId, hsent.idempotencyKey] at hkeyed
  exact hat.after.packetKey_kept hat.later hkeyed

/-! ## Selections -/

/-- A packet has exactly this selection: documents of one receipt of the filing, and contacts at their versions. -/
structure Selects (packet : ServicePacket) (filingId : FilingId) (data : ServicePacketCreate) : Prop where
  filing : packet.filingId = filingId
  source : packet.sourceTransactionId = data.sourceTransactionId
  documents : (packet.documents.map DocumentResponse.id).Perm data.documentIds
  contacts : (packet.recipients.map fun rcp => (rcp.contactId, rcp.contactVersion)).Perm data.recipients
  requestSha256 : packet.requestSha256 = .of (data.fields filingId)

theorem lookup_mem {α β : Type} [BEq α] [LawfulBEq α] {l : List (α × β)} {a : α} {b : β} (h : l.lookup a = some b) :
    (a, b) ∈ l := by
  obtain ⟨l₁, l₂, rfl, _⟩ := List.lookup_eq_some_iff.1 h
  simp

theorem Selects.of_fields {packet : ServicePacket} {f f' : FilingId} {data data' : ServicePacketCreate}
    (h : Selects packet f data) (hfields : data.fields f = data'.fields f') : Selects packet f' data' := by
  have hfiling : f = f' := congrArg PacketFields.filingId hfields
  have hsource : data.sourceTransactionId = data'.sourceTransactionId :=
    congrArg PacketFields.sourceTransactionId hfields
  have hdocuments : (data.fields f).documents = (data'.fields f').documents := congrArg PacketFields.documents hfields
  have hcontacts : (data.fields f).recipients = (data'.fields f').recipients := congrArg PacketFields.recipients hfields
  refine ⟨h.filing.trans hfiling, h.source.trans hsource, ?_, ?_, hfields ▸ h.requestSha256⟩
  · have hsorted : (data.fields f).documents.Perm data'.documentIds := by
      rw [hdocuments]
      exact List.mergeSort_perm _ _
    exact h.documents.trans ((List.mergeSort_perm _ _).symm.trans hsorted)
  · have hsorted : (data.fields f).recipients.Perm data'.recipients := by
      rw [hcontacts]
      exact List.mergeSort_perm _ _
    exact h.contacts.trans ((List.mergeSort_perm _ _).symm.trans hsorted)

section Sending
variable {packet : ServicePacket} {w₁ : BothWorld} {sid : Nat} {s : BothSession} {a : ServiceResponse}
  {userId : UserId} {filingId : FilingId} {key : Uuid} {data : ServicePacketCreate}

/-- The contacts of the recipients are the selected ones, each once: two recipients of one contact would
be one account. -/
theorem SentAt.chosen (h : SentAt cfg w₀ w packet w₁ sid s a userId filingId key data) :
    (packet.recipients.map fun rcp => (rcp.contactId, rcp.contactVersion)).Perm data.recipients := by
  obtain ⟨case, seen, _, _, haddressed⟩ := h.sent.recipients
  have hids := h.run.contacts_distinct packet.caseId
  have hnodup : (packet.recipients.map fun rcp => (rcp.contactId, rcp.contactVersion)).Nodup := by
    refine List.Nodup.map_on ?_ (List.Nodup.of_map _ h.sent.apart)
    intro rcp hrcp rcp' hrcp' heq
    obtain ⟨contact, p, user, ha⟩ := haddressed rcp hrcp
    obtain ⟨contact', p', user', ha'⟩ := haddressed rcp' hrcp'
    have hsame : contact = contact' := by
      refine List.inj_on_of_nodup_map hids ha.mem ha'.mem ?_
      rw [← ha.contactId, ← ha'.contactId]
      exact congrArg Prod.fst heq
    subst hsame
    cases ha.participant.symm.trans ha'.participant
    have haccount := Option.some.inj (ha.account.symm.trans ha'.account)
    exact List.inj_on_of_nodup_map h.sent.apart hrcp hrcp' (congrArg Prod.fst haccount)
  have hsubset : (packet.recipients.map fun rcp => (rcp.contactId, rcp.contactVersion)) ⊆ data.recipients := by
    intro choice hchoice
    obtain ⟨rcp, hrcp, rfl⟩ := List.mem_map.1 hchoice
    obtain ⟨contact, p, user, ha⟩ := haddressed rcp hrcp
    rw [ha.contactId, ha.version]
    exact lookup_mem ha.selected
  refine (List.subperm_of_subset hnodup hsubset).perm_of_length_le ?_
  rw [List.length_map, h.sent.count]

theorem SentAt.filing (h : SentAt cfg w₀ w packet w₁ sid s a userId filingId key data) :
    packet.filingId = filingId := by
  obtain ⟨file, source, case, hfile, hdocuments, _⟩ := h.sent.documents
  exact hdocuments.filingId.trans (h.run.wellFormed filingId file hfile).id_eq

theorem SentAt.selects (h : SentAt cfg w₀ w packet w₁ sid s a userId filingId key data) :
    Selects packet filingId data := by
  obtain ⟨file, source, case, _, hdocuments, _⟩ := h.sent.documents
  refine ⟨h.filing, hdocuments.sourceTransactionId.trans hdocuments.reviewed, ?_, h.chosen, h.sent.requestSha256⟩
  rw [hdocuments.ids]
  exact List.mergeSort_perm _ _

end Sending

theorem BothRun.selects (h : BothRun cfg w₀ w) {id : PacketId} {packet : ServicePacket}
    (hpacket : w.db (.inr (.packet id)) = some packet) {filingId : FilingId} {data : ServicePacketCreate}
    (hsha : packet.requestSha256 = .of (data.fields filingId)) : Selects packet filingId data := by
  obtain ⟨_, w₁, sid, s, a, userId, filingId', key, data', hsent⟩ := h.sent_at hpacket
  refine hsent.selects.of_fields ?_
  simpa using hsent.sent.requestSha256.symm.trans hsha

/-! ## Answers -/

theorem sendDocuments_answer {db : BothStore} {userId : UserId} {filingId : FilingId} {key : Uuid}
    {data : ServicePacketCreate} :
    Meets db (serviceProgram cfg (.sendDocuments userId filingId key data)) fun tr a =>
      ∃ id, a = .packet id ∧ SentAnswer tr (commit tr db) userId filingId key data id :=
  answering_meets (sendDocuments_changes.mono fun _ id h => ⟨id, rfl, h.2⟩)

/-- **A request that sends documents is answered with the packet under its key, which has its selection.** -/
theorem BothRun.sent_answer (h : BothRun cfg w₀ w) {sid : Nat} {s : BothSession} {a : ServiceResponse}
    (hs : w.sessions sid = some s) {userId : UserId} {filingId : FilingId} {key : Uuid} {data : ServicePacketCreate}
    (hr : s.request = .sendDocuments userId filingId key data) (ha : s.status = .committed a) :
    ∃ packet, a = .packet packet.id ∧ SentUnder w.db userId key packet ∧ Selects packet filingId data := by
  obtain ⟨w₁, s₁, h₁, hc, h₂, hreq, _⟩ := h.steps.committed_at (h.start.idle sid) hs ha
  have hrun₁ : BothRun cfg w₀ w₁ := ⟨h.start, h₁⟩
  have hrun₂ := hrun₁.tail (.commit sid s₁ a hc)
  suffices ∃ packet, a = .packet packet.id ∧ SentUnder (w₁.committed sid s₁ a).db userId key packet ∧
      packet.requestSha256 = .of (data.fields filingId) by
    obtain ⟨packet, hanswer, hsent, hsha⟩ := this
    exact ⟨packet, hanswer, hsent.since hrun₂ h₂, hrun₂.selects hsent.saved hsha⟩
  have hreq₁ := hreq.trans hr
  have hmeets : Meets w₁.db ((bothPortal cfg).program s₁.request) fun tr a =>
      ∃ id, a = .packet id ∧ SentAnswer tr (commit tr w₁.db) userId filingId key data id := by
    rw [hreq₁]
    exact sendDocuments_answer
  obtain ⟨id, rfl, hanswer⟩ := hc.meets hrun₁.guarded hmeets
  rcases hanswer with ⟨hfresh, hentry⟩ | ⟨seen, packet, hseen, hkeyed, rfl, hsha⟩
  · obtain ⟨packet, rfl, hsent⟩ := hrun₂.keyed hentry
    refine ⟨packet, rfl, hsent, ?_⟩
    rcases (hrun₁.changes hc).right (.packet packet.id) with heq | ⟨packet', _, _, _, _, hv, _, hr', hnew⟩
    · have hbefore := heq.symm.trans hsent.saved
      exact absurd hfresh ((hrun₁.spent (.packet (by rw [hbefore]; rfl))).not_drawn hc)
    · cases hv.symm.trans hsent.saved
      cases hr'.symm.trans hreq₁
      exact hnew.requestSha256
  · obtain ⟨w₃, hrun₃, hs₃, rfl⟩ := hrun₁.snapshot hc.found hseen
    obtain ⟨id, hentry, hpacket⟩ := Option.bind_eq_some_iff.1 hkeyed
    obtain ⟨packet', rfl, hsent⟩ := hrun₃.keyed hentry
    cases hsent.saved.symm.trans hpacket
    exact ⟨packet, rfl, hsent.since hrun₃ (hs₃.tail (.commit sid s₁ _ hc)), hsha⟩

theorem BothRun.sent_unique (h : BothRun cfg w₀ w) {userId : UserId} {key : Uuid} {packet packet' : ServicePacket}
    (hsent : SentUnder w.db userId key packet) (hsent' : SentUnder w.db userId key packet') : packet = packet' := by
  have hid : packet.id = packet'.id := Option.some.inj ((h.packet_keyed hsent).symm.trans (h.packet_keyed hsent'))
  exact Option.some.inj (hsent.saved.symm.trans (hid ▸ hsent'.saved))

/-- What the requests of a sender under one key come to. -/
structure SentOnce (cfg : Settings) (w : BothWorld) (userId : UserId) (key : Uuid) : Prop where
  unique : ∀ packet packet', SentUnder w.db userId key packet → SentUnder w.db userId key packet' → packet = packet'
  answered : ∀ sid s filingId data a, w.sessions sid = some s → s.request = .sendDocuments userId filingId key data →
    s.status = .committed a → ∃ packet, a = .packet packet.id ∧ SentUnder w.db userId key packet ∧
      Selects packet filingId data
  same : ∀ sid s filingId data a sid' s' filingId' data' a', w.sessions sid = some s →
    s.request = .sendDocuments userId filingId key data → s.status = .committed a → w.sessions sid' = some s' →
    s'.request = .sendDocuments userId filingId' key data' → s'.status = .committed a' →
    a = a' ∧ data.fields filingId = data'.fields filingId'
  kept : ∀ w' packet, Steps (bothPortal cfg) w w' → SentUnder w.db userId key packet → SentUnder w'.db userId key packet

/-- **One packet for each key.** Whatever runs beside them, the requests of a sender under one key make at most one
packet; each that is answered is answered with it and asked for its selection; a request for another selection is
never answered. -/
theorem BothRun.sent_once (h : BothRun cfg w₀ w) (userId : UserId) (key : Uuid) : SentOnce cfg w userId key := by
  refine {
    unique := fun _ _ hsent hsent' => h.sent_unique hsent hsent'
    answered := fun _ _ _ _ _ hs hr ha => h.sent_answer hs hr ha
    same := ?_
    kept := fun _ _ hs hsent => hsent.since h hs }
  intro sid s filingId data a sid' s' filingId' data' a' hs hr ha hs' hr' ha'
  obtain ⟨packet, rfl, hsent, hselects⟩ := h.sent_answer hs hr ha
  obtain ⟨packet', rfl, hsent', hselects'⟩ := h.sent_answer hs' hr' ha'
  cases h.sent_unique hsent hsent'
  exact ⟨rfl, by simpa using hselects.requestSha256.symm.trans hselects'.requestSha256⟩

def resentWorld : BothWorld := sentWorld.serveAll (bothPortal mailedSettings) 4 [(5000,
    .sendDocuments 1 10 5 smallSelection)]

def answeredPacket (s : BothSession) : Option PacketId :=
  match s.status with
  | .committed (.packet id) => some id
  | _ => none

/-- Both requests are answered, with one packet. -/
theorem BothRun.sent_once_resent : SentOnce mailedSettings resentWorld 1 5 ∧ ∀ sid ∈ [3, 4],
    (resentWorld.sessions sid).map Session.request = some (.sendDocuments 1 10 5 smallSelection) ∧
      (resentWorld.sessions sid).bind answeredPacket = some 16 := by
  refine ⟨BothRun.sent_once (sentWorld_serve (by decide +kernel)) 1 5, ?_⟩
  simp only [List.forall_mem_cons]
  exact ⟨⟨rfl, by decide +kernel⟩, ⟨rfl, by decide +kernel⟩, by simp⟩

/-! ## What a packet is made of -/

/-- What a packet was made of: the filing with its receipt, the case and its contacts as they were in `made`, and the
accounts of its recipients as they were in `seen`. -/
structure MadeFrom (cfg : Settings) (made seen : BothWorld) (data : ServicePacketCreate) (packet : ServicePacket)
    (file : FilingFile) (source : FilingTransaction) (case : CaseFile) : Prop where
  file_eq : made.db (.inl (.envelope packet.filingId)) = some file
  case_eq : made.db (.inl (.case packet.caseId)) = some case
  documents : SentDocuments file source data packet
  sender : Sender cfg made.db packet.actorId file case
  recipients : ∀ rcp ∈ packet.recipients, ∃ contact p user, Addressed cfg seen.db packet.caseId case
    (made.db (.inr (.contacts packet.caseId))) data.recipients rcp contact p user

/-- **The request that made a packet,** by its commit in `made`. It read the accounts in `seen`. -/
structure MadeBy (cfg : Settings) (w₀ w : BothWorld) (packet : ServicePacket) (made : BothWorld) (sid : Nat)
    (s : BothSession) (data : ServicePacketCreate) (seen : BothWorld) : Prop where
  run : BothRun cfg w₀ made
  request : s.request = .sendDocuments packet.actorId packet.filingId packet.idempotencyKey data
  commits : Commits (bothPortal cfg) made sid s (.packet packet.id)
  unsaved : made.db (.inr (.packet packet.id)) = none
  saved : (made.committed sid s (.packet packet.id)).db (.inr (.packet packet.id)) = some packet
  later : Steps (bothPortal cfg) (made.committed sid s (.packet packet.id)) w
  selects : Selects packet packet.filingId data
  read : AnsweredIn (bothPortal cfg) w₀ made sid s ⟨.snapshot, seen.db⟩ seen
  source : ∃ file source case, MadeFrom cfg made seen data packet file source case

theorem SentAt.answer {packet : ServicePacket} {w₁ : BothWorld} {sid : Nat} {s : BothSession} {a : ServiceResponse}
    {userId : UserId} {filingId : FilingId} {key : Uuid} {data : ServicePacketCreate}
    (h : SentAt cfg w₀ w packet w₁ sid s a userId filingId key data) : a = .packet packet.id := by
  have hfound : (w₁.committed sid s a).sessions sid = some { s with status := .committed a } :=
    World.put_sessions.2 (.inl ⟨rfl, rfl⟩)
  obtain ⟨packet', rfl, hsent, _⟩ := h.after.sent_answer hfound h.request rfl
  rw [h.after.sent_unique hsent ⟨h.saved, h.sent.actorId, h.sent.idempotencyKey⟩]

theorem BothRun.made_by (h : BothRun cfg w₀ w) {id : PacketId} {packet : ServicePacket}
    (hpacket : w.db (.inr (.packet id)) = some packet) :
    packet.id = id ∧ ∃ made sid s data seen, MadeBy cfg w₀ w packet made sid s data seen := by
  obtain ⟨hid, w₁, sid, s, a, userId, filingId, key, data, hsent⟩ := h.sent_at hpacket
  obtain rfl := hsent.answer
  obtain ⟨file, source, case, hfile, hdocuments, hcase, hsender⟩ := hsent.sent.documents
  obtain ⟨case', seen, hcase', hseen, haddressed⟩ := hsent.sent.recipients
  cases hcase.symm.trans hcase'
  obtain ⟨w₂, hread⟩ := hsent.run.steps.answered_at hsent.run.start.idle hsent.commits.found hseen
  obtain rfl := hread.snapshot
  obtain rfl := hsent.filing
  obtain rfl := hsent.sent.actorId
  obtain rfl := hsent.sent.idempotencyKey
  have hunsaved : w₁.db (.inr (.packet packet.id)) = none := by
    cases hold : w₁.db (.inr (.packet packet.id)) with
    | none => rfl
    | some _ => exact absurd hsent.sent.fresh ((hsent.run.spent (.packet (by rw [hold]; rfl))).not_drawn hsent.commits)
  exact ⟨hid, w₁, sid, s, data, w₂, hsent.run, hsent.request, hsent.commits, hunsaved, hsent.saved, hsent.later,
    hsent.selects, hread, file, source, case, hfile, hcase, hdocuments, hsender, haddressed⟩

/-- **The law of a packet.** The request that made it selected its documents and contacts, and no others: documents of
the receipt, none of them private, and distinct accounts of participants other than the sender, at the reviewed versions
of their contacts. It stays, and so do the delivery of each recipient and the notice that announces it. -/
structure PacketLaw (cfg : Settings) (w₀ w : BothWorld) (packet : ServicePacket) : Prop where
  made : ∃ made sid s data seen, MadeBy cfg w₀ w packet made sid s data seen
  apart : (packet.recipients.map ServiceRecipient.recipientId).Nodup
  others : ∀ rcp ∈ packet.recipients, rcp.recipientId ≠ packet.actorId
  announced : ∀ rcp ∈ packet.recipients, ∀ w', Steps (bothPortal cfg) w w' → Announced w'.db packet rcp
  kept : ∀ w', Steps (bothPortal cfg) w w' → w'.db (.inr (.packet packet.id)) = some packet
  numbers : (packet.recipients.flatMap fun rcp => [rcp.notificationId, rcp.id]).Nodup

/-- **Packets.** -/
theorem BothRun.packets (h : BothRun cfg w₀ w) {id : PacketId} {packet : ServicePacket}
    (hpacket : w.db (.inr (.packet id)) = some packet) : PacketLaw cfg w₀ w packet := by
  obtain ⟨hid, hmade⟩ := h.made_by hpacket
  obtain ⟨_, w₁, sid, s, a, userId, filingId, key, data, hsent⟩ := h.sent_at hpacket
  refine {
    made := hmade
    apart := hsent.sent.apart
    others := fun rcp hrcp => hsent.sent.actorId ▸ hsent.sent.others rcp hrcp
    announced := fun rcp hrcp w' hs => (h.is_announced hpacket hrcp).since h hs
    kept := fun w' hs => hid ▸ h.packet_kept hs hpacket
    numbers := hsent.numbers_nodup }

/-- The packet of the small portal. -/
theorem BothRun.packets_sent : ∃ packet, sentWorld.db (.inr (.packet 16)) = some packet ∧
    packet.documents.map DocumentResponse.id = [12] ∧ packet.recipients.map ServiceRecipient.recipientId = [4] ∧
    PacketLaw mailedSettings mailedWorld sentWorld packet := by
  have hsent : (sentWorld.db (.inr (.packet 16))).any (fun packet =>
      packet.documents.map DocumentResponse.id == [12] && packet.recipients.map ServiceRecipient.recipientId == [4]) =
      true := by decide +kernel
  obtain ⟨packet, hpacket, hmade⟩ := (Option.any_eq_true _ _).1 hsent
  simp only [Bool.and_eq_true, beq_iff_eq] at hmade
  exact ⟨packet, hpacket, hmade.1, hmade.2, sentWorld_run.packets hpacket⟩

end Muefs
