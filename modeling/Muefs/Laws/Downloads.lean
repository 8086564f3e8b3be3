import Mathlib.Data.List.Perm.Basic
import Muefs.Deliveries.Files
import Muefs.Laws.Alerts

/-!
# Delivered documents

* `find?_id` : lookup in a list with distinct keys;
* `SentDocuments.available_record` : a packet's record of a document describes one that the filing retained;
* `BothRun.document_available` : it always does, so no check of the document ever refuses a download;
* `DownloadLaw`, `BothRun.downloads` : what a download served, to whom, and that it is on record for good.
-/

namespace Muefs
open RowLocks

variable {cfg : Settings} {w₀ w w' : BothWorld}

/-! ## Documents of a packet -/

theorem find?_id {α β : Type} [BEq β] [LawfulBEq β] {key : α → β} {l : List α} (h : (l.map key).Nodup) {a : α}
    (ha : a ∈ l) : l.find? (fun x => key x == key a) = some a := by
  cases hfound : l.find? fun x => key x == key a with
  | none => exact absurd (List.find?_eq_none.1 hfound a ha) (by simp)
  | some b =>
    have hkey : key b = key a := by simpa using List.find?_some hfound
    rw [List.inj_on_of_nodup_map h (List.mem_of_find?_eq_some hfound) ha hkey]

theorem SentDocuments.selected {file : FilingFile} {source : FilingTransaction} {data : ServicePacketCreate}
    {packet : ServicePacket} {f : FilingId} (h : SentDocuments file source data packet) (hwf : file.WellFormed f)
    {id : DocumentId} (hid : id ∈ data.documentIds) :
    ∃ doc ∈ file.documents, doc.id = id ∧ doc.retainedAt.isSome = true := by
  let kept := file.documents.filter fun doc => doc.retainedAt.isSome && data.documentIds.contains doc.id
  have hnodup : (kept.map FilingDocument.id).Nodup := (List.filter_sublist.map _).nodup hwf.documents
  have hsubset : kept.map FilingDocument.id ⊆ data.documentIds := by
    intro n hn
    obtain ⟨doc, hdoc, rfl⟩ := List.mem_map.1 hn
    have hselected := (List.mem_filter.1 hdoc).2
    simp only [Bool.and_eq_true, List.contains_eq_mem, decide_eq_true_eq] at hselected
    exact hselected.2
  have hperm : (kept.map FilingDocument.id).Perm data.documentIds := by
    refine (List.subperm_of_subset hnodup hsubset).perm_of_length_le ?_
    rw [List.length_map]
    exact h.available.ge
  obtain ⟨doc, hdoc, hdocId⟩ := List.mem_map.1 (hperm.mem_iff.2 hid)
  have hretained := (List.mem_filter.1 hdoc).2
  simp only [Bool.and_eq_true] at hretained
  exact ⟨doc, List.mem_of_mem_filter hdoc, hdocId, hretained.1⟩

theorem SentDocuments.ids_nodup {file : FilingFile} {source : FilingTransaction} {data : ServicePacketCreate}
    {packet : ServicePacket} (h : SentDocuments file source data packet) :
    (packet.documents.map DocumentResponse.id).Nodup := by
  rw [h.ids]
  exact (List.mergeSort_perm _ _).nodup_iff.2 data.documents.2.2

/-- **A record of a packet describes a document that the filing retained.** -/
theorem SentDocuments.available_record {file : FilingFile} {source : FilingTransaction} {data : ServicePacketCreate}
    {packet : ServicePacket} {f : FilingId} (h : SentDocuments file source data packet) (hwf : file.WellFormed f)
    {saved : DocumentResponse} (hsaved : saved ∈ packet.documents) :
    ∃ doc ∈ file.documents, doc.id = saved.id ∧ doc.retainedAt.isSome = true ∧ doc.matchesRecord saved = true := by
  have hid : saved.id ∈ data.documentIds := by
    have hmem := List.mem_map_of_mem (f := DocumentResponse.id) hsaved
    rw [h.ids] at hmem
    exact List.mem_mergeSort.1 hmem
  obtain ⟨doc, hdoc, hdocId, hretained⟩ := h.selected hwf hid
  obtain ⟨saved', hsaved', hid', hmatch⟩ := h.retained doc hdoc hretained (hdocId ▸ hid)
  rw [List.inj_on_of_nodup_map h.ids_nodup hsaved' hsaved (hid'.trans hdocId)] at hmatch
  exact ⟨doc, hdoc, hdocId, hretained, hmatch⟩

theorem FilingDocument.Grows.matchesRecord {d d' : FilingDocument} (h : d.Grows d') (htype : d'.mimeType = d.mimeType)
    (saved : DocumentResponse) : d'.matchesRecord saved = d.matchesRecord saved := by
  unfold FilingDocument.matchesRecord
  rw [h.documentTypeCode, h.sha256Hash, h.fileSizeBytes, htype]

/-- The document that a download of a record finds: it is retained, and the record describes it. -/
structure Available (db : BothStore) (packet : ServicePacket) (saved : DocumentResponse)
    (doc : FilingDocument) : Prop where
  found : ∃ file : FilingFile, db (.inl (.envelope packet.filingId)) = some file ∧
    file.documents.find? (fun d => d.id == saved.id) = some doc
  retained : doc.retainedAt.isSome = true
  matching : doc.matchesRecord saved = true

/-- **A delivered document stays available.** -/
theorem BothRun.document_available (h : BothRun cfg w₀ w) {id : PacketId} {packet : ServicePacket}
    (hpacket : w.db (.inr (.packet id)) = some packet) {saved : DocumentResponse} (hsaved : saved ∈ packet.documents) :
    (packet.documents.find? fun d => d.id == saved.id) = some saved ∧
      privateDocumentTypes.contains saved.documentTypeCode = false ∧ ∃ doc, Available w.db packet saved doc := by
  obtain ⟨_, w₁, sid, s, a, userId, filingId, key, data, hsent⟩ := h.sent_at hpacket
  obtain ⟨file, source, case, hfile, hdocuments, _, _⟩ := hsent.sent.documents
  have hwf := hsent.run.wellFormed filingId file hfile
  refine ⟨find?_id hdocuments.ids_nodup hsaved, hdocuments.notPrivate saved hsaved, ?_⟩
  obtain ⟨doc, hdoc, hid, hretained, hmatch⟩ := hdocuments.available_record hwf hsaved
  have hcommit : Steps (bothPortal cfg) w₁ (w₁.committed sid s a) := .single (.commit sid s a hsent.commits)
  obtain ⟨file', hfile', doc', hdoc', hgrows, htype⟩ :=
    hsent.run.document_lasts (hcommit.trans hsent.later) hfile hdoc hretained
  have hfiling : packet.filingId = filingId := hdocuments.filingId.trans hwf.id_eq
  refine ⟨doc', ⟨file', hfiling ▸ hfile', ?_⟩, hgrows.retained hretained, ?_⟩
  · rw [← hid, ← hgrows.id]
    exact find?_id (h.wellFormed filingId file' hfile').documents hdoc'
  · rw [hgrows.matchesRecord htype]
    exact hmatch

/-! ## Downloads -/

theorem downloadDeliveryDocument_answer (cfg : Settings) {db : BothStore} {userId : UserId} {id : DeliveryId}
    {documentId : DocumentId} :
    Meets db (serviceProgram cfg (.downloadDeliveryDocument userId id documentId)) fun tr a =>
      ∃ served, a = .document served ∧ (∃ packet doc saved, Served db tr userId id documentId packet doc saved served) ∧
        commit tr db (.inr (.downloads id)) = db (.inr (.downloads id)) ++ [(userId, documentId)] := by
  refine answering_meets (downloadDeliveryDocument_meets.mono fun tr served h => ⟨served, rfl, h.1, ?_⟩)
  rw [h.2, Function.update_self]

theorem BothRun.downloads_since (h : BothRun cfg w₀ w) (hs : Steps (bothPortal cfg) w w') (id : DeliveryId) :
    w.db (.inr (.downloads id)) <+: w'.db (.inr (.downloads id)) := by
  refine h.row_since (g := .downloads id) (I := fun v => w.db (.inr (.downloads id)) <+: v) List.prefix_rfl ?_ hs
  intro w₁ sid s a _ _ _ hI hstep
  obtain ⟨_, _, _, hv⟩ := hstep
  rw [hv]
  exact hI.trans (List.prefix_append _ _)

/-- **The law of a download,** which commits in `made`. An active account that the delivery concerned, by what the
download read, was served a document of the packet that is not private, as the packet describes it, from the file that
the filing holds under its number; and this is on record. -/
structure DownloadLaw (cfg : Settings) (w₀ w : BothWorld) (userId : UserId) (id : DeliveryId) (documentId : DocumentId)
    (made : BothWorld) (sid : Nat) (s : BothSession) (packet : ServicePacket) (rcp : ServiceRecipient)
    (saved : DocumentResponse) (doc : FilingDocument) (served : ServedDocument) : Prop where
  run : BothRun cfg w₀ made
  request : s.request = .downloadDeliveryDocument userId id documentId
  commits : Commits (bothPortal cfg) made sid s (.document served)
  later : Steps (bothPortal cfg) (made.committed sid s (.document served)) w
  saved_eq : w.db (.inr (.packet packet.id)) = some packet
  mem : rcp ∈ packet.recipients
  id_eq : rcp.id = id
  concerned : Concerned cfg w₀ made sid s packet rcp userId
  record : saved ∈ packet.documents
  recordId : saved.id = documentId
  notPrivate : privateDocumentTypes.contains saved.documentTypeCode = false
  available : Available w.db packet saved doc
  served_eq : served = ⟨doc.fileKey, saved.sha256Hash, saved.fileSizeBytes⟩
  described : served.sha256Hash = doc.sha256Hash ∧ served.fileSizeBytes = doc.fileSizeBytes
  logged : (userId, documentId) ∈ w.db (.inr (.downloads id))

/-- **Every download that is answered obeys the law,** in every later state. -/
theorem BothRun.downloads (h : BothRun cfg w₀ w) {sid : Nat} {s : BothSession} {a : ServiceResponse}
    (hs : w.sessions sid = some s) {userId : UserId} {id : DeliveryId} {documentId : DocumentId}
    (hr : s.request = .downloadDeliveryDocument userId id documentId) (ha : s.status = .committed a) :
    ∃ made s₁ packet rcp saved doc served, a = .document served ∧ s₁.trace = s.trace ∧
      DownloadLaw cfg w₀ w userId id documentId made sid s₁ packet rcp saved doc served := by
  obtain ⟨w₁, s₁, h₁, hc, h₂, hreq, htrace⟩ := h.steps.committed_at (h.start.idle sid) hs ha
  have hrun₁ : BothRun cfg w₀ w₁ := ⟨h.start, h₁⟩
  have hrun₂ := hrun₁.tail (.commit sid s₁ a hc)
  have hs₁ : Steps (bothPortal cfg) w₁ w := Relation.ReflTransGen.head (.commit sid s₁ a hc) h₂
  have hmeets : Meets w₁.db ((bothPortal cfg).program s₁.request) fun tr a => ∃ served, a = .document served ∧
      (∃ packet doc saved, Served w₁.db tr userId id documentId packet doc saved served) ∧
      commit tr w₁.db (.inr (.downloads id)) = w₁.db (.inr (.downloads id)) ++ [(userId, documentId)] := by
    rw [hreq.trans hr]
    exact downloadDeliveryDocument_answer cfg
  obtain ⟨served, rfl, ⟨packet, doc, saved, hserved⟩, hlogged⟩ := hc.meets hrun₁.guarded hmeets
  obtain ⟨rcp, account, delivery, staff, hentered⟩ := hserved.entered
  obtain ⟨_, _, _, hviewed⟩ := hentered.actor
  obtain ⟨hconcerned, _⟩ := hentered.concerned hrun₁ hc.found
  obtain ⟨packetId, _, hlooked⟩ := hviewed.looked
  obtain ⟨w₂, hrun₃, hs₃, hpacket⟩ := hrun₁.looked hc.found hlooked
  have hkept := hrun₃.packet_kept (hs₃.trans hs₁) hpacket
  obtain ⟨hpid, _⟩ := h.sent_at hkept
  have hmem := List.mem_of_find?_eq_some hserved.saved_eq
  have hid : saved.id = documentId := by simpa using List.find?_some hserved.saved_eq
  obtain ⟨_, _, doc', havailable⟩ := h.document_available hkept hmem
  obtain ⟨file₁, hlook, hfound⟩ := hserved.document
  obtain ⟨w₃, hrun₄, hs₄, hfile₁⟩ := hrun₁.looked hc.found hlook
  obtain ⟨file, hfile, hfind⟩ := havailable.found
  obtain ⟨file', hfile', d', hd', hgrows, _⟩ := hrun₄.document_lasts (hs₄.trans hs₁) hfile₁
    (List.mem_of_find?_eq_some hfound) hserved.retained
  cases hfile.symm.trans hfile'
  have hdoc : doc.id = documentId := by simpa using List.find?_some hfound
  have hsame : d' = doc' := by
    have hfind' := find?_id (h.wellFormed _ file hfile).documents hd'
    rw [hgrows.id, hdoc, ← hid, hfind] at hfind'
    exact (Option.some.inj hfind').symm
  subst hsame
  have hmatch := hserved.matching
  simp only [FilingDocument.matchesRecord, Bool.and_eq_true, beq_iff_eq] at hmatch
  refine ⟨w₁, s₁, packet, rcp, saved, d', served, rfl, htrace, {
    run := hrun₁
    request := hreq.trans hr
    commits := hc
    later := h₂
    saved_eq := hpid ▸ hkept
    mem := hviewed.mem
    id_eq := hviewed.id_eq
    concerned := hconcerned
    record := hmem
    recordId := hid
    notPrivate := hserved.notPrivate
    available := havailable
    served_eq := by rw [hserved.served_eq, hgrows.fileKey]
    described := by
      rw [hserved.served_eq, hgrows.sha256Hash, hgrows.fileSizeBytes]
      exact ⟨hmatch.1.1.2.symm, hmatch.1.2.symm⟩
    logged := ?_ }⟩
  have hevent : (userId, documentId) ∈ (w₁.committed sid s₁ (.document served)).db (.inr (.downloads id)) := by
    change _ ∈ commit s₁.trace w₁.db (.inr (.downloads id))
    rw [hlogged]
    simp
  exact (hrun₂.downloads_since h₂ id).subset hevent

def downloadedWorld : BothWorld :=
  sentWorld.serveAll (bothPortal mailedSettings) 4 [(5000, .downloadDeliveryDocument 4 18 12)]

theorem downloadedWorld_run : BothRun mailedSettings mailedWorld downloadedWorld := sentWorld_serve (by decide +kernel)

/-- His download obeys the law. -/
theorem BothRun.downloads_downloaded : ∃ made s packet rcp saved doc served,
    DownloadLaw mailedSettings mailedWorld downloadedWorld 4 18 12 made 4 s packet rcp saved doc served := by
  have hsession : (downloadedWorld.sessions 4).any (fun s => match s.status with
      | .committed (.document _) => true
      | _ => false) = true := by decide +kernel
  obtain ⟨s, hs, hstatus⟩ := (Option.any_eq_true _ _).1 hsession
  have hrequest : (downloadedWorld.sessions 4).map Session.request = some (.downloadDeliveryDocument 4 18 12) := rfl
  rw [hs, Option.map_some] at hrequest
  cases hstat : s.status with
  | committed a =>
    obtain ⟨made, s₁, packet, rcp, saved, doc, served, _, _, hlaw⟩ :=
      downloadedWorld_run.downloads hs (Option.some.inj hrequest) hstat
    exact ⟨made, s₁, packet, rcp, saved, doc, served, hlaw⟩
  | _ => simp [hstat] at hstatus

/-- The document of the packet stays available. -/
theorem BothRun.document_downloaded : ∃ packet saved doc, sentWorld.db (.inr (.packet 16)) = some packet ∧
    Available sentWorld.db packet saved doc := by
  have hsent : (sentWorld.db (.inr (.packet 16))).any (fun packet => !packet.documents.isEmpty) = true :=
    by decide +kernel
  obtain ⟨packet, hpacket, hdocuments⟩ := (Option.any_eq_true _ _).1 hsent
  obtain ⟨saved, hsaved⟩ := List.exists_mem_of_ne_nil packet.documents (by simpa using hdocuments)
  obtain ⟨_, _, doc, havailable⟩ := sentWorld_run.document_available hpacket hsaved
  exact ⟨packet, saved, doc, hpacket, havailable⟩

end Muefs
