import Muefs.Portal.StorageAudit

/-!
# The recovery audit reports everything once

* `Records.receiptLines`, `Records.packetLines`, `Records.allLines` : the lines of a complete audit, from the rows;
* `inspectFiles_gives`, `inspectReceipts_gives`, `inspectServicePackets_gives` : each inspection yields its lines;
* `Records.HasFile`, `Records.HasReceipt`, `Records.HasPacket`, `Records.HasOrphan` : the rows in scope; the queries
  select them;
* `Enumerated` : every row is reported once; `Held` : what it means that every line is a success;
* `runAudit_sound`, `runAudit_passes` : the law, and that an audit of a collection without faults succeeds.
-/

namespace Muefs.StorageAudit
open Formats Listings

variable {recovery : Recovery} {db : Database} {scope : AuditScope} {courtId : Option Int} {fuel : Nat}

/-! ## Queries -/

def Database.Refused (db : Database) (e : AuditError) : Prop := ∃ q, db.refuses db.records q = some e

theorem execute_gives {α : Type} {q : AuditQuery} {answer : α} {P : List AuditLine → α → Prop} (h : P [] answer) :
    (db.execute q answer).Gives P db.Refused := by
  unfold Database.execute
  split
  · rename_i e he
    exact ⟨q, he⟩
  · exact h

theorem yield_each {α : Type} {Q : AuditError → Prop} (lineOf : α → AuditLine) (xs : List α) :
    (xs.foldlM (fun _ x => .yield (lineOf x)) () : Audit Unit).Gives (fun lines _ => lines = xs.map lineOf) Q := by
  refine Gen.gives_foldlM (I := fun done out _ => out = done.map lineOf) (d := []) (o := []) rfl ?_
  intro done out _ x _ hI
  rw [Gen.gives_yield, hI, List.map_append]
  rfl

theorem each_row {α κ : Type} [LinearOrder κ] {key : α → κ} {rows : List α} {limit : Nat} (hlimit : 0 < limit)
    (hnodup : (rows.map key).Nodup) (query : Option κ → AuditQuery) (lineOf : α → AuditLine)
    (hfuel : rows.length < fuel) :
    (keysetLoop .endless (fun last => db.execute (query last) (keysetPage key rows limit last)) key
      (fun _ page => page.foldlM (fun _ row => .yield (lineOf row)) ()) fuel none ()).Gives
      (fun lines _ => lines = (inOrder key rows).map lineOf) db.Refused := by
  have hlength : (inOrder key rows).length < fuel := by rwa [inOrder_perm.length_eq]
  refine gives_keysetLoop (I := fun done out _ => out = done.map lineOf) (d := []) (o := []) hlimit hnodup
    (fun last => execute_gives ⟨rfl, rfl⟩) ?_ hlength rfl rfl
  intro done page out _ _ _ _ hI
  refine (yield_each lineOf page).imp fun lines _ hlines => ?_
  rw [hlines, hI, List.map_append]

/-! ## Files -/

theorem Records.files_nodup (t : Records) (courtId : Option Int) (kind : FileKind) :
    ((t.files courtId kind).map FileRow.id).Nodup := by
  cases kind with
  | document =>
    unfold files
    rw [List.map_map]
    exact (List.filter_sublist.map _).nodup t.documentIds
  | publicCopy =>
    unfold files
    rw [List.map_map]
    exact (List.filter_sublist.map _).nodup t.copyIds

/-- The lines of `inspect_files`. -/
def Records.fileLines (t : Records) (recovery : Recovery) (courtId : Option Int) (kind : FileKind) : List AuditLine :=
  (inOrder FileRow.id (t.files courtId kind)).map (inspectFile recovery kind)

theorem inspectFiles_gives (hdocuments : (db.records.files courtId .document).length < fuel)
    (hcopies : (db.records.files courtId .publicCopy).length < fuel) :
    (inspectFiles fuel recovery db courtId).Gives (fun lines _ =>
      lines = db.records.fileLines recovery courtId .document ++
      db.records.fileLines recovery courtId .publicCopy) db.Refused := by
  unfold inspectFiles
  rw [Gen.gives_bind]
  refine (each_row (by decide) (db.records.files_nodup courtId .document) _ _ hdocuments).imp fun lines _ hlines => ?_
  refine (each_row (by decide) (db.records.files_nodup courtId .publicCopy) _ _ hcopies).imp fun lines' _ hlines' => ?_
  rw [hlines, hlines']
  rfl

/-! ## Receipts -/

def Records.referenceLine (t : Records) (ref : Reference) : AuditLine :=
  ⟨ref.item, compareReference t.documents t.copies ref, ref.fields⟩

def Records.entryLine (t : Records) (row : TransactionRow) (p : Json × Nat) : AuditLine :=
  match readEntry row p.2 p.1 with
  | none => ⟨.entry row.kind row.id p.2, .invalidManifest, [("filing_id", .int row.filingId)]⟩
  | some ref => t.referenceLine ref

def Records.receiptLines (t : Records) (row : TransactionRow) : List AuditLine :=
  match row.manifest with
  | none => [⟨.receipt row.id, .invalidManifest, []⟩]
  | some manifest => manifest.zipIdx.map (t.entryLine row)

theorem find?_filter_contains {α κ : Type} [BEq κ] [LawfulBEq κ] (key : α → κ) (rows : List α) {ids : List κ} {id : κ}
    (hid : id ∈ ids) : (rows.filter fun row => ids.contains (key row)).find? (fun row => key row == id) =
      rows.find? fun row => key row == id := by
  rw [List.find?_filter]
  congr 1
  funext row
  by_cases heq : key row = id
  · simp [heq, hid]
  · simp [heq]

theorem compareReceiptBatch_gives (references : List Reference) :
    (compareReceiptBatch db references).Gives
      (fun rs lines => rs = [] ∧ lines = references.map db.records.referenceLine) db.Refused := by
  unfold compareReceiptBatch
  rw [Gen.gives_bind]
  refine execute_gives ?_
  have hcopies : (readCopies db (references.filterMap Reference.copyId)).Gives (fun rs copies => rs = [] ∧
      ∀ ref ∈ references, ∀ id, ref.copyId = some id →
        copies.find? (·.id == id) = db.records.copies.find? (·.id == id)) db.Refused := by
    have hmem : ∀ ref ∈ references, ∀ id, ref.copyId = some id → id ∈ references.filterMap Reference.copyId :=
      fun ref href id hid => List.mem_filterMap.2 ⟨ref, href, hid⟩
    unfold readCopies
    split
    · rename_i hnone
      refine Gen.gives_pure.2 ⟨rfl, fun ref href id hid => ?_⟩
      exact absurd (hnone ▸ hmem ref href id hid) List.not_mem_nil
    · refine execute_gives ⟨rfl, fun ref href id hid => ?_⟩
      exact find?_filter_contains (fun copy : CopyRow => copy.id) db.records.copies (hmem ref href id hid)
  rw [Gen.gives_bind]
  refine hcopies.imp ?_
  rintro rs copies ⟨hrs, hcopies⟩
  subst hrs
  refine Gen.gives_pure.2 ⟨rfl, List.map_congr_left fun ref href => ?_⟩
  have hdocument := find?_filter_contains (fun document : DocumentRow => document.id) db.records.documents
    (List.mem_map_of_mem (f := Reference.documentId) href)
  unfold Records.referenceLine compareReference
  rw [hdocument]
  cases hcopy : ref.copyId with
  | none => rfl
  | some id =>
    simp only
    rw [hcopies ref href id hcopy]

/-- What has been yielded and what is kept for the next batch are the lines of the entries so far. -/
def Pending (t : Records) (spec out : List AuditLine) (references : List Reference) : Prop :=
  (out ++ references.map t.referenceLine).Perm spec

theorem inspectEntry_gives {row : TransactionRow} {p : Json × Nat} {spec out : List AuditLine}
    {references : List Reference} (hI : Pending db.records spec out references) :
    (inspectEntry db row references p).Gives
      (fun rs references' => Pending db.records (spec ++ [db.records.entryLine row p]) (out ++
        rs) references') db.Refused := by
  unfold inspectEntry Records.entryLine
  cases hread : readEntry row p.2 p.1 with
  | none =>
    simp only [Gen.gives_bind, Gen.gives_yield, Gen.gives_pure]
    unfold Pending at hI ⊢
    rw [List.append_nil, List.append_assoc]
    exact (List.perm_append_comm.append_left out).trans (List.append_assoc .. ▸ hI.append_right _)
  | some ref =>
    have hnext : Pending db.records (spec ++ [db.records.referenceLine ref]) out (references ++ [ref]) := by
      unfold Pending at hI ⊢
      rw [List.map_append, ← List.append_assoc]
      exact hI.append_right _
    dsimp only
    split
    · simp only [Gen.gives_bind]
      refine (compareReceiptBatch_gives _).imp ?_
      rintro rs lines ⟨hrs, hlines⟩
      subst hrs
      refine (yield_each id lines).imp fun lines' _ hlines' => ?_
      rw [List.map_id] at hlines'
      refine Gen.gives_pure.2 ?_
      unfold Pending at hnext ⊢
      rw [hlines', hlines]
      simpa using hnext
    · refine Gen.gives_pure.2 ?_
      rw [List.append_nil]
      exact hnext

theorem inspectTransaction_gives {row : TransactionRow} {spec out : List AuditLine} {references : List Reference}
    (hI : Pending db.records spec out references) :
    (inspectTransaction db references row).Gives
      (fun rs references' => Pending db.records (spec ++ db.records.receiptLines row) (out ++ rs) references')
      db.Refused := by
  unfold inspectTransaction Records.receiptLines
  cases row.manifest with
  | none =>
    simp only [Gen.gives_bind, Gen.gives_yield, Gen.gives_pure]
    unfold Pending at hI ⊢
    rw [List.append_nil, List.append_assoc]
    exact (List.perm_append_comm.append_left out).trans (List.append_assoc .. ▸ hI.append_right _)
  | some manifest =>
    refine Gen.gives_foldlM (I := fun done out references =>
      Pending db.records (spec ++ done.map (db.records.entryLine row)) out references) (d := []) (by simpa using hI) ?_
    intro done out references p _ hI
    rw [List.map_append, ← List.append_assoc]
    exact inspectEntry_gives hI

/-- **The inspection of the receipts yields the lines of every transaction**, in some order. -/
theorem inspectReceipts_gives (hfuel : (db.records.receipts scope).length < fuel) :
    (inspectReceipts fuel db scope).Gives (fun lines _ =>
      lines.Perm ((inOrder TransactionRow.id (db.records.receipts scope)).flatMap db.records.receiptLines))
      db.Refused := by
  have hlength : (inOrder TransactionRow.id (db.records.receipts scope)).length < fuel :=
    by rwa [inOrder_perm.length_eq]
  have hnodup : ((db.records.receipts scope).map TransactionRow.id).Nodup :=
    (List.filter_sublist.map _).nodup db.records.transactionIds
  unfold inspectReceipts
  rw [Gen.gives_bind]
  refine (gives_keysetLoop (I := fun done out references =>
      Pending db.records (done.flatMap db.records.receiptLines) out references) (d := []) (o := [])
    (by decide) hnodup (fun last => execute_gives ⟨rfl, rfl⟩) ?_ hlength rfl
    (show Pending db.records [] [] [] from .nil)).imp fun lines references hI => ?_
  · intro done page out references _ _ _ hI
    refine Gen.gives_foldlM (I := fun seen out references =>
      Pending db.records (seen.flatMap db.records.receiptLines) out references) hI fun seen out references row _ hI =>
      ?_
    rw [List.flatMap_append, List.flatMap_singleton]
    exact inspectTransaction_gives hI
  · rw [List.nil_append] at hI
    split
    · rename_i hnone
      subst hnone
      refine Gen.gives_pure.2 ?_
      rw [List.append_nil]
      simpa [Pending] using hI
    · simp only [Gen.gives_bind]
      refine (compareReceiptBatch_gives _).imp ?_
      rintro rs found ⟨hrs, hfound⟩
      subst hrs
      refine (yield_each id found).imp fun found' _ hfound' => ?_
      rw [List.map_id] at hfound'
      rw [hfound', hfound, List.nil_append]
      exact hI

/-! ## Packets -/

def Records.recipientsOf (t : Records) (packetId : String) : List RecipientRow :=
  t.recipients.filter (·.packetId == packetId)

/-- The recipients that are looked at: none, where there are none or too many. -/
def Records.targetsOf (t : Records) (packetId : String) : List RecipientRow :=
  if 1 ≤ (t.recipientsOf packetId).length ∧ (t.recipientsOf packetId).length ≤ 100 then
    inOrder RecipientRow.id (t.recipientsOf packetId)
  else []

def Records.finding (t : Records) (recovery : Recovery) (packet : PacketRow) : PacketFinding :=
  packetFinding recovery t packet (t.recipientsOf packet.id).length (t.targetsOf packet.id)

def Records.packetLines (t : Records) (recovery : Recovery) (packet : PacketRow) : List AuditLine :=
  match t.finding recovery packet with
  | .closed status reason => [packetLine packet status reason]
  | .opened status reason => packetLine packet status reason :: (t.targetsOf packet.id).map (recipientLine t packet)

theorem inspectPacket_gives {t : Records} {Q : AuditError → Prop} (packet : PacketRow) :
    (inspectPacket recovery t (t.recipientsOf packet.id).length (t.targetsOf packet.id) packet).Gives
      (fun lines _ => lines = t.packetLines recovery packet) Q := by
  unfold inspectPacket Records.packetLines Records.finding
  cases packetFinding recovery t packet (t.recipientsOf packet.id).length (t.targetsOf packet.id) with
  | closed status reason => exact Gen.gives_yield.2 rfl
  | opened status reason =>
    simp only [Gen.gives_bind, Gen.gives_yield]
    refine (yield_each (recipientLine t packet) _).imp fun lines _ hlines => ?_
    rw [hlines]
    rfl

theorem Records.lookup_recipientCounts (t : Records) {ids : List String} {id : String} (hid : id ∈ ids) :
    ((t.recipientCounts ids).lookup id).getD 0 = (t.recipientsOf id).length := by
  unfold recipientCounts recipientsOf
  induction ids with
  | nil => cases hid
  | cons id' ids ih =>
    rw [List.map_cons, List.filter_cons]
    by_cases heq : id = id'
    · subst heq
      split
      · simp
      · rename_i hzero
        simp only [bne_iff_ne, ne_eq, Decidable.not_not] at hzero
        rw [hzero]
        by_cases hin : id ∈ ids
        · rw [ih hin, hzero]
        · rw [List.lookup_eq_none_iff.2 ?_]
          · rfl
          · intro p hp
            obtain ⟨id', hid', rfl⟩ := List.mem_map.1 (List.mem_of_mem_filter hp)
            have hne : id ≠ id' := fun heq => hin (heq ▸ hid')
            exact bne_iff_ne.2 hne
    · have ih := ih (List.mem_of_ne_of_mem heq hid)
      split
      · rw [List.lookup_cons]
        simp only [beq_false_of_ne heq]
        exact ih
      · exact ih

theorem Records.page_targets (t : Records) {ids : List String} {id : String} (hid : id ∈ ids) :
    (inOrder RecipientRow.id (t.recipients.filter fun row => (ids.filter fun id =>
        decide (1 ≤ (t.recipientsOf id).length) && decide ((t.recipientsOf id).length ≤ 100)).contains
        row.packetId)).filter
      (·.packetId == id) = t.targetsOf id := by
  have hnodup : ∀ p : RecipientRow → Bool, ((t.recipients.filter p).map RecipientRow.id).Nodup :=
    fun p => (List.filter_sublist.map _).nodup t.recipientIds
  rw [← inOrder_filter (hnodup _), List.filter_filter]
  unfold targetsOf
  split
  · rename_i hcount
    congr 1
    unfold recipientsOf at hcount ⊢
    refine List.filter_congr fun row _ => ?_
    by_cases heq : row.packetId = id
    · simp [heq, hid, hcount.1, hcount.2]
    · simp [heq]
  · rename_i hcount
    have hnone : (t.recipients.filter fun row => (row.packetId == id) && (ids.filter fun id =>
        decide (1 ≤ (t.recipientsOf id).length) && decide ((t.recipientsOf id).length ≤ 100)).contains
        row.packetId) = [] := by
      refine List.filter_eq_nil_iff.2 fun row _ hrow => hcount ?_
      simp only [Bool.and_eq_true, beq_iff_eq, List.contains_iff_mem, List.mem_filter, decide_eq_true_eq] at hrow
      exact hrow.1 ▸ hrow.2.2
    rw [hnone, inOrder, List.mergeSort_nil]

theorem inspectPackets_gives (packets : List PacketRow) : (inspectPackets recovery db packets).Gives
    (fun lines _ => lines = packets.flatMap (db.records.packetLines recovery)) db.Refused := by
  unfold inspectPackets
  rw [Gen.gives_bind]
  refine execute_gives ?_
  have hcount : ∀ packet ∈ packets, ((db.records.recipientCounts (packets.map PacketRow.id)).lookup packet.id).getD 0 =
      (db.records.recipientsOf packet.id).length :=
    fun packet hp => db.records.lookup_recipientCounts (List.mem_map_of_mem hp)
  have hcounts : ((packets.map PacketRow.id).filter fun id =>
        decide (1 ≤ ((db.records.recipientCounts (packets.map PacketRow.id)).lookup id).getD 0) &&
          decide (((db.records.recipientCounts (packets.map PacketRow.id)).lookup id).getD 0 ≤ 100)) =
      (packets.map PacketRow.id).filter fun id =>
        decide (1 ≤ (db.records.recipientsOf id).length) && decide ((db.records.recipientsOf id).length ≤ 100) := by
    refine List.filter_congr fun id hid => ?_
    rw [db.records.lookup_recipientCounts hid]
  have hrows : ∀ ids : List String, (readRecipients db ids).Gives (fun rs rows => rs = [] ∧ rows =
      inOrder RecipientRow.id (db.records.recipients.filter fun row => ids.contains row.packetId)) db.Refused := by
    intro ids
    unfold readRecipients
    split
    · rename_i hnone
      refine Gen.gives_pure.2 ⟨rfl, ?_⟩
      rw [hnone]
      simp [inOrder]
    · exact execute_gives ⟨rfl, rfl⟩
  dsimp only
  rw [Gen.gives_bind, hcounts]
  refine (hrows _).imp ?_
  rintro rs rows ⟨hrs, hread⟩
  subst hrs hread
  refine (Gen.gives_foldlM (I := fun done out _ => out = done.flatMap (db.records.packetLines recovery)) (d := [])
    (o := []) rfl ?_).imp fun lines _ hlines => hlines
  intro done out _ packet hp hI
  rw [hcount packet hp, db.records.page_targets (List.mem_map_of_mem hp)]
  refine (inspectPacket_gives packet).imp fun lines _ hlines => ?_
  rw [hlines, hI, List.flatMap_append, List.flatMap_singleton]

/-- The lines of `inspect_service_packets`. -/
def Records.serviceLines (t : Records) (recovery : Recovery) (scope : AuditScope) : List AuditLine :=
  (inOrder PacketRow.id (t.scopedPackets scope)).flatMap (t.packetLines recovery) ++
    (inOrder RecipientRow.id (t.orphans scope)).map orphanLine

theorem Records.scopedPackets_nodup (t : Records) (scope : AuditScope) :
    ((t.scopedPackets scope).map PacketRow.id).Nodup := (List.filter_sublist.map _).nodup t.packetIds

theorem Records.orphans_nodup (t : Records) (scope : AuditScope) : ((t.orphans scope).map RecipientRow.id).Nodup :=
  (List.filter_sublist.map _).nodup t.recipientIds

/-- **The inspection of the packets yields the lines of every packet and of every recipient without one.** -/
theorem inspectServicePackets_gives (hpackets : (db.records.scopedPackets scope).length < fuel)
    (horphans : (db.records.orphans scope).length < fuel) :
    (inspectServicePackets fuel recovery db scope).Gives
      (fun lines _ => lines = db.records.serviceLines recovery scope) db.Refused := by
  have hlength : (inOrder PacketRow.id (db.records.scopedPackets scope)).length < fuel :=
    by rwa [inOrder_perm.length_eq]
  unfold inspectServicePackets
  rw [Gen.gives_bind]
  refine (gives_keysetLoop (I := fun done out _ => out = done.flatMap (db.records.packetLines recovery)) (d := [])
    (o := []) (by decide) (db.records.scopedPackets_nodup scope) (fun last => execute_gives ⟨rfl, rfl⟩) ?_ hlength rfl
    rfl).imp fun lines _ hlines => ?_
  · intro done page out _ _ _ _ hI
    refine (inspectPackets_gives page).imp fun lines _ hlines => ?_
    rw [hlines, hI, List.flatMap_append]
  · refine (each_row (by decide) (db.records.orphans_nodup scope) _ _ horphans).imp fun lines' _ hlines' => ?_
    rw [List.nil_append] at hlines
    rw [hlines, hlines']
    rfl

/-! ## The whole audit -/

def Records.allLines (t : Records) (recovery : Recovery) (courtId : Option Int) : List AuditLine :=
  t.fileLines recovery courtId .document ++ t.fileLines recovery courtId .publicCopy ++
    (inOrder TransactionRow.id (t.receipts { courtId })).flatMap t.receiptLines ++ t.serviceLines recovery { courtId }

def Records.size (t : Records) : Nat :=
  t.documents.length + t.copies.length + t.transactions.length + t.packets.length + t.recipients.length

def Records.HasCourt (t : Records) (courtId : Option Int) : Prop := ∀ id ∈ courtId, id ∈ t.courts ∧ id ≠ 0

theorem requireCourt_gives : (requireCourt db courtId).Gives (fun lines _ => lines = [] ∧ db.records.HasCourt courtId)
    (fun e => db.Refused e ∨ ¬ db.records.HasCourt courtId ∧
      e = .readOnlyDatabase "The selected court does not exist") := by
  cases courtId with
  | none => exact Gen.gives_pure.2 ⟨rfl, fun id hid => by cases hid⟩
  | some id =>
    have hcourt : db.records.HasCourt (some id) ↔ (db.records.courts.contains id && id != 0) = true := by
      simp [Records.HasCourt]
    unfold requireCourt
    rw [Gen.gives_bind, hcourt]
    refine (execute_gives (P := fun lines found => lines = [] ∧ found = (db.records.courts.contains id && id != 0))
      ⟨rfl, rfl⟩).mono (fun lines found ⟨hlines, hfound⟩ => ?_) (fun e he => .inl he)
    subst hlines hfound
    split
    · rename_i hfound
      exact Gen.gives_pure.2 ⟨rfl, hfound⟩
    · rename_i hfound
      exact Gen.gives_raise.2 (.inr ⟨hfound, rfl⟩)

theorem auditLines_gives (recovery : Recovery) (courtId : Option Int) (hfuel : db.records.size < fuel) :
    (auditLines fuel recovery db courtId).Gives
      (fun lines _ => lines.Perm (db.records.allLines recovery courtId) ∧ db.records.HasCourt courtId)
      (fun e => db.Refused e ∨ ¬ db.records.HasCourt courtId ∧
        e = .readOnlyDatabase "The selected court does not exist") := by
  have hdocuments : (db.records.files courtId .document).length < fuel := by
    have hle := List.length_filter_le (fun row : DocumentRow => courtId.isNone || db.records.inFilings ⟨courtId, none⟩
      row.envelopeId) db.records.documents
    unfold Records.size at hfuel
    unfold Records.files
    rw [List.length_map]
    omega
  have hcopies : (db.records.files courtId .publicCopy).length < fuel := by
    have hle := List.length_filter_le (fun row : CopyRow => courtId.isNone || db.records.documents.any fun document =>
      document.id == row.documentId && db.records.inFilings ⟨courtId, none⟩ document.envelopeId) db.records.copies
    unfold Records.size at hfuel
    unfold Records.files
    rw [List.length_map]
    omega
  have hreceipts : (db.records.receipts { courtId }).length < fuel :=
    Nat.lt_of_le_of_lt (List.length_filter_le _ _) (by unfold Records.size at hfuel; omega)
  have hpackets : (db.records.scopedPackets { courtId }).length < fuel :=
    Nat.lt_of_le_of_lt (List.length_filter_le _ _) (by unfold Records.size at hfuel; omega)
  have horphans : (db.records.orphans { courtId }).length < fuel :=
    Nat.lt_of_le_of_lt (List.length_filter_le _ _) (by unfold Records.size at hfuel; omega)
  unfold auditLines
  rw [Gen.gives_bind]
  refine (execute_gives (P := fun lines _ => lines = []) rfl).mono (fun lines _ hlines => ?_) (fun e he => .inl he)
  subst hlines
  rw [Gen.gives_bind]
  refine requireCourt_gives.imp ?_
  rintro lines _ ⟨hlines, hcourt⟩
  subst hlines
  rw [Gen.gives_bind]
  refine (inspectFiles_gives hdocuments hcopies).mono (fun files _ hfiles => ?_) (fun e he => .inl he)
  rw [Gen.gives_bind]
  refine (inspectReceipts_gives hreceipts).mono (fun found _ hfound => ?_) (fun e he => .inl he)
  refine (inspectServicePackets_gives hpackets horphans).mono (fun packets _ hlines => ?_) (fun e he => .inl he)
  refine ⟨?_, hcourt⟩
  rw [hfiles, hlines, List.nil_append, List.nil_append]
  unfold Records.allLines
  rw [List.append_assoc (_ ++ _)]
  exact (hfound.append_right _).append_left _

/-! ## The counters -/

section Counter

variable {κ : Type} [DecidableEq κ]

/-- A counter counts the values, each at least once. -/
structure CountsOf (counts : List (κ × Nat)) (values : List κ) : Prop where
  keys : ∀ p ∈ counts, p.1 ∈ values
  positive : ∀ p ∈ counts, 0 < p.2
  counted : ∀ v ∈ values, ∃ p ∈ counts, p.1 = v

theorem CountsOf.increment {counts : List (κ × Nat)} {values : List κ} (h : CountsOf counts values) (k : κ) :
    CountsOf (increment counts k) (values ++ [k]) := by
  unfold StorageAudit.increment
  split
  · rename_i hany
    obtain ⟨p₀, hp₀, hk⟩ := List.any_eq_true.1 hany
    refine ⟨fun p hp => ?_, fun p hp => ?_, fun v hv => ?_⟩
    · obtain ⟨q, hq, rfl⟩ := List.mem_map.1 hp
      split
      · exact List.mem_append_right _ List.mem_cons_self
      · exact List.mem_append_left _ (h.keys q hq)
    · obtain ⟨q, hq, rfl⟩ := List.mem_map.1 hp
      split
      · exact Nat.succ_pos _
      · exact h.positive q hq
    · have hold : ∃ p ∈ counts, p.1 = v := by
        rcases List.mem_append.1 hv with hv | hv
        · exact h.counted v hv
        · exact ⟨p₀, hp₀, (eq_of_beq hk).trans (List.mem_singleton.1 hv).symm⟩
      obtain ⟨p, hp, rfl⟩ := hold
      refine ⟨_, List.mem_map_of_mem hp, ?_⟩
      split
      · rename_i heq
        exact heq.symm
      · rfl
  · refine ⟨fun p hp => ?_, fun p hp => ?_, fun v hv => ?_⟩
    · rcases List.mem_append.1 hp with hp | hp
      · exact List.mem_append_left _ (h.keys p hp)
      · cases List.mem_singleton.1 hp
        exact List.mem_append_right _ List.mem_cons_self
    · rcases List.mem_append.1 hp with hp | hp
      · exact h.positive p hp
      · cases List.mem_singleton.1 hp
        exact Nat.one_pos
    · rcases List.mem_append.1 hv with hv | hv
      · obtain ⟨p, hp, hpv⟩ := h.counted v hv
        exact ⟨p, List.mem_append_left _ hp, hpv⟩
      · exact ⟨_, List.mem_append_right _ List.mem_cons_self, (List.mem_singleton.1 hv).symm⟩

theorem counter_counts (values : List κ) : CountsOf (counter values) values := by
  have hrun : ∀ (rest seen : List κ) (counts : List (κ × Nat)), CountsOf counts seen →
      CountsOf (rest.foldl StorageAudit.increment counts) (seen ++ rest) := by
    intro rest
    induction rest with
    | nil =>
      intro seen counts h
      rw [List.append_nil]
      exact h
    | cons k rest ih =>
      intro seen counts h
      have hnext := ih (seen ++ [k]) _ (h.increment k)
      rw [List.append_assoc] at hnext
      exact hnext
  exact hrun values [] [] ⟨by simp, by simp, by simp⟩

end Counter

theorem failures_eq_zero {lines : List AuditLine} :
    failures (counter (lines.map AuditLine.status)) = 0 ↔ ∀ line ∈ lines, line.status.passes = true := by
  have hcounts := counter_counts (lines.map AuditLine.status)
  unfold failures
  rw [List.sum_eq_zero_iff_forall_eq_nat]
  constructor
  · intro hzero line hline
    by_contra hfails
    obtain ⟨p, hp, hstatus⟩ := hcounts.counted _ (List.mem_map_of_mem hline)
    have hmem : p ∈ (counter (lines.map AuditLine.status)).filter fun p => !p.1.passes :=
      List.mem_filter.2 ⟨hp, by rw [hstatus]; simpa using hfails⟩
    exact absurd (hzero _ (List.mem_map_of_mem hmem)) (Nat.pos_iff_ne_zero.1 (hcounts.positive p hp))
  · intro hall n hn
    obtain ⟨p, hp, rfl⟩ := List.mem_map.1 hn
    obtain ⟨hp, hfails⟩ := List.mem_filter.1 hp
    obtain ⟨line, hline, hstatus⟩ := List.mem_map.1 (hcounts.keys p hp)
    rw [← hstatus, hall line hline] at hfails
    cases hfails

/-! ## What is in scope -/

section Scope

variable (t : Records) (courtId : Option Int)

/-- The filing is of the court, where one is selected. -/
def Records.FilingInScope (filingId : Int) : Prop :=
  ∀ court ∈ courtId, ∃ filing ∈ t.filings, filing.id = filingId ∧ filing.courtId = court

/-- The case is of the court, where one is selected. -/
def Records.CaseInScope (caseId : Int) : Prop :=
  ∀ court ∈ courtId, ∃ case ∈ t.cases, case.id = caseId ∧ case.courtId = court

/-- A document, or a public copy, with a stored file. -/
inductive Records.HasFile : FileKind → FileRow → Prop where
  | document (row : DocumentRow) (hrow : row ∈ t.documents) (hscope : t.FilingInScope courtId row.envelopeId) :
      HasFile .document row.toFileRow
  | publicCopy (row : CopyRow) (hrow : row ∈ t.copies) (hscope : ∀ court ∈ courtId, ∃ document ∈ t.documents,
      document.id = row.documentId ∧ t.FilingInScope (some court) document.envelopeId) : HasFile
      .publicCopy row.toFileRow

/-- A transaction whose event is one of a receipt. -/
structure Records.HasReceipt (row : TransactionRow) : Prop where
  stored : row ∈ t.transactions
  event : row.eventType ∈ ["submitted", "service_recorded", "waiver_granted", "waiver_denied", "filing_date_ordered",
    "fee_review_requested", "fee_assessed", "public_copy_published"]
  scope : t.FilingInScope courtId row.filingId

/-- The filing of the recipient's notice is in scope. -/
def Records.NoticeInScope (row : RecipientRow) : Prop := ∃ notice ∈ t.notices, notice.id = row.notificationId ∧
  ∃ filingId, notice.filingEnvelopeId = some filingId ∧ t.FilingInScope courtId filingId

/-- The case of the recipient's contact is in scope. -/
def Records.ContactInScope (row : RecipientRow) : Prop :=
  ∃ contact ∈ t.contacts, contact.id = row.contactId ∧ t.CaseInScope courtId contact.caseId

/-- The case of the contact's participant is in scope. -/
def Records.ParticipantInScope (row : RecipientRow) : Prop := ∃ contact ∈ t.contacts, contact.id = row.contactId ∧
  ∃ participant ∈ t.participants, contact.participantId = some participant.id ∧ t.CaseInScope courtId participant.caseId

/-- A packet whose case, filing or source is in scope, or one of whose recipients is. -/
structure Records.HasPacket (packet : PacketRow) : Prop where
  stored : packet ∈ t.packets
  scope : t.CaseInScope courtId packet.caseId ∨ t.FilingInScope courtId packet.filingId ∨
    (∃ source ∈ t.transactions, source.id = packet.sourceTransactionId ∧ t.FilingInScope courtId source.filingId) ∨
    ∃ row ∈ t.recipients, row.packetId = packet.id ∧
      (t.NoticeInScope courtId row ∨ t.ContactInScope courtId row ∨ t.ParticipantInScope courtId row)

/-- A recipient without a packet. -/
structure Records.HasOrphan (row : RecipientRow) : Prop where
  stored : row ∈ t.recipients
  alone : ∀ packet ∈ t.packets, packet.id ≠ row.packetId
  scope : courtId = none ∨ t.NoticeInScope courtId row ∨ t.ContactInScope courtId row

end Scope

/-- The entries that the details of a transaction list: its documents, or the one public copy. -/
inductive TransactionRow.Lists (row : TransactionRow) : List Json → Prop where
  | documents (entry : Json) (entries : List Json) (hevent : row.eventType ≠ "public_copy_published")
      (hdocuments : row.details.get? "documents" = some (.array (entry :: entries))) : Lists row (entry :: entries)
  | publicCopy (fields : List (String × Json)) (hevent : row.eventType = "public_copy_published")
      (hdetails : row.details = .object fields) : Lists row [getJson row.details "public_copy"]

theorem getJson_array {value : Json} {k : String} {items : List Json} :
    getJson value k = .array items ↔ value.get? k = some (.array items) := by
  unfold getJson
  cases value.get? k <;> simp

theorem isObject_eq_true {value : Json} : isObject value = true ↔ ∃ fields, value = .object fields := by
  cases value <;> simp [isObject]

theorem get?_isSome {value : Json} {k : String} {item : Json} (h : value.get? k = some item) :
    isObject value = true := by
  cases value <;> first | rfl | cases h

theorem TransactionRow.manifest_eq_some {row : TransactionRow} {entries : List Json} :
    row.manifest = some entries ↔ row.Lists entries := by
  unfold manifest kind
  constructor
  · intro h
    split_ifs at h with hdetails hevent
    · obtain ⟨fields, hfields⟩ := isObject_eq_true.1 (by simpa using hdetails)
      cases h
      exact .publicCopy fields hevent hfields
    · dsimp only at h
      split at h
      · rename_i entry rest hlist
        cases h
        exact .documents entry rest hevent (getJson_array.1 hlist)
      · cases h
  · intro h
    cases h with
    | documents entry rest hevent hdocuments =>
      simp only [get?_isSome hdocuments, Bool.true_eq_false, if_false, if_neg hevent, getJson_array.2 hdocuments]
    | publicCopy fields hevent hdetails =>
      rw [if_pos hevent, hdetails]
      rfl

section Selected

variable {t : Records}

theorem Records.FilingInScope.selected {court filingId : Int} (h : t.FilingInScope (some court) filingId) :
    t.inFilings ⟨some court, none⟩ filingId = true := by
  obtain ⟨filing, hfiling, rfl, rfl⟩ := h court rfl
  exact List.any_eq_true.2 ⟨filing, hfiling, by simp⟩

theorem Records.CaseInScope.selected {court caseId : Int} (h : t.CaseInScope (some court) caseId) :
    t.inCases ⟨some court, none⟩ caseId = true := by
  obtain ⟨case, hcase, rfl, rfl⟩ := h court rfl
  exact List.any_eq_true.2 ⟨case, hcase, by simp⟩

theorem find?_of_nodup {α κ : Type} [BEq κ] [LawfulBEq κ] {key : α → κ} {rows : List α} {row : α}
    (hnodup : (rows.map key).Nodup) (hrow : row ∈ rows) : rows.find? (fun other => key other == key row) =
      some row := by
  cases hfound : rows.find? (fun other => key other == key row) with
  | none => exact absurd (beq_self_eq_true _) (List.find?_eq_none.1 hfound row hrow)
  | some other =>
    have hkey := List.find?_some hfound
    rw [beq_iff_eq] at hkey
    rw [List.inj_on_of_nodup_map hnodup (List.mem_of_find?_eq_some hfound) hrow hkey]

theorem Records.HasFile.selected {kind : FileKind} {row : FileRow} (h : t.HasFile courtId kind row) :
    row ∈ t.files courtId kind := by
  cases h with
  | document row hrow hscope =>
    refine List.mem_map_of_mem (List.mem_filter.2 ⟨hrow, ?_⟩)
    cases courtId with
    | none => rfl
    | some court => exact hscope.selected
  | publicCopy row hrow hscope =>
    refine List.mem_map_of_mem (List.mem_filter.2 ⟨hrow, ?_⟩)
    cases courtId with
    | none => rfl
    | some court =>
      obtain ⟨document, hdocument, hid, hfiling⟩ := hscope court rfl
      refine List.any_eq_true.2 ⟨document, hdocument, ?_⟩
      rw [hid, beq_self_eq_true, Bool.true_and]
      exact hfiling.selected

theorem Records.HasReceipt.selected {row : TransactionRow} (h : t.HasReceipt courtId row) :
    row ∈ t.receipts { courtId } := by
  refine List.mem_filter.2 ⟨h.stored, ?_⟩
  rw [Bool.and_eq_true, Bool.and_eq_true]
  refine ⟨⟨List.contains_iff_mem.2 h.event, ?_⟩, rfl⟩
  cases courtId with
  | none => rfl
  | some court => exact h.scope.selected

theorem Records.NoticeInScope.selected {court : Int} {row : RecipientRow} (h : t.NoticeInScope (some court) row) :
    (t.notice row.notificationId).any (fun notice => notice.filingEnvelopeId.any (t.inFilings ⟨some court, none⟩)) =
      true := by
  obtain ⟨notice, hnotice, hid, filingId, hfiling, hscope⟩ := h
  rw [Records.notice, ← hid, find?_of_nodup t.noticeIds hnotice, Option.any_some, hfiling, Option.any_some]
  exact hscope.selected

theorem Records.ContactInScope.selected {court : Int} {row : RecipientRow} (h : t.ContactInScope (some court) row) :
    (t.contact row.contactId).any (fun contact => t.inCases ⟨some court, none⟩ contact.caseId) = true := by
  obtain ⟨contact, hcontact, hid, hscope⟩ := h
  rw [Records.contact, ← hid, find?_of_nodup t.contactIds hcontact, Option.any_some]
  exact hscope.selected

theorem Records.ParticipantInScope.selected {court : Int} {row : RecipientRow}
    (h : t.ParticipantInScope (some court) row) :
    (t.contact row.contactId).any (fun contact => (contact.participantId.bind t.participant).any fun participant =>
      t.inCases ⟨some court, none⟩ participant.caseId) = true := by
  obtain ⟨contact, hcontact, hid, participant, hparticipant, hof, hscope⟩ := h
  rw [Records.contact, ← hid, find?_of_nodup t.contactIds hcontact, Option.any_some, hof, Option.bind_some,
    Records.participant, find?_of_nodup t.participantIds hparticipant, Option.any_some]
  exact hscope.selected

theorem Records.HasPacket.selected {packet : PacketRow} (h : t.HasPacket courtId packet) :
    packet ∈ t.scopedPackets { courtId } := by
  refine List.mem_filter.2 ⟨h.stored, ?_⟩
  cases courtId with
  | none => rfl
  | some court =>
    simp only [Bool.or_eq_true]
    rcases h.scope with hcase | hfiling | ⟨source, hsource, hid, hscope⟩ | ⟨row, hrow, hof, hscope⟩
    · exact .inl (.inl (.inl (.inr hcase.selected)))
    · exact .inl (.inl (.inr hfiling.selected))
    · refine .inl (.inr ?_)
      rw [Records.transaction, ← hid, find?_of_nodup t.transactionIds hsource, Option.any_some]
      exact hscope.selected
    · refine .inr (List.any_eq_true.2 ⟨row, hrow, ?_⟩)
      rw [hof, beq_self_eq_true, Bool.true_and, Bool.or_eq_true]
      rcases hscope with hnotice | hcontact | hparticipant
      · exact .inl hnotice.selected
      · obtain ⟨contact, hfound, hin⟩ := (Option.any_eq_true _ _).1 hcontact.selected
        exact .inr ((Option.any_eq_true _ _).2 ⟨contact, hfound, by rw [hin, Bool.true_or]⟩)
      · obtain ⟨contact, hfound, hin⟩ := (Option.any_eq_true _ _).1 hparticipant.selected
        exact .inr ((Option.any_eq_true _ _).2 ⟨contact, hfound, by rw [hin, Bool.or_true]⟩)

theorem Records.HasOrphan.selected {row : RecipientRow} (h : t.HasOrphan courtId row) :
    row ∈ t.orphans { courtId } := by
  have hnone : t.packets.any (·.id == row.packetId) = false :=
    List.any_eq_false.2 fun packet hp heq => h.alone packet hp (eq_of_beq heq)
  refine List.mem_filter.2 ⟨h.stored, ?_⟩
  rw [hnone, Bool.not_false, Bool.true_and]
  cases courtId with
  | none => rfl
  | some court =>
    simp only [Bool.or_eq_true]
    rcases h.scope with hcourt | hnotice | hcontact
    · cases hcourt
    · exact .inl (.inr hnotice.selected)
    · exact .inr hcontact.selected

end Selected

/-! ## What is reported -/

/-- The recipients that a packet's lines are followed by. -/
def Records.openTargets (t : Records) (recovery : Recovery) (packet : PacketRow) : List RecipientRow :=
  match t.finding recovery packet with
  | .closed _ _ => []
  | .opened _ _ => t.targetsOf packet.id

/-- What the lines of a transaction are about. -/
def TransactionRow.items (row : TransactionRow) : List AuditItem :=
  match row.manifest with
  | none => [.receipt row.id]
  | some manifest => (List.range manifest.length).map fun index => .entry row.kind row.id index

theorem readEntry_item {row : TransactionRow} {index : Nat} {entry : Json} {ref : Reference}
    (h : readEntry row index entry = some ref) : ref.item = .entry row.kind row.id index := by
  simp only [readEntry, Option.bind_eq_bind, Option.bind_eq_some_iff] at h
  obtain ⟨id, -, documentId, -, ⟨digest, size⟩, -, heq⟩ := h
  cases heq
  rfl

theorem Records.receiptLines_items (t : Records) (row : TransactionRow) :
    (t.receiptLines row).map AuditLine.item = row.items := by
  unfold receiptLines TransactionRow.items
  cases row.manifest with
  | none => rfl
  | some manifest =>
    have hitem : ∀ p, (t.entryLine row p).item = .entry row.kind row.id p.2 := by
      intro p
      unfold entryLine
      split
      · rfl
      · rename_i ref href
        exact readEntry_item href
    dsimp only
    rw [List.map_map, List.range_eq_range', ← List.zipIdx_map_snd, List.map_map]
    exact List.map_congr_left fun p _ => hitem p

theorem Records.packetLines_items (t : Records) (recovery : Recovery) (packet : PacketRow) :
    (t.packetLines recovery packet).map AuditLine.item =
      .packet packet.id :: (t.openTargets recovery packet).map fun row => .recipient row.id := by
  unfold packetLines openTargets
  cases t.finding recovery packet with
  | closed status reason => rfl
  | opened status reason =>
    dsimp only
    rw [List.map_cons, List.map_map]
    rfl

theorem Records.mem_targetsOf {t : Records} {packetId : String} {row : RecipientRow} (h : row ∈ t.targetsOf packetId) :
    row ∈ t.recipients ∧ row.packetId = packetId := by
  unfold targetsOf at h
  split at h
  · obtain ⟨hrow, heq⟩ := List.mem_filter.1 (inOrder_perm.mem_iff.1 h)
    exact ⟨hrow, eq_of_beq heq⟩
  · cases h

theorem Records.mem_openTargets {t : Records} {packet : PacketRow} {row : RecipientRow}
    (h : row ∈ t.openTargets recovery packet) : row ∈ t.recipients ∧ row.packetId = packet.id := by
  unfold openTargets at h
  split at h
  · cases h
  · exact mem_targetsOf h

theorem Records.openTargets_nodup (t : Records) (recovery : Recovery) (packet : PacketRow) :
    ((t.openTargets recovery packet).map RecipientRow.id).Nodup := by
  unfold openTargets
  split
  · exact List.nodup_nil
  · unfold targetsOf
    split
    · exact ((inOrder_perm.map _).nodup_iff).2 ((List.filter_sublist.map _).nodup t.recipientIds)
    · exact List.nodup_nil

def AuditItem.part : AuditItem → Nat
  | .file .document _ => 0
  | .file .publicCopy _ => 1
  | .receipt _ | .entry _ _ _ => 2
  | .packet _ | .recipient _ => 3

theorem nodup_append_of_part {as bs : List AuditItem} {n : Nat} (ha : as.Nodup) (hb : bs.Nodup)
    (hpart : ∀ a ∈ as, a.part < n) (hpart' : ∀ b ∈ bs, n ≤ b.part) : (as ++ bs).Nodup :=
  List.Nodup.append ha hb fun item h h' => absurd (hpart' item h') (Nat.not_le.2 (hpart item h))

theorem Records.fileLines_items (t : Records) (recovery : Recovery) (courtId : Option Int) (kind : FileKind) :
    (t.fileLines recovery courtId kind).map AuditLine.item =
      (inOrder FileRow.id (t.files courtId kind)).map fun row => .file kind row.id := by
  unfold fileLines
  rw [List.map_map]
  refine List.map_congr_left fun row _ => ?_
  rw [Function.comp_apply]
  unfold inspectFile
  split
  · rfl
  · dsimp only
    split <;> rfl

theorem Records.fileLines_nodup (t : Records) (recovery : Recovery) (courtId : Option Int) (kind : FileKind) :
    ((t.fileLines recovery courtId kind).map AuditLine.item).Nodup := by
  rw [t.fileLines_items, ← Function.comp_def (AuditItem.file kind) FileRow.id, ← List.map_map]
  refine List.Nodup.map (fun a b heq => by injection heq) ?_
  exact ((inOrder_perm.map _).nodup_iff).2 (t.files_nodup courtId kind)

theorem TransactionRow.items_nodup (row : TransactionRow) : row.items.Nodup := by
  unfold items
  split
  · exact List.nodup_singleton _
  · refine List.Nodup.map (fun a b heq => ?_) List.nodup_range
    injection heq

theorem TransactionRow.mem_items {row : TransactionRow} {item : AuditItem} (h : item ∈ row.items) :
    item = .receipt row.id ∨ ∃ index, item = .entry row.kind row.id index := by
  unfold items at h
  split at h
  · exact .inl (List.mem_singleton.1 h)
  · obtain ⟨index, -, rfl⟩ := List.mem_map.1 h
    exact .inr ⟨index, rfl⟩

theorem Records.receipts_items_nodup (t : Records) (scope : AuditScope) :
    ((inOrder TransactionRow.id (t.receipts scope)).flatMap TransactionRow.items).Nodup := by
  have hids : ((t.receipts scope).map TransactionRow.id).Nodup := (List.filter_sublist.map _).nodup t.transactionIds
  have hordered : ((inOrder TransactionRow.id (t.receipts scope)).map TransactionRow.id).Nodup :=
    ((inOrder_perm.map _).nodup_iff).2 hids
  rw [List.Nodup, List.pairwise_map] at hordered
  refine List.nodup_flatMap.2 ⟨fun row _ => row.items_nodup, hordered.imp fun {row row'} hne item h h' => hne ?_⟩
  rcases TransactionRow.mem_items h with rfl | ⟨index, rfl⟩ <;>
    rcases TransactionRow.mem_items h' with heq | ⟨index', heq⟩ <;> injection heq

theorem Records.serviceLines_items (t : Records) (recovery : Recovery) (scope : AuditScope) :
    (t.serviceLines recovery scope).map AuditLine.item =
      (inOrder PacketRow.id (t.scopedPackets scope)).flatMap (fun packet =>
        .packet packet.id :: (t.openTargets recovery packet).map fun row => .recipient row.id) ++
      (inOrder RecipientRow.id (t.orphans scope)).map fun row => .recipient row.id := by
  unfold serviceLines
  rw [List.map_append, List.map_flatMap, List.map_map]
  congr 1
  exact congrArg (List.flatMap · _) (funext fun packet => t.packetLines_items recovery packet)

theorem Records.row_unique (t : Records) {row row' : RecipientRow} (h : row ∈ t.recipients) (h' : row' ∈ t.recipients)
    (hid : row.id = row'.id) : row = row' := List.inj_on_of_nodup_map t.recipientIds h h' hid

theorem Records.serviceLines_nodup (t : Records) (recovery : Recovery) (scope : AuditScope) :
    ((t.serviceLines recovery scope).map AuditLine.item).Nodup := by
  have hrecipients : ∀ rows : List RecipientRow, (rows.map RecipientRow.id).Nodup →
      (rows.map fun row => AuditItem.recipient row.id).Nodup := by
    intro rows hrows
    rw [← Function.comp_def AuditItem.recipient RecipientRow.id, ← List.map_map]
    exact List.Nodup.map (fun a b heq => by injection heq) hrows
  have hpackets : ((inOrder PacketRow.id (t.scopedPackets scope)).map PacketRow.id).Nodup :=
    ((inOrder_perm.map _).nodup_iff).2 (t.scopedPackets_nodup scope)
  rw [List.Nodup, List.pairwise_map] at hpackets
  rw [t.serviceLines_items]
  refine List.Nodup.append (List.nodup_flatMap.2 ⟨fun packet _ => ?_, ?_⟩)
    (hrecipients _ (((inOrder_perm.map _).nodup_iff).2 (t.orphans_nodup scope))) ?_
  · refine List.nodup_cons.2 ⟨fun hmem => ?_, hrecipients _ (t.openTargets_nodup recovery packet)⟩
    obtain ⟨row, -, heq⟩ := List.mem_map.1 hmem
    cases heq
  · refine hpackets.imp fun {packet packet'} hne item h h' => hne ?_
    rcases List.mem_cons.1 h with rfl | h <;> rcases List.mem_cons.1 h' with heq | h'
    · injection heq
    · obtain ⟨row, -, heq⟩ := List.mem_map.1 h'
      cases heq
    · obtain ⟨row, -, rfl⟩ := List.mem_map.1 h
      cases heq
    · obtain ⟨row, hrow, rfl⟩ := List.mem_map.1 h
      obtain ⟨row', hrow', heq⟩ := List.mem_map.1 h'
      obtain ⟨hmem, hpacket⟩ := mem_openTargets hrow
      obtain ⟨hmem', hpacket'⟩ := mem_openTargets hrow'
      have hid : row'.id = row.id := by injection heq
      rw [← hpacket, ← hpacket', t.row_unique hmem' hmem hid]
  · intro item h h'
    obtain ⟨orphan, horphan, rfl⟩ := List.mem_map.1 h'
    obtain ⟨packet, hpacket, h⟩ := List.mem_flatMap.1 h
    rcases List.mem_cons.1 h with heq | h
    · cases heq
    · obtain ⟨row, hrow, heq⟩ := List.mem_map.1 h
      obtain ⟨hmem, hof⟩ := mem_openTargets hrow
      obtain ⟨hmem', hnone⟩ := List.mem_filter.1 (inOrder_perm.mem_iff.1 horphan)
      have hid : row.id = orphan.id := by injection heq
      rw [← t.row_unique hmem hmem' hid, hof] at hnone
      have hthere : t.packets.any (·.id == packet.id) = true := List.any_eq_true.2
        ⟨packet, List.mem_of_mem_filter (inOrder_perm.mem_iff.1 hpacket), beq_self_eq_true _⟩
      rw [hthere] at hnone
      simp at hnone

theorem Records.allLines_nodup (t : Records) (recovery : Recovery) (courtId : Option Int) :
    ((t.allLines recovery courtId).map AuditLine.item).Nodup := by
  have hfiles : ∀ kind, ∀ item ∈ (t.fileLines recovery courtId kind).map AuditLine.item,
      item.part = (AuditItem.file kind 0).part := by
    intro kind item h
    rw [t.fileLines_items] at h
    obtain ⟨row, -, rfl⟩ := List.mem_map.1 h
    cases kind <;> rfl
  have hreceipts : ∀ item ∈ (inOrder TransactionRow.id (t.receipts { courtId })).flatMap TransactionRow.items,
      item.part = 2 := by
    intro item h
    obtain ⟨row, -, h⟩ := List.mem_flatMap.1 h
    rcases TransactionRow.mem_items h with rfl | ⟨index, rfl⟩ <;> rfl
  have hservice : ∀ item ∈ (t.serviceLines recovery { courtId }).map AuditLine.item, item.part = 3 := by
    intro item h
    rw [t.serviceLines_items] at h
    rcases List.mem_append.1 h with h | h
    · obtain ⟨packet, -, h⟩ := List.mem_flatMap.1 h
      rcases List.mem_cons.1 h with rfl | h
      · rfl
      · obtain ⟨row, -, rfl⟩ := List.mem_map.1 h
        rfl
    · obtain ⟨row, -, rfl⟩ := List.mem_map.1 h
      rfl
  unfold allLines
  rw [List.map_append, List.map_append, List.map_append, List.map_flatMap,
    congrArg (List.flatMap · _) (funext t.receiptLines_items)]
  refine nodup_append_of_part (n := 3) (nodup_append_of_part (n := 2) (nodup_append_of_part (n := 1)
      (t.fileLines_nodup recovery courtId .document) (t.fileLines_nodup recovery courtId .publicCopy) ?_ ?_)
      (t.receipts_items_nodup _) ?_ ?_) (t.serviceLines_nodup recovery _) ?_ ?_
  · intro item h
    rw [hfiles .document item h]
    decide
  · intro item h
    rw [hfiles .publicCopy item h]
    decide
  · intro item h
    rcases List.mem_append.1 h with h | h <;> rw [hfiles _ item h] <;> decide
  · intro item h
    rw [hreceipts item h]
  · intro item h
    rcases List.mem_append.1 h with h | h
    · rcases List.mem_append.1 h with h | h <;> rw [hfiles _ item h] <;> decide
    · rw [hreceipts item h]
      decide
  · intro item h
    rw [hservice item h]

/-- Every row in scope is reported once, and a recipient is left out only where its packet is reported as faulty. -/
structure Enumerated (t : Records) (courtId : Option Int) (lines : List AuditLine) : Prop where
  once : (lines.map AuditLine.item).Nodup
  files : ∀ kind row, t.HasFile courtId kind row → .file kind row.id ∈ lines.map AuditLine.item
  entries : ∀ row, t.HasReceipt courtId row → ∀ entries, row.Lists entries → ∀ index, index < entries.length →
    .entry row.kind row.id index ∈ lines.map AuditLine.item
  receipts : ∀ row, t.HasReceipt courtId row → (∀ entries, ¬ row.Lists entries) →
    .receipt row.id ∈ lines.map AuditLine.item
  packets : ∀ packet, t.HasPacket courtId packet → .packet packet.id ∈ lines.map AuditLine.item
  recipients : ∀ packet, t.HasPacket courtId packet → ∀ row ∈ t.recipients, row.packetId = packet.id →
    .recipient row.id ∈ lines.map AuditLine.item ∨
      ∃ line ∈ lines, line.item = .packet packet.id ∧ line.status.passes = false
  orphans : ∀ row, t.HasOrphan courtId row → ∃ line ∈ lines, line.item = .recipient row.id ∧
    line.status = .missingMetadata

theorem inspectSelection_opened {packet : PacketRow} {source : TransactionRow} {count : Nat}
    {targets : List RecipientRow}
    {status : AuditStatus} {reason : Option String}
    (h : inspectSelection recovery packet source count targets = .opened status reason) : 1 ≤ count ∧ count ≤ 100 := by
  unfold inspectSelection at h
  split at h
  · cases h
  · split at h
    · cases h
    · split at h
      · cases h
      · rename_i hcount
        exact Decidable.not_not.1 hcount

theorem inspectSelection_closed {packet : PacketRow} {source : TransactionRow} {count : Nat}
    {targets : List RecipientRow}
    {status : AuditStatus} {reason : Option String}
    (h : inspectSelection recovery packet source count targets = .closed status reason) : status.passes = false := by
  unfold inspectSelection at h
  split at h
  · cases h
    rfl
  · split_ifs at h <;> cases h <;> rfl

theorem finding_opened {t : Records} {packet : PacketRow} {status : AuditStatus} {reason : Option String}
    (h : t.finding recovery packet = .opened status reason) :
    ∃ filing case source, t.filing packet.filingId = some filing ∧ t.case packet.caseId = some case ∧
      t.transaction packet.sourceTransactionId = some source ∧ t.users.contains packet.actorId = true ∧
      sourceMatches packet filing case source = true ∧ inspectSelection recovery packet source
        (t.recipientsOf packet.id).length (t.targetsOf packet.id) = .opened status reason := by
  unfold Records.finding packetFinding at h
  split at h
  · rename_i filing case source hfiling hcase hsource huser
    split at h
    · cases h
    · rename_i hmatch
      exact ⟨filing, case, source, hfiling, hcase, hsource, huser, by simpa using hmatch, h⟩
  · cases h

theorem finding_closed {t : Records} {packet : PacketRow} {status : AuditStatus} {reason : Option String}
    (h : t.finding recovery packet = .closed status reason) : status.passes = false := by
  unfold Records.finding packetFinding at h
  split at h
  · split at h
    · cases h
      rfl
    · exact inspectSelection_closed h
  · cases h
    rfl

theorem targetsOf_opened {t : Records} {packet : PacketRow} {status : AuditStatus} {reason : Option String}
    (h : t.finding recovery packet = .opened status reason) :
    t.targetsOf packet.id = inOrder RecipientRow.id (t.recipientsOf packet.id) := by
  obtain ⟨filing, case, source, -, -, -, -, -, hselection⟩ := finding_opened h
  exact if_pos (inspectSelection_opened hselection)

section Members

variable {t : Records} {lines : List AuditLine}

theorem mem_allLines_file {kind : FileKind} {row : FileRow} (h : row ∈ t.files courtId kind) :
    inspectFile recovery kind row ∈ t.allLines recovery courtId := by
  have hmem : inspectFile recovery kind row ∈ t.fileLines recovery courtId kind :=
    List.mem_map_of_mem (inOrder_perm.mem_iff.2 h)
  unfold Records.allLines
  simp only [List.mem_append]
  cases kind with
  | document => exact .inl (.inl (.inl hmem))
  | publicCopy => exact .inl (.inl (.inr hmem))

theorem mem_allLines_receipt {row : TransactionRow} {line : AuditLine} (h : row ∈ t.receipts { courtId })
    (hline : line ∈ t.receiptLines row) : line ∈ t.allLines recovery courtId := by
  unfold Records.allLines
  simp only [List.mem_append]
  exact .inl (.inr (List.mem_flatMap.2 ⟨row, inOrder_perm.mem_iff.2 h, hline⟩))

theorem mem_allLines_packet {packet : PacketRow} {line : AuditLine} (h : packet ∈ t.scopedPackets { courtId })
    (hline : line ∈ t.packetLines recovery packet) : line ∈ t.allLines recovery courtId := by
  unfold Records.allLines Records.serviceLines
  simp only [List.mem_append]
  exact .inr (.inl (List.mem_flatMap.2 ⟨packet, inOrder_perm.mem_iff.2 h, hline⟩))

theorem mem_allLines_orphan {row : RecipientRow} (h : row ∈ t.orphans { courtId }) :
    orphanLine row ∈ t.allLines recovery courtId := by
  unfold Records.allLines Records.serviceLines
  simp only [List.mem_append]
  exact .inr (.inr (List.mem_map_of_mem (inOrder_perm.mem_iff.2 h)))

theorem enumerated_of_perm (h : lines.Perm (t.allLines recovery courtId)) :
    Enumerated t courtId lines := by
  have hmem : ∀ {line}, line ∈ t.allLines recovery courtId → line ∈ lines := fun hline => h.mem_iff.2 hline
  have hitem : ∀ {line}, line ∈ t.allLines recovery courtId → line.item ∈ lines.map AuditLine.item :=
    fun hline => List.mem_map_of_mem (hmem hline)
  have hreceipt : ∀ row ∈ t.receipts { courtId }, ∀ item ∈ row.items, item ∈ lines.map AuditLine.item := by
    intro row hrow item hin
    rw [← t.receiptLines_items] at hin
    obtain ⟨line, hline, rfl⟩ := List.mem_map.1 hin
    exact hitem (mem_allLines_receipt hrow hline)
  have hpacket : ∀ packet ∈ t.scopedPackets { courtId }, ∀ item ∈ (t.packetLines recovery packet).map AuditLine.item,
      item ∈ lines.map AuditLine.item := by
    intro packet hp item hin
    obtain ⟨line, hline, rfl⟩ := List.mem_map.1 hin
    exact hitem (mem_allLines_packet hp hline)
  refine {
    once := (h.map _).nodup_iff.2 (t.allLines_nodup recovery courtId)
    files := fun kind row hrow => ?_
    entries := fun row hrow entries hlists index hindex => hreceipt row hrow.selected _ ?_
    receipts := fun row hrow hnone => hreceipt row hrow.selected _ ?_
    packets := fun packet hp => hpacket packet hp.selected _ ?_
    recipients := fun packet hp row hrow hof => ?_
    orphans := fun row hrow => ⟨_, hmem (mem_allLines_orphan hrow.selected), rfl, rfl⟩ }
  · have hline : (.file kind row.id : AuditItem) ∈ (t.fileLines recovery courtId kind).map AuditLine.item := by
      rw [t.fileLines_items]
      exact List.mem_map_of_mem (inOrder_perm.mem_iff.2 hrow.selected)
    obtain ⟨line, hline, heq⟩ := List.mem_map.1 hline
    obtain ⟨row', hrow', rfl⟩ := List.mem_map.1 hline
    rw [← heq]
    exact hitem (mem_allLines_file (inOrder_perm.mem_iff.1 hrow'))
  · unfold TransactionRow.items
    rw [TransactionRow.manifest_eq_some.2 hlists]
    exact List.mem_map_of_mem (List.mem_range.2 hindex)
  · unfold TransactionRow.items
    cases hmanifest : row.manifest with
    | none => exact List.mem_singleton_self _
    | some entries => exact absurd (TransactionRow.manifest_eq_some.1 hmanifest) (hnone entries)
  · rw [t.packetLines_items]
    exact List.mem_cons_self
  · cases hfinding : t.finding recovery packet with
    | closed status reason =>
      refine .inr ⟨packetLine packet status reason, hmem (mem_allLines_packet hp.selected ?_), rfl,
        finding_closed hfinding⟩
      unfold Records.packetLines
      rw [hfinding]
      exact List.mem_singleton_self _
    | opened status reason =>
      refine .inl (hpacket packet hp.selected _ ?_)
      rw [t.packetLines_items, Records.openTargets, hfinding]
      refine List.mem_cons_of_mem _ (List.mem_map_of_mem (f := fun row : RecipientRow => AuditItem.recipient row.id) ?_)
      dsimp only
      rw [targetsOf_opened hfinding, inOrder_perm.mem_iff]
      exact List.mem_filter.2 ⟨hrow, by rw [hof]; exact beq_self_eq_true _⟩

end Members

/-! ## What success means -/

/-- The stored file has the recorded hash and size. -/
def FileHeld (recovery : Recovery) (row : FileRow) : Prop :=
  ∃ content, recovery.storage row.fileKey = .ok content ∧ hexdigest content = row.sha256Hash ∧
    (content.length : Int) = row.fileSizeBytes

theorem inspectFile_passes {kind : FileKind} {row : FileRow} :
    (inspectFile recovery kind row).status.passes = true ↔ FileHeld recovery row := by
  constructor
  · intro h
    unfold inspectFile at h
    split at h
    · cases h
    · dsimp only at h
      split at h
      · cases h
      · cases h
      · cases h
      · rename_i content hcontent
        by_cases hsame : (storedIntegrity content).1 = row.sha256Hash ∧
            ((storedIntegrity content).2 : Int) = row.fileSizeBytes
        · exact ⟨content, hcontent, hsame.1, hsame.2⟩
        · rw [if_neg hsame] at h
          cases h
  · rintro ⟨content, hcontent, hsha, hsize⟩
    have hvalid : validFingerprint (.string row.sha256Hash) (.int row.fileSizeBytes) = true := by
      rw [validFingerprint, fingerprintOf, ← hsha, ← hsize, if_pos ⟨isHexdigest_hexdigest content,
        Int.natCast_nonneg _⟩]
      rfl
    unfold inspectFile
    rw [hvalid, hcontent]
    simp only [Bool.true_eq_false, if_false, storedIntegrity, hsha, hsize, and_self, if_true]
    rfl

/-- An entry has the hash and the size of this row. -/
structure EntryOf (entry : Json) (row : FileRow) : Prop where
  id : getJson entry "id" = .int row.id
  sha256 : getJson entry "sha256_hash" = .string row.sha256Hash
  size : getJson entry "file_size_bytes" = .int row.fileSizeBytes

/-- An entry of a manifest names a document of the filing, or a public copy of such a document. -/
inductive EntryHeld (t : Records) (row : TransactionRow) (entry : Json) : Prop where
  | document (document : DocumentRow) (hkind : row.kind = .document) (hmem : document ∈ t.documents)
      (hfiling : document.envelopeId = row.filingId) (hentry : EntryOf entry document.toFileRow)
  | publicCopy (document : DocumentRow) (copy : CopyRow) (hkind : row.kind = .publicCopy)
      (hmem : document ∈ t.documents)
      (hfiling : document.envelopeId = row.filingId) (hnamed : getJson entry "document_id" = .int document.id)
      (hcopy : copy ∈ t.copies) (hof : copy.documentId = document.id) (hentry : EntryOf entry copy.toFileRow)

theorem positiveId_eq {value : Json} {id : Int} (h : positiveId value = some id) : value = .int id := by
  unfold positiveId at h
  split at h
  · split at h
    · rw [Option.some.inj h]
    · cases h
  · cases h

theorem fingerprintOf_eq {digest size : Json} {p : String × Int} (h : fingerprintOf digest size = some p) :
    digest = .string p.1 ∧ size = .int p.2 := by
  unfold fingerprintOf at h
  split at h
  · split at h
    · cases h
      exact ⟨rfl, rfl⟩
    · cases h
  · cases h

theorem compareReference_passes {t : Records} {ref : Reference}
    (h : (compareReference t.documents t.copies ref).passes = true) : ∃ document ∈ t.documents,
      document.id = ref.documentId ∧ document.envelopeId = ref.filingId ∧
      (ref.copyId = none → document.sha256Hash = ref.expectedSha256 ∧ document.fileSizeBytes = ref.expectedSizeBytes) ∧
      ∀ copyId, ref.copyId = some copyId → ∃ copy ∈ t.copies, copy.id = copyId ∧ copy.documentId = ref.documentId ∧
        copy.sha256Hash = ref.expectedSha256 ∧ copy.fileSizeBytes = ref.expectedSizeBytes := by
  unfold compareReference at h
  dsimp only at h
  split at h
  · rename_i document stored linked hdocument hstored
    split at h
    · cases h
    · rename_i hsame
      simp only [not_or, Decidable.not_not, Bool.not_eq_false] at hsame
      obtain ⟨hfiling, hlinked, hsha, hsize⟩ := hsame
      have hid : document.id = ref.documentId := by simpa using List.find?_some hdocument
      refine ⟨document, List.mem_of_find?_eq_some hdocument, hid, hfiling, fun hnone => ?_, fun copyId hcopy => ?_⟩
      · rw [hnone, hdocument] at hstored
        cases hstored
        exact ⟨hsha, hsize⟩
      · rw [hcopy] at hstored
        obtain ⟨copy, hfound, heq⟩ := Option.map_eq_some_iff.1 hstored
        cases heq
        have hcopyId : copy.id = copyId := by simpa using List.find?_some hfound
        exact ⟨copy, List.mem_of_find?_eq_some hfound, hcopyId, eq_of_beq hlinked, hsha, hsize⟩
  · cases h

theorem entryLine_passes {t : Records} {row : TransactionRow} {p : Json × Nat}
    (h : (t.entryLine row p).status.passes = true) : EntryHeld t row p.1 := by
  unfold Records.entryLine at h
  split at h
  · cases h
  · rename_i ref hread
    obtain ⟨document, hmem, hid, hfiling, hplain, hcopies⟩ := compareReference_passes h
    simp only [readEntry, Option.bind_eq_bind, Option.bind_eq_some_iff] at hread
    obtain ⟨id, hentry, documentId, hnamed, fingerprint, hfingerprint, heq⟩ := hread
    cases heq
    have hentry := positiveId_eq hentry
    obtain ⟨hdigest, hlength⟩ := fingerprintOf_eq hfingerprint
    dsimp only at hid hfiling hplain hcopies
    cases hkind : row.kind with
    | document =>
      rw [hkind, documentNamed, Option.some.injEq] at hnamed
      obtain ⟨hsha, hsize⟩ := hplain (by rw [hkind]; rfl)
      refine .document document hkind hmem hfiling ⟨?_, ?_, ?_⟩
      · rw [hentry, hid, hnamed]
      · rw [hdigest, hsha]
      · rw [hlength, hsize]
    | publicCopy =>
      rw [hkind, documentNamed] at hnamed
      obtain ⟨copy, hcopy, hcopyId, hof, hsha, hsize⟩ := hcopies id (by rw [hkind]; rfl)
      refine .publicCopy document copy hkind hmem hfiling ?_ hcopy (hof.trans hid.symm) ⟨?_, ?_, ?_⟩
      · rw [positiveId_eq hnamed, hid]
      · rw [hentry, hcopyId]
      · rw [hdigest, hsha]
      · rw [hlength, hsize]

/-- The documents of a list, validated, under different numbers. -/
structure Validated (recovery : Recovery) (items : List Json) (documents : List (Int × DocumentDump)) : Prop where
  each : List.Forall₂ (fun item p => getJson item "id" = .int p.1 ∧ recovery.modelValidate item = some p.2)
    items documents
  distinct : (documents.map Prod.fst).Nodup

theorem addDocument_eq_some {documents documents' : List (Int × DocumentDump)} {item : Json}
    (h : addDocument recovery documents item = some documents') : ∃ p : Int × DocumentDump,
      documents' = documents ++ [p] ∧ p.1 ∉ documents.map Prod.fst ∧ getJson item "id" = .int p.1 ∧
      recovery.modelValidate item = some p.2 := by
  simp only [addDocument, Option.bind_eq_bind, Option.bind_eq_some_iff] at h
  obtain ⟨id, hid, h⟩ := h
  split at h
  · cases h
  · rename_i hnew
    obtain ⟨dump, hdump, heq⟩ := Option.bind_eq_some_iff.1 h
    cases heq
    refine ⟨(id, dump), rfl, fun hmem => hnew ?_, positiveId_eq hid, hdump⟩
    obtain ⟨p, hp, hpid⟩ := List.mem_map.1 hmem
    rw [Bool.or_eq_true]
    exact .inl (List.any_eq_true.2 ⟨p, hp, beq_iff_eq.2 hpid⟩)

theorem foldlM_addDocument {items : List Json} : ∀ {seen : List Json} {before after : List (Int × DocumentDump)},
    Validated recovery seen before → items.foldlM (addDocument recovery) before = some after →
    Validated recovery (seen ++ items) after := by
  induction items with
  | nil =>
    intro seen before after hbefore h
    cases h
    rwa [List.append_nil]
  | cons item items ih =>
    intro seen before after hbefore h
    rw [List.foldlM_cons] at h
    obtain ⟨next, hnext, h⟩ := Option.bind_eq_some_iff.1 h
    obtain ⟨p, rfl, hfresh, hitem⟩ := addDocument_eq_some hnext
    have hstep : Validated recovery (seen ++ [item]) (before ++ [p]) := by
      refine ⟨List.rel_append hbefore.each (.cons hitem .nil), ?_⟩
      rw [List.map_append, List.map_singleton]
      exact List.Nodup.append hbefore.distinct (List.nodup_singleton _) (by simpa using hfresh)
    have hrest := ih hstep h
    rwa [List.append_assoc] at hrest

theorem serviceManifest_eq_some {value : Json} {documents : List (Int × DocumentDump)}
    (h : serviceManifest recovery value = some documents) :
    ∃ items, value = .array items ∧ items ≠ [] ∧ Validated recovery items documents := by
  unfold serviceManifest at h
  split at h
  · rename_i item items
    have hnil : Validated recovery [] [] := ⟨.nil, List.nodup_nil⟩
    exact ⟨item :: items, rfl, List.cons_ne_nil _ _, foldlM_addDocument hnil h⟩
  · cases h

/-- A packet, its source and its recipients belong together. -/
structure PacketHeld (recovery : Recovery) (t : Records) (packet : PacketRow) (filing : FilingRow) (case : CaseRow)
    (source : TransactionRow) (documents original : List (Int × DocumentDump)) : Prop where
  filing_eq : filing ∈ t.filings ∧ filing.id = packet.filingId
  case_eq : case ∈ t.cases ∧ case.id = packet.caseId
  source_eq : source ∈ t.transactions ∧ source.id = packet.sourceTransactionId
  sender : packet.actorId ∈ t.users
  destination : filing.caseId = some packet.caseId ∧ filing.courtId = case.courtId
  receipt : source.filingId = packet.filingId ∧ (source.eventType = "submitted" ∨ source.eventType = "service_recorded")
  receiptCase : (getJson source.details "case_id").equal (.int packet.caseId) = true ∧
    (getJson source.details "court_id").equal (.int case.courtId) = true
  receiptType : ∃ text ∈ ["subsequent", "motion", "service_only"], getJson source.details "filing_type" = .string text
  documents_eq : ∃ items, packet.details.get? "documents" = some (.array items) ∧ items ≠ [] ∧
    Validated recovery items documents
  original_eq : ∃ items, source.details.get? "documents" = some (.array items) ∧ Validated recovery items original
  selected : ∀ p ∈ documents, p ∈ original ∧ p.2.documentTypeCode ∉ privateDocumentTypes
  fingerprint : selectionSha256 packet documents (inOrder RecipientRow.id (t.recipientsOf packet.id)) =
    packet.requestSha256
  count : 1 ≤ (t.recipientsOf packet.id).length ∧ (t.recipientsOf packet.id).length ≤ 100
  contacts : ((t.recipientsOf packet.id).map RecipientRow.contactId).Nodup
  accounts : ((t.recipientsOf packet.id).map RecipientRow.recipientId).Nodup

theorem mem_of_lookup {α : Type} {pairs : List (Int × α)} {p : Int × α} (h : pairs.lookup p.1 = some p.2) :
    p ∈ pairs := by
  obtain ⟨before, after, hsplit, -⟩ := List.lookup_eq_some_iff.1 h
  rw [hsplit]
  exact List.mem_append_right _ List.mem_cons_self

theorem inspectSelection_passes {packet : PacketRow} {source : TransactionRow} {count : Nat}
    {targets : List RecipientRow}
    {status : AuditStatus} {reason : Option String}
    (h : inspectSelection recovery packet source count targets = .opened status reason)
    (hpasses : status.passes = true) :
    ∃ documents original, serviceManifest recovery (getJson packet.details "documents") = some documents ∧
      serviceManifest recovery (getJson source.details "documents") = some original ∧
      (∀ p ∈ documents, original.lookup p.1 = some p.2 ∧ p.2.documentTypeCode ∉ privateDocumentTypes) ∧
      selectionSha256 packet documents targets = packet.requestSha256 ∧ (targets.map RecipientRow.contactId).Nodup ∧
      (targets.map RecipientRow.recipientId).Nodup := by
  unfold inspectSelection at h
  split at h
  · cases h
  · rename_i documents original hmanifests
    unfold packetManifests at hmanifests
    split at hmanifests
    · cases hmanifests
    · split at hmanifests
      · rename_i selected hselected
        split at hmanifests
        · cases hmanifests
        · simp only [Option.bind_eq_bind, Option.bind_eq_some_iff] at hmanifests
          obtain ⟨documents', hdocuments, original', horiginal, heq⟩ := hmanifests
          cases heq
          split at h
          · cases h
          · rename_i hchosen
            split at h
            · cases h
            · split at h
              · cases h
              · split at h
                · cases h
                  cases hpasses
                · rename_i hsame
                  simp only [not_or, Decidable.not_not, ne_eq] at hsame
                  refine ⟨documents, original, by rw [hselected]; exact hdocuments, horiginal, fun p hp => ?_, hsame⟩
                  have hp' : ¬ (privateDocumentTypes.contains p.2.documentTypeCode || original.lookup p.1 != some p.2) =
                    true :=
                    fun hbad => hchosen (List.any_eq_true.2 ⟨p, hp, hbad⟩)
                  simp only [Bool.or_eq_true, not_or, List.contains_iff_mem, bne_iff_ne, ne_eq,
                    Decidable.not_not] at hp'
                  exact ⟨hp'.2, hp'.1⟩
      · cases hmanifests

theorem finding_passes {t : Records} {packet : PacketRow} {status : AuditStatus} {reason : Option String}
    (h : t.finding recovery packet = .opened status reason) (hpasses : status.passes = true) :
    ∃ filing case source documents original, PacketHeld recovery t packet filing case source documents original := by
  have htargets := targetsOf_opened h
  obtain ⟨filing, case, source, hfiling, hcase, hsource, huser, hmatch, hselection⟩ := finding_opened h
  have hcount := inspectSelection_opened hselection
  obtain ⟨documents, original, hdocuments, horiginal, hselected, hsha, hcontacts, haccounts⟩ :=
    inspectSelection_passes hselection hpasses
  simp only [sourceMatches, Bool.and_eq_true, beq_iff_eq, List.contains_iff_mem, List.mem_cons,
    List.not_mem_nil, or_false, List.any_eq_true, Json.equal_string] at hmatch
  obtain ⟨⟨⟨⟨⟨⟨⟨hcaseId, hcourt⟩, hfilingId⟩, hevent⟩, -⟩, hreceiptCase⟩, hreceiptCourt⟩, text, htext, htype⟩ := hmatch
  rw [htargets] at hsha hcontacts haccounts
  obtain ⟨items, hitems, hnonempty, hvalid⟩ := serviceManifest_eq_some hdocuments
  obtain ⟨originals, horiginals, -, hvalid'⟩ := serviceManifest_eq_some horiginal
  exact ⟨filing, case, source, documents, original, {
    filing_eq := ⟨List.mem_of_find?_eq_some hfiling, by simpa using List.find?_some hfiling⟩
    case_eq := ⟨List.mem_of_find?_eq_some hcase, by simpa using List.find?_some hcase⟩
    source_eq := ⟨List.mem_of_find?_eq_some hsource, by simpa using List.find?_some hsource⟩
    sender := List.contains_iff_mem.1 huser
    destination := ⟨hcaseId, hcourt⟩
    receipt := ⟨hfilingId, hevent⟩
    receiptCase := ⟨hreceiptCase, hreceiptCourt⟩
    receiptType := ⟨text, by simpa using htext, htype⟩
    documents_eq := ⟨items, getJson_array.1 hitems, hnonempty, hvalid⟩
    original_eq := ⟨originals, getJson_array.1 horiginals, hvalid'⟩
    selected := fun p hp => ⟨mem_of_lookup (hselected p hp).1, (hselected p hp).2⟩
    fingerprint := hsha
    count := hcount
    contacts := (inOrder_perm.map _).nodup_iff.1 hcontacts
    accounts := (inOrder_perm.map _).nodup_iff.1 haccounts }⟩

/-- The snapshot is of the contact and of the participant that it was of, as the row names them, ready for delivery. -/
structure SnapshotHeld (target : RecipientRow) (contact : ContactRow) (participant : ParticipantRow) : Prop where
  contact_eq : getJson target.contactSnapshot "id" = .int target.contactId
  version : getJson target.contactSnapshot "version" = .int target.contactVersion ∧ 1 ≤ target.contactVersion ∧
    target.contactVersion ≤ contact.version
  account : getJson target.contactSnapshot "user_id" = .int target.recipientId ∧
    getJson (getJson target.contactSnapshot "participant_snapshot") "user_id" = .int target.recipientId
  participant_eq : getJson target.contactSnapshot "participant_id" = .int participant.id ∧
    getJson (getJson target.contactSnapshot "participant_snapshot") "id" = .int participant.id
  active : getJson target.contactSnapshot "is_active" = .bool true ∧
    getJson (getJson target.contactSnapshot "participant_snapshot") "is_active" = .bool true
  method : getJson target.contactSnapshot "method" = .string "electronic"
  email : ∃ email, getJson target.contactSnapshot "email" = .string email ∧ stripSpace email.toList ≠ []

theorem isTrue_eq {value : Json} (h : isTrue value = true) : value = .bool true := by
  cases value with
  | bool b =>
    cases b
    · cases h
    · rfl
  | _ => cases h

theorem isText_eq {value : Json} (h : isText value = true) : ∃ text, value = .string text ∧
    stripSpace text.toList ≠ [] := by
  cases value with
  | string text => exact ⟨text, rfl, bne_iff_ne.1 h⟩
  | _ => cases h

theorem snapshotMatches_eq {target : RecipientRow} {contact : ContactRow} {participant : ParticipantRow}
    (h : snapshotMatches target contact = true) (hparticipant : contact.participantId = some participant.id) :
    SnapshotHeld target contact participant := by
  unfold snapshotMatches at h
  dsimp only at h
  rw [Bool.and_eq_true] at h
  obtain ⟨-, h⟩ := h
  split at h
  · rename_i id version userId participantId participantRow participantUser hid hversion huser hof hrow hrowUser
    simp only [Bool.and_eq_true, beq_iff_eq, decide_eq_true_eq, Json.equal_string] at h
    obtain ⟨⟨⟨⟨⟨⟨⟨⟨⟨⟨⟨hid', hversion'⟩, hfirst⟩, hlast⟩, huser'⟩, hof'⟩, hrow'⟩, hrowUser'⟩, hactive⟩, hactive'⟩,
      hmethod⟩, hemail⟩ := h
    have hsame : participantId = participant.id := Option.some.inj (hof'.symm.trans hparticipant)
    subst hid' hversion' huser' hrow' hrowUser'
    exact ⟨hid, ⟨hversion, hfirst, hlast⟩, ⟨huser, hrowUser⟩, ⟨hsame ▸ hof, hsame ▸ hrow⟩,
      ⟨isTrue_eq hactive', isTrue_eq hactive⟩, hmethod, isText_eq hemail⟩
  · cases h

/-- A recipient, its notice and its contact belong together and to the packet. -/
structure RecipientHeld (t : Records) (packet : PacketRow) (target : RecipientRow) (notice : NoticeRow)
    (contact : ContactRow) (participant : ParticipantRow) : Prop where
  notice_eq : notice ∈ t.notices ∧ notice.id = target.notificationId
  contact_eq : contact ∈ t.contacts ∧ contact.id = target.contactId
  participant_eq : participant ∈ t.participants ∧ contact.participantId = some participant.id
  account : target.recipientId ∈ t.users
  snapshot : SnapshotHeld target contact participant
  current : contact.version = target.contactVersion → target.contactSnapshot.equal contact.snapshot = true
  case_eq : contact.caseId = packet.caseId ∧ participant.caseId = packet.caseId
  addressed : notice.recipientId = target.recipientId ∧ notice.filingEnvelopeId = some packet.filingId ∧
    notice.notificationType = .serviceOfProcess

theorem recipientStatus_passes {t : Records} {packet : PacketRow} {target : RecipientRow}
    (h : (recipientStatus t packet target).passes = true) :
    ∃ notice contact participant, RecipientHeld t packet target notice contact participant := by
  unfold recipientStatus at h
  dsimp only at h
  cases hcontact : t.contact target.contactId with
  | none =>
    cases hnotice : t.notice target.notificationId with
    | none =>
      rw [hnotice] at h
      cases h
    | some notice =>
      rw [hnotice, hcontact] at h
      cases h
  | some contact =>
    rw [hcontact, Option.bind_some] at h
    cases hnotice : t.notice target.notificationId with
    | none =>
      rw [hnotice] at h
      cases h
    | some notice =>
      cases hparticipant : contact.participantId.bind t.participant with
      | none =>
        rw [hnotice, hparticipant] at h
        cases h
      | some participant =>
        by_cases haccount : t.users.contains target.recipientId = true
        · rw [hnotice, hparticipant, haccount] at h
          dsimp only at h
          split_ifs at h with hsnapshot hcurrent hsame
          · cases h
          · cases h
          · cases h
          · simp only [not_or, Decidable.not_not, ne_eq] at hsame
            obtain ⟨hcase, hparticipantCase, hrecipient, hfiling, htype⟩ := hsame
            obtain ⟨participantId, hof, hparticipant⟩ := Option.bind_eq_some_iff.1 hparticipant
            have hid : participant.id = participantId := by simpa using List.find?_some hparticipant
            exact ⟨notice, contact, participant, {
              notice_eq := ⟨List.mem_of_find?_eq_some hnotice, by simpa using List.find?_some hnotice⟩
              contact_eq := ⟨List.mem_of_find?_eq_some hcontact, by simpa using List.find?_some hcontact⟩
              participant_eq := ⟨List.mem_of_find?_eq_some hparticipant, hof.trans (congrArg some hid.symm)⟩
              account := List.contains_iff_mem.1 haccount
              snapshot := snapshotMatches_eq (by simpa using hsnapshot) (hof.trans (congrArg some hid.symm))
              current := fun hversion => by simpa [hversion] using hcurrent
              case_eq := ⟨hcase, hparticipantCase⟩
              addressed := ⟨hrecipient, hfiling, htype⟩ }⟩
        · rw [hnotice, hparticipant, Bool.eq_false_iff.2 haccount] at h
          cases h

/-- What a report without failures vouches for. -/
structure Held (recovery : Recovery) (t : Records) (courtId : Option Int) : Prop where
  files : ∀ kind row, t.HasFile courtId kind row → FileHeld recovery row
  entries : ∀ row, t.HasReceipt courtId row → ∃ entries, row.Lists entries ∧ ∀ entry ∈ entries, EntryHeld t row entry
  packets : ∀ packet, t.HasPacket courtId packet → ∃ filing case source documents original,
    PacketHeld recovery t packet filing case source documents original
  recipients : ∀ packet, t.HasPacket courtId packet → ∀ row ∈ t.recipients, row.packetId = packet.id →
    ∃ notice contact participant, RecipientHeld t packet row notice contact participant
  orphans : ∀ row, ¬ t.HasOrphan courtId row

theorem held_of_passes {t : Records} (h : ∀ line ∈ t.allLines recovery courtId, line.status.passes = true) :
    Held recovery t courtId := by
  have hpacket : ∀ packet ∈ t.scopedPackets { courtId }, ∃ status reason,
      t.finding recovery packet = .opened status reason ∧ status.passes = true := by
    intro packet hp
    cases hfinding : t.finding recovery packet with
    | closed status reason =>
      have hline : packetLine packet status reason ∈ t.packetLines recovery packet := by
        unfold Records.packetLines
        rw [hfinding]
        exact List.mem_singleton_self _
      have hpasses : status.passes = true := h _ (mem_allLines_packet hp hline)
      rw [finding_closed hfinding] at hpasses
      cases hpasses
    | opened status reason =>
      have hline : packetLine packet status reason ∈ t.packetLines recovery packet := by
        unfold Records.packetLines
        rw [hfinding]
        exact List.mem_cons_self
      exact ⟨status, reason, rfl, h _ (mem_allLines_packet hp hline)⟩
  refine {
    files := fun kind row hrow => inspectFile_passes.1 (h _ (mem_allLines_file hrow.selected))
    entries := fun row hrow => ?_
    packets := fun packet hp => ?_
    recipients := fun packet hp row hrow hof => ?_
    orphans := fun row hrow => ?_ }
  · have hlines : ∀ line ∈ t.receiptLines row, line.status.passes = true :=
      fun line hline => h line (mem_allLines_receipt hrow.selected hline)
    unfold Records.receiptLines at hlines
    cases hmanifest : row.manifest with
    | none =>
      rw [hmanifest] at hlines
      cases hlines _ (List.mem_singleton_self _)
    | some manifest =>
      rw [hmanifest] at hlines
      refine ⟨manifest, TransactionRow.manifest_eq_some.1 hmanifest, fun entry hentry => ?_⟩
      obtain ⟨index, hindex⟩ := List.mem_iff_getElem?.1 hentry
      exact entryLine_passes (p := (entry, index))
        (hlines _ (List.mem_map_of_mem (List.mk_mem_zipIdx_iff_getElem?.2 hindex)))
  · obtain ⟨status, reason, hfinding, hpasses⟩ := hpacket packet hp.selected
    exact finding_passes hfinding hpasses
  · obtain ⟨status, reason, hfinding, -⟩ := hpacket packet hp.selected
    have hline : recipientLine t packet row ∈ t.packetLines recovery packet := by
      unfold Records.packetLines
      rw [hfinding]
      refine List.mem_cons_of_mem _ (List.mem_map_of_mem ?_)
      rw [targetsOf_opened hfinding, inOrder_perm.mem_iff]
      exact List.mem_filter.2 ⟨hrow, by rw [hof]; exact beq_self_eq_true _⟩
    exact recipientStatus_passes (h _ (mem_allLines_packet hp.selected hline))
  · cases h _ (mem_allLines_orphan hrow.selected)

/-! ## The law -/

/-- **The recovery audit is complete and sound.** Whatever the database refuses, no loop goes on for ever. A report that
says it is complete has every row once; one that says it is not has the exit code 2; one with the exit code 0 is
complete and vouches for every row. -/
theorem runAudit_sound (recovery : Recovery) (db : Database) (courtId : Option Int) {fuel : Nat}
    (hfuel : db.records.size < fuel) :
    runAudit fuel recovery db courtId ≠ .error .endless ∧
    ((∀ q, db.refuses db.records q = none) → ∃ report, runAudit fuel recovery db courtId = .ok report ∧
      (report.complete = true ↔ db.records.HasCourt courtId)) ∧
    ∀ report, runAudit fuel recovery db courtId = .ok report →
      (report.complete = true → Enumerated db.records courtId report.lines) ∧
      (report.complete = false → report.exitCode = 2) ∧
      (report.exitCode = 0 → report.complete = true ∧ Held recovery db.records courtId) := by
  have hlines := auditLines_gives recovery courtId hfuel
  unfold Gen.Gives at hlines
  unfold runAudit
  dsimp only
  cases hresult : (auditLines fuel recovery db courtId).result with
  | ok u =>
    rw [hresult] at hlines
    obtain ⟨hperm, hcourt⟩ := hlines
    refine ⟨fun h => (by cases h), fun _ => ⟨_, rfl, fun _ => hcourt, fun _ => rfl⟩, fun report h => ?_⟩
    cases h
    refine ⟨fun _ => enumerated_of_perm hperm, fun hfalse => (by cases hfalse), fun hexit => ⟨rfl, ?_⟩⟩
    refine held_of_passes fun line hline => ?_
    refine failures_eq_zero.1 ?_ line (hperm.mem_iff.2 hline)
    by_contra hfail
    simp only [reportOf, Option.isSome_none, Bool.false_eq_true, if_false, Nat.pos_iff_ne_zero, ne_eq, hfail,
      not_false_eq_true, if_true] at hexit
    cases hexit
  | error e =>
    rw [hresult] at hlines
    have hends : e ≠ .endless := by
      rintro rfl
      rcases hlines with ⟨q, hq⟩ | ⟨-, heq⟩
      · exact db.ends q hq
      · cases heq
    dsimp only
    refine ⟨?_, fun hall => ?_, fun report h => ?_⟩
    · split
      · exact fun h => (by cases h)
      · exact fun h => hends (by injection h)
    · rcases hlines with ⟨q, hq⟩ | ⟨hcourt, rfl⟩
      · rw [hall q] at hq
        cases hq
      · exact ⟨_, rfl, fun h => (by cases h), fun h => absurd h hcourt⟩
    · split at h
      · cases h
        exact ⟨fun h => (by cases h), fun _ => rfl, fun h => (by cases h)⟩
      · cases h

/-- **An audit of a collection without faults succeeds,** where the database answers. -/
theorem runAudit_passes (hfuel : db.records.size < fuel) (hanswers : ∀ q, db.refuses db.records q = none)
    (hcourt : db.records.HasCourt courtId)
    (hpasses : ∀ line ∈ db.records.allLines recovery courtId, line.status.passes = true) :
    ∃ report, runAudit fuel recovery db courtId = .ok report ∧ report.exitCode = 0 := by
  have hlines := auditLines_gives recovery courtId hfuel
  unfold Gen.Gives at hlines
  unfold runAudit
  dsimp only
  cases hresult : (auditLines fuel recovery db courtId).result with
  | ok u =>
    rw [hresult] at hlines
    have hzero := failures_eq_zero.2 fun line hline => hpasses line (hlines.1.mem_iff.1 hline)
    refine ⟨_, rfl, ?_⟩
    simp [reportOf, hzero]
  | error e =>
    rw [hresult] at hlines
    rcases hlines with ⟨q, hq⟩ | ⟨hnone, -⟩
    · rw [hanswers q] at hq
      cases hq
    · exact absurd hcourt hnone

theorem mem_allLines {t : Records} {line : AuditLine} (h : line ∈ t.allLines recovery courtId) :
    (∃ kind, ∃ row ∈ t.files courtId kind, line = inspectFile recovery kind row) ∨
    (∃ row ∈ t.receipts { courtId }, line ∈ t.receiptLines row) ∨
    (∃ packet ∈ t.scopedPackets { courtId }, line ∈ t.packetLines recovery packet) ∨
    ∃ row ∈ t.orphans { courtId }, line = orphanLine row := by
  have hfile : ∀ kind, line ∈ t.fileLines recovery courtId kind →
      ∃ kind, ∃ row ∈ t.files courtId kind, line = inspectFile recovery kind row := by
    intro kind hline
    obtain ⟨row, hrow, rfl⟩ := List.mem_map.1 hline
    exact ⟨kind, row, inOrder_perm.mem_iff.1 hrow, rfl⟩
  unfold Records.allLines Records.serviceLines at h
  simp only [List.mem_append] at h
  rcases h with ((h | h) | h) | h | h
  · exact .inl (hfile .document h)
  · exact .inl (hfile .publicCopy h)
  · obtain ⟨row, hrow, hline⟩ := List.mem_flatMap.1 h
    exact .inr (.inl ⟨row, inOrder_perm.mem_iff.1 hrow, hline⟩)
  · obtain ⟨packet, hpacket, hline⟩ := List.mem_flatMap.1 h
    exact .inr (.inr (.inl ⟨packet, inOrder_perm.mem_iff.1 hpacket, hline⟩))
  · obtain ⟨row, hrow, rfl⟩ := List.mem_map.1 h
    exact .inr (.inr (.inr ⟨row, inOrder_perm.mem_iff.1 hrow, rfl⟩))

/-! ## A small collection -/

def smallDigest : String := "ba7816bf8f01cfea414140de5dae2223b00361a396177a9cb410ff61f20015ad"

def smallEntry : Json := .object [
  ("id", .int 1), ("document_type_code", .string "MOTION"), ("title", .string "Motion"), ("file_size_bytes", .int 3),
  ("mime_type", .string "application/pdf"), ("page_count", .null), ("sha256_hash", .string smallDigest),
  ("is_confidential", .bool false), ("is_text_searchable", .bool true), ("uploaded_at", .string "2026-01-05T12:00:00Z")]

def smallContact : ContactRow where
  id := 5
  caseId := 7
  participantId := some 6
  participantSnapshot := .object [("id", .int 6), ("user_id", .int 2), ("is_active", .bool true)]
  userId := some 2
  name := "Bo"
  method := .electronic
  email := some "bo@example.org"
  address := none
  isActive := true
  authority := some "Appearance"
  version := 1

/-- One of two hundred and fifty-one documents of one file, one more than a page has. -/
def smallDocument (n : Nat) : DocumentRow where
  id := n + 1
  fileKey := "a"
  sha256Hash := smallDigest
  fileSizeBytes := 3
  envelopeId := 10

/-- One of twenty-six receipts, one more than a page has. -/
def smallReceipt (n : Nat) : TransactionRow where
  id := String.ofList ['t', Char.ofNat (97 + n)]
  filingId := 10
  eventType := "submitted"
  details := .object [("case_id", .int 7), ("court_id", .int 1), ("filing_type", .string "motion"),
    ("documents", .array [smallEntry])]

theorem smallDocument_inj {m n : Nat} (h : (smallDocument m).id = (smallDocument n).id) : m = n := by
  simp only [smallDocument] at h
  omega

/-- The documents, the receipts that name the first one, and a packet that sends it to one recipient. -/
def smallRecords : Records where
  courts := [1]
  users := [1, 2]
  filings := [{ id := 10, courtId := 1, caseId := some 7 }]
  cases := [{ id := 7, courtId := 1 }]
  documents := (List.range 251).map smallDocument
  copies := []
  transactions := (List.range 26).map smallReceipt
  packets := [{
    id := "p"
    caseId := 7
    filingId := 10
    sourceTransactionId := "ta"
    actorId := 1
    details := .object [("documents", .array [smallEntry])]
    requestSha256 := "36322c7a7569f263dd032fc6c5d8b89e94373dc629001536b75aa3536a07a741" }]
  recipients := [{
    id := "r"
    packetId := "p"
    recipientId := 2
    contactId := 5
    contactVersion := 1
    contactSnapshot := smallContact.snapshot
    notificationId := 9 }]
  notices := [{ id := 9, recipientId := 2, filingEnvelopeId := some 10, notificationType := .serviceOfProcess }]
  contacts := [smallContact]
  participants := [{ id := 6, caseId := 7 }]
  documentIds := by
    rw [List.map_map]
    exact List.nodup_range.map fun _ _ => smallDocument_inj
  copyIds := by decide
  transactionIds := by decide +kernel
  packetIds := by decide
  recipientIds := by decide
  noticeIds := by decide
  contactIds := by decide
  participantIds := by decide

def smallDatabase : Database := ⟨smallRecords, fun _ _ => none, fun _ h => (by cases h)⟩

/-- The fields of a document response that are there with their types. -/
def smallDump (item : Json) : Option DocumentDump :=
  match getJson item "id", getJson item "document_type_code", getJson item "title", getJson item "file_size_bytes",
      getJson item "mime_type", getJson item "sha256_hash", getJson item "is_confidential",
      getJson item "is_text_searchable", getJson item "uploaded_at" with
  | .int id, .string documentTypeCode, .string title, .int fileSizeBytes, .string mimeType, .string sha256Hash,
      .bool isConfidential, .bool isTextSearchable, .string uploadedAt =>
    some { id, documentTypeCode, title, fileSizeBytes, mimeType, pageCount := none, sha256Hash, isConfidential,
           isTextSearchable, uploadedAt }
  | _, _, _, _, _, _, _, _, _ => none

def smallRecovery : Recovery where
  storage key := if key = "a" then .ok [0x61, 0x62, 0x63] else .error .fileNotFound
  modelValidate := smallDump

theorem smallRecords_passes : ∀ line ∈ smallRecords.allLines smallRecovery (some 1), line.status.passes = true := by
  intro line hline
  rcases mem_allLines hline with ⟨kind, row, hrow, rfl⟩ | ⟨row, hrow, hline⟩ | ⟨packet, hpacket, hline⟩ | ⟨row, hrow, -⟩
  · cases kind with
    | document =>
      obtain ⟨document, hdocument, rfl⟩ := List.mem_map.1 hrow
      obtain ⟨n, -, rfl⟩ := List.mem_map.1 (List.mem_of_mem_filter hdocument)
      have hdigest : hexdigest [0x61, 0x62, 0x63] = smallDigest := by decide +kernel
      exact inspectFile_passes.2 ⟨[0x61, 0x62, 0x63], rfl, hdigest, rfl⟩
    | publicCopy =>
      have hnone : smallRecords.files (some 1) .publicCopy = [] := rfl
      rw [hnone] at hrow
      cases hrow
  · have hall : (smallRecords.receipts { courtId := some 1 }).all (fun row =>
        (smallRecords.receiptLines row).all fun line => line.status.passes) = true := by decide +kernel
    exact List.all_eq_true.1 (List.all_eq_true.1 hall row hrow) line hline
  · have hall : (smallRecords.scopedPackets { courtId := some 1 }).all (fun packet =>
        (smallRecords.packetLines smallRecovery packet).all fun line => line.status.passes) = true := by decide +kernel
    exact List.all_eq_true.1 (List.all_eq_true.1 hall packet hpacket) line hline
  · have hnone : smallRecords.orphans { courtId := some 1 } = [] := by decide +kernel
    rw [hnone] at hrow
    cases hrow

/-- The collection is in order, and its last document, the last receipt, the packet and its recipient are reported. -/
theorem runAudit_sound_small : ∃ report, runAudit 300 smallRecovery smallDatabase (some 1) = .ok report ∧
    Enumerated smallRecords (some 1) report.lines ∧ Held smallRecovery smallRecords (some 1) ∧
    .file .document 251 ∈ report.lines.map AuditLine.item ∧ .packet "p" ∈ report.lines.map AuditLine.item := by
  have hsize : smallDatabase.records.size < 300 := by decide +kernel
  obtain ⟨-, -, hsound⟩ := runAudit_sound smallRecovery smallDatabase (some 1) hsize
  obtain ⟨report, hreport, hexit⟩ := runAudit_passes hsize (fun _ => rfl)
    (fun id hid => by cases hid; exact ⟨List.mem_singleton_self _, by decide⟩) smallRecords_passes
  obtain ⟨hcomplete, -, hheld⟩ := hsound report hreport
  have henumerated := hcomplete (hheld hexit).1
  have hfiling : smallRecords.FilingInScope (some 1) 10 := fun court hcourt => by
    cases hcourt
    exact ⟨_, List.mem_singleton_self _, rfl, rfl⟩
  refine ⟨report, hreport, henumerated, (hheld hexit).2, ?_, ?_⟩
  · exact henumerated.files .document _ (.document (smallDocument 250) (List.mem_map_of_mem (by simp)) hfiling)
  · exact henumerated.packets _ ⟨List.mem_singleton_self _, .inr (.inl hfiling)⟩

end Muefs.StorageAudit
