import Muefs.Laws.Admission
import Muefs.Laws.Delivery
import Muefs.Laws.Publication
import Muefs.Listings.Pages

/-!
# The docket shows what can be downloaded

* `Run.case_court` : a filing is in its case's court;
* `Tables.docketEntry_outside` : what readers outside see of a document;
* `Tables.Downloadable` : the download that an entry of the docket designates; `Tables.Shows` : the pages of the docket
  show one entry of a document;
* `Run.docket_sound` : the law.
-/

namespace Muefs
open RowLocks Listings

variable {cfg : Settings} {f : FilingId} {file : FilingFile} {w₀ w w' : PortalWorld} {c : Columns} {t : Tables}
  {user : Option Viewer}

/-! ## Filings and their cases -/

/-- **A filing is in the court of its case.** -/
theorem Run.case_court (h : Run cfg w₀ w) : ∀ f file id, w.db (.envelope f) = some file →
    file.filing.caseId = some id → ∃ case, w.db (.case id) = some case ∧ case.row.courtId = file.filing.courtId := by
  obtain ⟨hstart, hsteps⟩ := h
  induction hsteps with
  | refl =>
    intro f file id hfile
    rw [hstart.envelope f] at hfile
    cases hfile
  | @tail w w' hsteps hs ih =>
    intro f file' id hfile' hid
    have h : Run cfg w₀ w := ⟨hstart, hsteps⟩
    have hold : ∀ filing : FilingEnvelope, (∃ case, w.db (.case id) = some case ∧ case.row.courtId = filing.courtId) →
        file'.filing.courtId = filing.courtId →
        ∃ case, w'.db (.case id) = some case ∧ case.row.courtId = file'.filing.courtId := by
      rintro filing ⟨case, hcase, hcourt⟩ hsame
      obtain ⟨case', hcase', hcourt', _⟩ := h.case_kept hs hcase
      exact ⟨case', hcase', (hcourt'.trans hcourt).trans hsame.symm⟩
    cases h.envelope_change hs f with
    | same heq => exact hold file'.filing (ih f file' id (heq ▸ hfile') hid) rfl
    | created sid s a userId data key file₁ hc hw' hfile₁ hnew =>
      cases hfile'.symm.trans hfile₁
      obtain ⟨case, _, hcase, _, _, _, hcourt, _⟩ := hnew.admitted.case id hid
      exact hold file'.filing ⟨case, hcase, hcourt⟩ rfl
    | step sid s a file file₁ hc hw' hfile hfile₁ hstep =>
      cases hfile'.symm.trans hfile₁
      have hfixed := hstep.grows.fixed
      by_cases hinit : file'.filing.filingType = .initial
      · obtain ⟨case, hopened⟩ := (h.tail hs).opened f file' id hfile' hinit hid
        exact ⟨case, hopened.stored, hopened.court⟩
      · have hsame : file'.filing.caseId = file.filing.caseId := by
          cases hstep.status with
          | same hsame => exact hsame.caseId
          | submitted _ _ hcase => exact hcase
          | cmsFailed _ _ _ _ _ _ hcase => exact hcase
          | decided userId count action t hr hin hcount hcount' hstatus hevent hactor hnumber hdecisions hcase =>
            rcases hcase with ⟨hsame, _⟩ | ⟨_, hnone, _⟩
            · exact hsame
            · have hother := (h.statusSound f file hfile).other fun heq => hinit (hfixed.filingType.trans heq)
              rw [hnone] at hother
              cases hother
        exact hold file.filing (ih f file id hfile (hsame ▸ hid)) hfixed.courtId

/-! ## Entries -/

/-- The user is neither the filer nor staff of the filing's court. -/
structure Outside (user : Option Viewer) (filing : FilingEnvelope) : Prop where
  filer : isFilerOf user filing = false
  staff : isCourtStaffFor user filing.courtId = false

theorem Run.docketEntry_outside (h : Run cfg w₀ w) (hfile : w.db (.envelope f) = some file) {doc : FilingDocument}
    (hdoc : doc ∈ file.documents) (hprivate : privateDocumentTypes.contains doc.documentTypeCode = false)
    {entry : CaseDocumentResponse} : (c.tables w).docketEntry false doc = some entry ↔
      (∃ copy, doc.publicCopyId = some copy.id ∧ (c.tables w).copy copy.id = some copy ∧ copy.documentId = doc.id ∧
        entry = doc.asCopy copy) ∨
      (doc.publicCopyId = none ∧ doc.isConfidential = false ∧ entry = doc.original) := by
  unfold Tables.docketEntry
  rw [if_neg Bool.false_ne_true, hprivate, if_neg Bool.false_ne_true]
  cases hpointer : doc.publicCopyId with
  | none =>
    cases hconfidential : doc.isConfidential <;> simp [eq_comm]
  | some copyId =>
    obtain ⟨copy, hid, hcurrent⟩ := h.current_copy hfile hdoc hpointer
    subst hid
    have hcopy : (c.tables w).copy copy.id = some copy := h.copy_found.2 ⟨f, file, hfile, hcurrent.mem, rfl⟩
    rw [Option.bind_some, hcopy, Option.filter_some_pos (by rw [hcurrent.document]; exact beq_self_eq_true _)]
    constructor
    · intro heq
      exact .inl ⟨copy, rfl, hcopy, hcurrent.document, (Option.some.inj heq).symm⟩
    · rintro (⟨copy', hid, hcopy', -, rfl⟩ | ⟨hnone, -⟩)
      · rw [← Option.some.inj hid] at hcopy'
        rw [Option.some.inj (hcopy.symm.trans hcopy')]
      · cases hnone

/-! ## Who reads what -/

theorem Tables.optionalUser_active {userId : Option UserId} {v : Viewer} (h : t.optionalUser userId = some v) :
    v.account.user.isActive = true := by
  obtain ⟨id, -, hviewer⟩ := Option.bind_eq_some_iff.1 h
  obtain ⟨account, haccount, rfl⟩ := Option.map_eq_some_iff.1 hviewer
  exact (Option.filter_eq_some_iff.1 haccount).2

theorem caseVisibilityFilter_unsealed {case : CaseFile} (hactive : ∀ v, user = some v → v.account.user.isActive = true)
    (hsealed : case.row.isSealed = false) : caseVisibilityFilter user case = true := by
  cases user with
  | none => simp [caseVisibilityFilter, hsealed]
  | some v => simp [caseVisibilityFilter, userMayReadCase, hsealed, hactive v rfl]

theorem Tables.userMayReadCase_eq {caseId : CaseId} {case : CaseFile} (hcase : t.db (.case caseId) = some case) :
    t.userMayReadCase user caseId = caseVisibilityFilter user case := by
  unfold userMayReadCase
  rw [hcase]
  rfl

theorem Tables.userMayReadDocument_inside {filing : FilingEnvelope} (doc : FilingDocument)
    (h : isFilerOf user filing = true ∨ isCourtStaffFor user filing.courtId = true) :
    t.userMayReadDocument user filing doc = true := by
  unfold userMayReadDocument userMayReadFilingEnvelope
  rcases h with h | h
  · simp [h]
  · by_cases hfiler : isFilerOf user filing = true <;> simp [h, hfiler]

theorem Tables.userMayReadDocument_outside {filing : FilingEnvelope} {doc : FilingDocument} {caseId : CaseId}
    {case : CaseFile} (hout : Outside user filing) (hcaseId : filing.caseId = some caseId)
    (hcase : t.db (.case caseId) = some case) : t.userMayReadDocument user filing doc = true ↔
      doc.isConfidential = false ∧ privateDocumentTypes.contains doc.documentTypeCode = false ∧ doc.removedAt = none ∧
      filing.status = .accepted ∧ (case.row.isSealed = false ∨ caseVisibilityFilter user case = true) := by
  have hsealed : case.row.isSealed = true →
      (t.userMayReadSealedCase user caseId = true ↔ caseVisibilityFilter user case = true) := by
    intro hsealed
    unfold userMayReadSealedCase
    rw [hcase]
    cases user with
    | none => simp [caseVisibilityFilter, hsealed]
    | some v => simp [hsealed]
  unfold userMayReadDocument userMayReadFilingEnvelope
  rw [hout.filer, hout.staff, hcaseId]
  dsimp only
  rw [hcase]
  dsimp only
  cases hconfidential : doc.isConfidential with
  | true => simp
  | false =>
    cases hprivate : privateDocumentTypes.contains doc.documentTypeCode with
    | true => simp
    | false =>
      cases hremoved : doc.removedAt with
      | some time => simp
      | none =>
        by_cases hstatus : filing.status = .accepted
        · cases hseal : case.row.isSealed with
          | true => simp [hstatus, publicDocketFilingStatuses, hsealed hseal]
          | false => simp [hstatus, publicDocketFilingStatuses]
        · simp [hstatus, publicDocketFilingStatuses]

theorem Tables.mayReadPublicCopy_outside {copy : DocumentPublicCopy} {doc : FilingDocument} {caseId : CaseId}
    {case : CaseFile} (hdoc : t.document copy.documentId = some (file, doc)) (hout : Outside user file.filing)
    (hcaseId : file.filing.caseId = some caseId) (hcase : t.db (.case caseId) = some case) :
    t.mayReadPublicCopy user copy = true ↔ doc.publicCopyId = some copy.id ∧ publicationBlock doc file.filing = none ∧
      caseVisibilityFilter user case = true := by
  unfold mayReadPublicCopy
  rw [hdoc]
  dsimp only
  rw [hout.staff, hout.filer, hcaseId]
  dsimp only
  rw [if_neg Bool.false_ne_true, if_neg Bool.false_ne_true, t.userMayReadCase_eq hcase]
  by_cases hpointer : doc.publicCopyId = some copy.id
  · by_cases hblock : publicationBlock doc file.filing = none
    · rw [if_neg (by simp [hpointer, hblock])]
      simp [hpointer, hblock]
    · rw [if_pos (.inr hblock)]
      simp [hblock]
  · rw [if_pos (.inl hpointer)]
    simp [hpointer]

/-! ## The docket -/

theorem Tables.visibleCase_eq_ok {caseId : CaseId} {refusal : String} {case : CaseFile} :
    t.visibleCase user caseId refusal = .ok case ↔
      t.db (.case caseId) = some case ∧ caseVisibilityFilter user case = true := by
  unfold visibleCase
  cases hcase : t.db (.case caseId) with
  | none => simp
  | some case' =>
    dsimp only
    rw [t.userMayReadCase_eq hcase]
    by_cases hmay : caseVisibilityFilter user case' = true
    · rw [if_pos hmay]
      simp only [Except.ok.injEq, Option.some.injEq]
      constructor
      · rintro rfl
        exact ⟨rfl, hmay⟩
      · exact fun h => h.1
    · rw [if_neg hmay]
      simp only [Option.some.injEq, reduceCtorEq, false_iff, not_and]
      rintro rfl
      exact hmay

theorem Tables.getCaseFilings_eq_ok {caseId : CaseId} {page pageSize : Nat} {entries : List CaseFilingResponse} :
    t.getCaseFilings user caseId page pageSize = .ok entries ↔ ∃ case, t.db (.case caseId) = some case ∧
      caseVisibilityFilter user case = true ∧ entries = (Listings.page pageSize (t.docket user caseId) (page - 1)).map
        (t.filingEntry user (isCourtStaffFor user case.row.courtId)) := by
  unfold getCaseFilings
  constructor
  · intro h
    obtain ⟨case, hcase, hentries⟩ := except_bind_ok.1 h
    obtain ⟨hdb, hvisible⟩ := visibleCase_eq_ok.1 hcase
    exact ⟨case, hdb, hvisible, (Except.ok.inj hentries).symm⟩
  · rintro ⟨case, hdb, hvisible, rfl⟩
    exact except_bind_ok.2 ⟨case, visibleCase_eq_ok.2 ⟨hdb, hvisible⟩, rfl⟩

theorem descending_perm {α : Type} (key : α → Instant) (id : α → Nat) (rows : List α) :
    (descending key id rows).Perm rows :=
  List.mergeSort_perm _ _

theorem Tables.mem_docket {caseId : CaseId} : file ∈ t.docket user caseId ↔ file ∈ t.filings ∧
    file.filing.caseId = some caseId ∧ (file.filing.status = .accepted ∨ isFilerOf user file.filing = true ∨
      isCourtStaffFor user file.filing.courtId = true) := by
  unfold docket
  rw [(descending_perm _ _ _).mem_iff, List.mem_filter]
  simp [publicDocketFilingStatuses, or_assoc]

theorem Tables.docketEntry_id {inside : Bool} {doc : FilingDocument} {entry : CaseDocumentResponse}
    (h : t.docketEntry inside doc = some entry) : entry.id = doc.id := by
  unfold docketEntry at h
  split at h
  · rw [← Option.some.inj h]
    rfl
  · split at h
    · cases h
    · split at h
      · rw [← Option.some.inj h]
        rfl
      · split at h
        · cases h
        · rw [← Option.some.inj h]
          rfl

/-- The documents in the entries of a docket, to readers of these files. -/
def Tables.entryDocuments (t : Tables) (user : Option Viewer) (staff : Bool) (file : FilingFile) :
    List CaseDocumentResponse := (t.filingEntry user staff file).documents

theorem Tables.mem_entryDocuments {staff : Bool} {entry : CaseDocumentResponse} :
    entry ∈ t.entryDocuments user staff file ↔ ∃ doc ∈ file.documents, doc.removedAt = none ∧
      doc.documentTypeCode ≠ "FEE_WAIVER_ORDER" ∧
      t.docketEntry (staff || isFilerOf user file.filing) doc = some entry := by
  unfold entryDocuments filingEntry FilingFile.docketDocuments
  simp only [List.mem_filterMap, List.mem_filter, Bool.and_eq_true, Option.isNone_iff_eq_none, bne_iff_ne, ne_eq,
    and_assoc]

theorem Run.filings_nodup (h : Run cfg w₀ w) : (c.tables w).filings.Nodup := by
  refine List.Nodup.filterMap ?_ List.nodup_range
  intro f f' file hfile hfile'
  exact (h.wellFormed f file hfile).id_eq.symm.trans (h.wellFormed f' file hfile').id_eq

theorem Run.docket_nodup (h : Run cfg w₀ w) (user : Option Viewer) (staff : Bool) (caseId : CaseId) :
    ((((c.tables w).docket user caseId).flatMap ((c.tables w).entryDocuments user staff)).map
      (·.id)).Nodup := by
  have hids : ∀ file, (((c.tables w).entryDocuments user staff file).map (·.id)).Sublist
      (file.documents.map FilingDocument.id) := by
    intro file
    have hgives : ∀ docs : List FilingDocument, ((docs.filterMap ((c.tables w).docketEntry
        (staff || isFilerOf user file.filing))).map (·.id)).Sublist (docs.map FilingDocument.id) := by
      intro docs
      induction docs with
      | nil => exact .slnil
      | cons doc docs ih =>
        rw [List.filterMap_cons]
        cases hentry : (c.tables w).docketEntry (staff || isFilerOf user file.filing) doc with
        | none => exact ih.trans (List.sublist_cons_self _ _)
        | some entry =>
          rw [List.map_cons, List.map_cons, Tables.docketEntry_id hentry]
          exact ih.cons_cons _
    exact (hgives _).trans (List.filter_sublist.map _)
  rw [List.map_flatMap]
  refine List.nodup_flatMap.2 ⟨fun file hfile => ?_, ?_⟩
  · obtain ⟨f, hdb⟩ := h.mem_filings.1 (Tables.mem_docket.1 hfile).1
    exact (hids file).nodup (h.wellFormed f file hdb).documents
  · have hnodup : ((c.tables w).docket user caseId).Nodup :=
      (descending_perm _ _ _).nodup_iff.2 (h.filings_nodup.filter _)
    refine hnodup.pairwise_of_forall_ne fun file hfile file' hfile' hne => ?_
    obtain ⟨f, hdb⟩ := h.mem_filings.1 (Tables.mem_docket.1 hfile).1
    obtain ⟨f', hdb'⟩ := h.mem_filings.1 (Tables.mem_docket.1 hfile').1
    intro id hid hid'
    obtain ⟨d, hd, rfl⟩ := List.mem_map.1 ((hids file).subset hid)
    obtain ⟨d', hd', heq⟩ := List.mem_map.1 ((hids file').subset hid')
    obtain rfl := h.numbersApart.documents f d f' d' ⟨file, hdb, hd⟩ ⟨file', hdb', hd'⟩ heq.symm
    exact hne (Option.some.inj (hdb.symm.trans hdb'))

/-! ## The law -/

/-- The download that an entry designates, of the public copy or of the original, is allowed; and the entry describes
just that file. -/
def Tables.Downloadable (t : Tables) (user : Option Viewer) (entry : CaseDocumentResponse) : Prop :=
  ∃ file doc, t.document entry.id = some (file, doc) ∧
    match entry.copyId with
    | some copyId => ∃ copy, t.readPublicCopy user copyId = .ok copy ∧ copy.documentId = doc.id ∧
        entry = doc.asCopy copy
    | none => t.readDocument user entry.id = .ok doc ∧ entry = doc.original

def Tables.shownDocuments (t : Tables) (user : Option Viewer) (caseId : CaseId) (page pageSize : Nat) :
    List CaseDocumentResponse :=
  match t.getCaseFilings user caseId page pageSize with
  | .ok entries => entries.flatMap CaseFilingResponse.documents
  | .error _ => []

/-- One page of the docket shows the document, once and by this entry; the other pages do not show it. -/
def Tables.Shows (t : Tables) (user : Option Viewer) (caseId : CaseId) (pageSize : Nat) (entry : CaseDocumentResponse) :
    Prop :=
  ∃ page, 1 ≤ page ∧
    ((t.shownDocuments user caseId page pageSize).filter fun d => decide (d.id = entry.id)) = [entry] ∧
    ∀ page', 1 ≤ page' → page' ≠ page →
      ((t.shownDocuments user caseId page' pageSize).filter fun d => decide (d.id = entry.id)) = []

theorem Run.shows (h : Run cfg w₀ w) {caseId : CaseId} {case : CaseFile} (hcase : w.db (.case caseId) = some case)
    (hvisible : caseVisibilityFilter user case = true) (hfile : file ∈ (c.tables w).docket user caseId)
    {entry : CaseDocumentResponse}
    (hentry : entry ∈ (c.tables w).entryDocuments user (isCourtStaffFor user case.row.courtId) file) {pageSize : Nat}
    (hsize : 1 ≤ pageSize) : (c.tables w).Shows user caseId pageSize entry := by
  have hpages : ∀ page, (c.tables w).shownDocuments user caseId page pageSize =
      (Listings.page pageSize ((c.tables w).docket user caseId) (page - 1)).flatMap
        ((c.tables w).entryDocuments user (isCourtStaffFor user case.row.courtId)) := by
    intro page
    unfold Tables.shownDocuments
    rw [Tables.getCaseFilings_eq_ok.2 ⟨case, hcase, hvisible, rfl⟩]
    dsimp only
    rw [List.flatMap_map]
    rfl
  obtain ⟨n, hon, hoff⟩ := exists_page_unique
    (h.docket_nodup user (isCourtStaffFor user case.row.courtId) caseId) hsize hfile hentry
  refine ⟨n + 1, Nat.le_add_left 1 n, ?_, fun page hpage hne => ?_⟩
  · rw [hpages]
    exact hon
  · rw [hpages]
    exact hoff (page - 1) (by omega)

theorem Run.downloadable (h : Run cfg w₀ w) {caseId : CaseId} {page pageSize : Nat} {entries : List CaseFilingResponse}
    (hentries : (c.tables w).getCaseFilings user caseId page pageSize = .ok entries) {e : CaseFilingResponse}
    (he : e ∈ entries) {d : CaseDocumentResponse} (hd : d ∈ e.documents) : (c.tables w).Downloadable user d := by
  obtain ⟨case, hcase, hvisible, rfl⟩ := Tables.getCaseFilings_eq_ok.1 hentries
  obtain ⟨file, hpage, rfl⟩ := List.mem_map.1 he
  obtain ⟨hmem, hcaseId, hstatus⟩ := Tables.mem_docket.1 ((page_sublist _ _ _).subset hpage)
  obtain ⟨f, hfile⟩ := h.mem_filings.1 hmem
  obtain ⟨case', hcase', hcourt⟩ := h.case_court f file caseId hfile hcaseId
  cases hcase.symm.trans hcase'
  obtain ⟨doc, hdoc, hcurrent, -, hentry⟩ := Tables.mem_entryDocuments.1 hd
  rw [hcourt] at hentry
  have hid := Tables.docketEntry_id hentry
  have hfound : (c.tables w).document d.id = some (file, doc) := h.document_found.2 ⟨f, hfile, hdoc, hid.symm⟩
  refine ⟨file, doc, hfound, ?_⟩
  by_cases hinside : (isCourtStaffFor user file.filing.courtId || isFilerOf user file.filing) = true
  · rw [hinside] at hentry
    obtain rfl : doc.original = d := Option.some.inj hentry
    refine ⟨?_, rfl⟩
    unfold Tables.readDocument
    rw [hfound]
    exact if_pos (Tables.userMayReadDocument_inside doc (Bool.or_eq_true_iff.1 hinside).symm)
  · rw [Bool.not_eq_true] at hinside
    obtain ⟨hstaff, hfiler⟩ := Bool.or_eq_false_iff.1 hinside
    have hout : Outside user file.filing := ⟨hfiler, hstaff⟩
    have haccepted : file.filing.status = .accepted := by
      rcases hstatus with hstatus | hfiler' | hstaff'
      · exact hstatus
      · rw [hfiler] at hfiler'
        cases hfiler'
      · rw [hstaff] at hstaff'
        cases hstaff'
    rw [hinside] at hentry
    have hprivate : privateDocumentTypes.contains doc.documentTypeCode = false := by
      by_contra hprivate
      rw [Bool.not_eq_false] at hprivate
      unfold Tables.docketEntry at hentry
      rw [if_neg Bool.false_ne_true, if_pos hprivate] at hentry
      cases hentry
    rcases (h.docketEntry_outside hfile hdoc hprivate).1 hentry with
      ⟨copy, hpointer, hcopy, hcopydoc, rfl⟩ | ⟨-, hpublic, rfl⟩
    · refine ⟨copy, ?_, hcopydoc, rfl⟩
      unfold Tables.readPublicCopy
      rw [hcopy]
      have hdocument : (c.tables w).document copy.documentId = some (file, doc) := hcopydoc ▸ hfound
      refine if_pos ((Tables.mayReadPublicCopy_outside hdocument hout hcaseId hcase).2 ⟨hpointer, ?_, hvisible⟩)
      unfold publicationBlock
      simp only [hprivate, Bool.false_eq_true, if_false, hcurrent, haccepted, hcaseId]
      rfl
    · refine ⟨?_, rfl⟩
      unfold Tables.readDocument
      rw [hfound]
      exact if_pos ((Tables.userMayReadDocument_outside hout hcaseId hcase).2
        ⟨hpublic, hprivate, hcurrent, haccepted, .inr hvisible⟩)

theorem Run.original_shown (h : Run cfg w₀ w) (hactive : ∀ v, user = some v → v.account.user.isActive = true)
    {doc : FilingDocument} {caseId : CaseId} (hfound : (c.tables w).document doc.id = some (file, doc))
    (hcaseId : file.filing.caseId = some caseId) (hout : Outside user file.filing)
    (hread : (c.tables w).readDocument user doc.id = .ok doc) {pageSize : Nat} (hsize : 1 ≤ pageSize) :
    (c.tables w).Shows user caseId pageSize doc.original := by
  obtain ⟨f, hfile, hdoc, -⟩ := h.document_found.1 hfound
  obtain ⟨case, hcase, hcourt⟩ := h.case_court f file caseId hfile hcaseId
  have hmay : (c.tables w).userMayReadDocument user file.filing doc = true := by
    unfold Tables.readDocument at hread
    rw [hfound] at hread
    dsimp only at hread
    split at hread
    · assumption
    · cases hread
  obtain ⟨hpublic, hprivate, hcurrent, haccepted, hopen⟩ :=
    (Tables.userMayReadDocument_outside hout hcaseId hcase).1 hmay
  have hvisible := hopen.elim (caseVisibilityFilter_unsealed hactive) id
  have hnone : doc.publicCopyId = none := by
    cases hpointer : doc.publicCopyId with
    | none => rfl
    | some copyId =>
      have hconfidential := (h.pointers f file hfile doc hdoc copyId hpointer).confidential
      rw [hpublic] at hconfidential
      cases hconfidential
  refine h.shows hcase hvisible (Tables.mem_docket.2 ⟨h.mem_filings.2 ⟨f, hfile⟩, hcaseId, .inl haccepted⟩)
    (Tables.mem_entryDocuments.2 ⟨doc, hdoc, hcurrent, ?_, ?_⟩) hsize
  · rintro heq
    rw [heq] at hprivate
    exact absurd hprivate (by decide)
  · rw [hcourt, hout.staff, hout.filer]
    exact (h.docketEntry_outside hfile hdoc hprivate).2 (.inr ⟨hnone, hpublic, rfl⟩)

theorem Run.copy_shown (h : Run cfg w₀ w) {doc : FilingDocument} {caseId : CaseId} {copy : DocumentPublicCopy}
    (hfound : (c.tables w).document doc.id = some (file, doc)) (hcaseId : file.filing.caseId = some caseId)
    (hout : Outside user file.filing) (hpointer : doc.publicCopyId = some copy.id)
    (hread : (c.tables w).readPublicCopy user copy.id = .ok copy) {pageSize : Nat} (hsize : 1 ≤ pageSize) :
    (c.tables w).Shows user caseId pageSize (doc.asCopy copy) := by
  obtain ⟨f, hfile, hdoc, -⟩ := h.document_found.1 hfound
  obtain ⟨case, hcase, hcourt⟩ := h.case_court f file caseId hfile hcaseId
  obtain ⟨hcopy, hmay⟩ := Tables.readPublicCopy_found hread
  obtain ⟨copy', hid, hcurrent⟩ := h.current_copy hfile hdoc hpointer
  have hcopy' : (c.tables w).copy copy'.id = some copy' := h.copy_found.2 ⟨f, file, hfile, hcurrent.mem, rfl⟩
  rw [hid, hcopy] at hcopy'
  obtain rfl := Option.some.inj hcopy'
  have hdocument : (c.tables w).document copy.documentId = some (file, doc) := hcurrent.document ▸ hfound
  obtain ⟨-, hblock, hvisible⟩ := (Tables.mayReadPublicCopy_outside hdocument hout hcaseId hcase).1 hmay
  obtain ⟨hprivate, hremoved, haccepted, -⟩ := publicationBlock_none hblock
  refine h.shows hcase hvisible (Tables.mem_docket.2 ⟨h.mem_filings.2 ⟨f, hfile⟩, hcaseId, .inl haccepted⟩)
    (Tables.mem_entryDocuments.2 ⟨doc, hdoc, hremoved, ?_, ?_⟩) hsize
  · rintro heq
    rw [heq] at hprivate
    exact absurd hprivate (by decide)
  · rw [hcourt, hout.staff, hout.filer]
    exact (h.docketEntry_outside hfile hdoc hprivate).2 (.inl ⟨copy, hpointer, hcopy, hcurrent.document, rfl⟩)

theorem Tables.getCase_ok {caseId : CaseId} : (∃ r, t.getCase user caseId = .ok r) ↔
    ∃ case, t.db (.case caseId) = some case ∧ caseVisibilityFilter user case = true := by
  unfold getCase
  constructor
  · rintro ⟨r, h⟩
    obtain ⟨case, hcase, -⟩ := except_bind_ok.1 h
    exact ⟨case, visibleCase_eq_ok.1 hcase⟩
  · rintro ⟨case, hcase⟩
    exact ⟨_, except_bind_ok.2 ⟨case, visibleCase_eq_ok.2 hcase, rfl⟩⟩

theorem Tables.currentUser_eq_ok {userId : Option UserId} {viewer : Viewer} (h : t.currentUser userId = .ok viewer) :
    t.optionalUser userId = some viewer := by
  unfold currentUser at h
  cases userId with
  | none => cases h
  | some id =>
    dsimp only at h
    unfold optionalUser
    cases haccount : t.db (.user id) with
    | none =>
      rw [haccount] at h
      cases h
    | some account =>
      rw [haccount] at h
      dsimp only at h
      split at h
      · rename_i hactive
        cases h
        rw [Option.bind_some, haccount, Option.filter_some_pos (by exact hactive)]
        rfl
      · cases h

theorem Tables.mem_listFavorites {userId : Option UserId} {viewer : Viewer} {favs : List FavoriteCaseResponse}
    (huser : t.currentUser userId = .ok viewer) (hfavs : t.listFavorites userId = .ok favs)
    {item : FavoriteCaseResponse} : item ∈ favs ↔
      ∃ fav ∈ t.favorites, fav.userId = viewer.id ∧ t.visibleFavorite viewer fav = some item := by
  unfold listFavorites at hfavs
  rw [huser] at hfavs
  obtain rfl := Except.ok.inj hfavs
  simp only [List.mem_filterMap, (descending_perm _ _ _).mem_iff, List.mem_filter, beq_iff_eq, and_assoc]

/-- Listing and downloads agree on what the user may see. -/
structure DocketSound (t : Tables) (userId : Option UserId) : Prop where
  downloadable : ∀ caseId page pageSize entries,
    t.getCaseFilings (t.optionalUser userId) caseId page pageSize = .ok entries → ∀ e ∈ entries, ∀ d ∈ e.documents,
    t.Downloadable (t.optionalUser userId) d
  originals : ∀ file doc caseId, t.document doc.id = some (file, doc) → file.filing.caseId = some caseId →
    Outside (t.optionalUser userId) file.filing → t.readDocument (t.optionalUser userId) doc.id = .ok doc →
    ∀ pageSize, 1 ≤ pageSize → t.Shows (t.optionalUser userId) caseId pageSize doc.original
  copies : ∀ file doc caseId copy, t.document doc.id = some (file, doc) → file.filing.caseId = some caseId →
    Outside (t.optionalUser userId) file.filing → doc.publicCopyId = some copy.id →
    t.readPublicCopy (t.optionalUser userId) copy.id = .ok copy →
    ∀ pageSize, 1 ≤ pageSize → t.Shows (t.optionalUser userId) caseId pageSize (doc.asCopy copy)
  visible : ∀ caseId page pageSize, (∃ r, t.getCase (t.optionalUser userId) caseId = .ok r) ↔
    ∃ entries, t.getCaseFilings (t.optionalUser userId) caseId page pageSize = .ok entries
  favorites : ∀ viewer favs, t.currentUser userId = .ok viewer → t.listFavorites userId = .ok favs →
    ∀ fav ∈ t.favorites, fav.userId = viewer.id →
      ((∃ item ∈ favs, item.id = fav.id ∧ item.caseId = fav.caseId) ↔
        ∃ r, t.getCase (t.optionalUser userId) fav.caseId = .ok r)

/-- **The docket shows what can be downloaded.** In every reachable state and for everybody: each entry of a docket
designates a file that this user may download; who is neither filer nor staff and may download an original or a current
copy finds just that entry on one page; and `get_case`, `get_case_filings` and `list_favorites` show a case to the same
users. -/
theorem Run.docket_sound (h : Run cfg w₀ w) (c : Columns) (userId : Option UserId) :
    DocketSound (c.tables w) userId where
  downloadable _ _ _ _ hentries _ he _ hd := h.downloadable hentries he hd
  originals file doc caseId hfound hcaseId hout hread pageSize hsize :=
    h.original_shown (fun _ => Tables.optionalUser_active) hfound hcaseId hout hread hsize
  copies file doc caseId copy hfound hcaseId hout hpointer hread pageSize hsize :=
    h.copy_shown hfound hcaseId hout hpointer hread hsize
  visible caseId page pageSize := by
    rw [Tables.getCase_ok]
    constructor
    · rintro ⟨case, hcase, hvisible⟩
      exact ⟨_, Tables.getCaseFilings_eq_ok.2 ⟨case, hcase, hvisible, rfl⟩⟩
    · rintro ⟨entries, hentries⟩
      obtain ⟨case, hcase, hvisible, -⟩ := Tables.getCaseFilings_eq_ok.1 hentries
      exact ⟨case, hcase, hvisible⟩
  favorites viewer favs huser hfavs fav hfav hmine := by
    rw [Tables.getCase_ok, Tables.currentUser_eq_ok huser]
    constructor
    · rintro ⟨item, hitem, -, hcase⟩
      obtain ⟨fav', -, -, hshown⟩ := (Tables.mem_listFavorites huser hfavs).1 hitem
      obtain ⟨case, hdb, rfl⟩ := Option.map_eq_some_iff.1 hshown
      obtain ⟨hdb, hvisible⟩ := Option.filter_eq_some_iff.1 hdb
      exact ⟨case, hcase ▸ hdb, hvisible⟩
    · rintro ⟨case, hdb, hvisible⟩
      have hshown : (c.tables w).visibleFavorite viewer fav =
          some ⟨fav.id, fav.caseId, case.row.caseNumber, case.row.title, fav.notes, fav.createdAt⟩ := by
        unfold Tables.visibleFavorite
        rw [hdb, Option.filter_some_pos hvisible]
        rfl
      exact ⟨_, (Tables.mem_listFavorites huser hfavs).2 ⟨fav, hfav, hmine, hshown⟩, rfl, rfl⟩

/-- In the small portal everybody finds the public copy that was published. -/
theorem Run.docket_sound_published : DocketSound (smallColumns.tables publishedWorld) none ∧
    ((smallColumns.tables publishedWorld).shownDocuments none 21 1 25).map (fun d => d.copyId) = [some 26] :=
  ⟨Run.docket_sound publishedWorld_run smallColumns none, by decide +kernel⟩

end Muefs
