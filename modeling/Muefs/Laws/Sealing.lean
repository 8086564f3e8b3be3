import Muefs.Laws.Docket

/-!
# Sealed cases are closed to strangers

* `Tables.Sealed`, `Tables.Hidden` : a sealed case, and a filing in one;
* `SealedAlike` : two states that differ in the contents of sealed cases only;
* `Tables.Stranger` : a user to whom no sealed case is open;
* `Run.linked` : the tables of reachable states are linked as the law asks;
* `Tables.noninterference` : the law: a stranger gets the same answers in both.
-/

namespace Muefs
open RowLocks Listings

variable {cfg : Settings} {w₀ w : PortalWorld} {t t' : Tables} {user : Option Viewer}
  {file file' : FilingFile}

/-! ## Two lists side by side -/

section Lists

variable {α β : Type} {R : α → β → Prop} {xs : List α} {ys : List β}

theorem forall₂_filterMap {ns : List Nat} {g : Nat → Option α} {g' : Nat → Option β}
    (h : ∀ n, g n = none ∧ g' n = none ∨ ∃ a b, g n = some a ∧ g' n = some b ∧ R a b) :
    List.Forall₂ R (ns.filterMap g) (ns.filterMap g') := by
  induction ns with
  | nil => exact .nil
  | cons n ns ih =>
    rcases h n with ⟨hg, hg'⟩ | ⟨a, b, hg, hg', hR⟩
    · rw [List.filterMap_cons_none hg, List.filterMap_cons_none hg']
      exact ih
    · rw [List.filterMap_cons_some hg, List.filterMap_cons_some hg']
      exact .cons hR ih

theorem forall₂_findSome? {γ δ : Type} {g : α → Option γ} {g' : β → Option δ} {S : γ → δ → Prop}
    (hall : List.Forall₂ R xs ys)
    (h : ∀ a ∈ xs, ∀ b, R a b →
      g a = none ∧ g' b = none ∨ ∃ c d, g a = some c ∧ g' b = some d ∧ S c d) :
    xs.findSome? g = none ∧ ys.findSome? g' = none ∨
      ∃ c d, xs.findSome? g = some c ∧ ys.findSome? g' = some d ∧ S c d := by
  induction hall with
  | nil => exact .inl ⟨rfl, rfl⟩
  | @cons a b xs ys hR hall ih =>
    rcases h a List.mem_cons_self b hR with ⟨hg, hg'⟩ | ⟨c, d, hg, hg', hS⟩
    · rw [List.findSome?_cons, List.findSome?_cons, hg, hg']
      exact ih fun a ha => h a (List.mem_cons_of_mem _ ha)
    · exact .inr ⟨c, d, by rw [List.findSome?_cons, hg], by rw [List.findSome?_cons, hg'], hS⟩

theorem forall₂_filter {ys : List α} {R : α → α → Prop} {p p' : α → Bool} (hall : List.Forall₂ R xs ys)
    (h : ∀ a ∈ xs, ∀ b, R a b → b = a ∧ p' a = p a ∨ p a = false ∧ p' b = false) : ys.filter p' = xs.filter p := by
  induction hall with
  | nil => rfl
  | @cons a b xs ys hR hall ih =>
    have ih := ih fun a ha => h a (List.mem_cons_of_mem _ ha)
    rcases h a List.mem_cons_self b hR with ⟨rfl, hp⟩ | ⟨ha, hb⟩
    · rw [List.filter_cons, List.filter_cons, hp, ih]
    · rw [List.filter_cons_of_neg (by simp [hb]), List.filter_cons_of_neg (by simp [ha])]
      exact ih

theorem find?_alike {κ : Type} {f : α → κ} {g : β → κ} (p : κ → Bool) (h : ys.map g = xs.map f) :
    xs.find? (p ∘ f) = none ∧ ys.find? (p ∘ g) = none ∨
      ∃ a b, xs.find? (p ∘ f) = some a ∧ ys.find? (p ∘ g) = some b ∧ g b = f a := by
  have hkeys : (ys.find? (p ∘ g)).map g = (xs.find? (p ∘ f)).map f := by
    rw [← List.find?_map, ← List.find?_map, h]
  cases ha : xs.find? (p ∘ f) with
  | none =>
    rw [ha] at hkeys
    exact .inl ⟨rfl, Option.map_eq_none_iff.1 hkeys⟩
  | some a =>
    rw [ha] at hkeys
    obtain ⟨b, hb, heq⟩ := Option.map_eq_some_iff.1 hkeys
    exact .inr ⟨a, b, rfl, hb, heq⟩

theorem descending_congr {key key' : α → Instant} {id : α → Nat} {rows : List α}
    (h : ∀ a ∈ rows, key' a = key a) : descending key' id rows = descending key id rows := by
  unfold descending
  have hsort := List.map_mergeSort
    (r := fun a b => decide (key b < key a) || (key a == key b && decide (id b ≤ id a)))
    (s := fun a b => decide (key' b < key' a) || (key' a == key' b && decide (id b ≤ id a))) (f := fun a : α => a)
    (l := rows) fun a ha b hb => by rw [h a ha, h b hb]
  rw [List.map_id', List.map_id'] at hsort
  exact hsort.symm

end Lists

theorem except_bind_congr {ε α β : Type} {x x' : Except ε α} {f f' : α → Except ε β} (hx : x' = x)
    (hf : ∀ a, x = .ok a → f' a = f a) : x' >>= f' = x >>= f := by
  subst hx
  cases x' with
  | error e => rfl
  | ok a => exact hf a rfl

/-! ## Two states -/

def Tables.Sealed (t : Tables) (id : CaseId) : Prop := ∃ case, t.db (.case id) = some case ∧ case.row.isSealed = true

def Tables.Hidden (t : Tables) (filing : FilingEnvelope) : Prop := ∃ id, filing.caseId = some id ∧ t.Sealed id

/-- Two filings with the same links, documents and copies; they may have any contents. -/
structure FilingAlike (file file' : FilingFile) : Prop where
  caseId : file'.filing.caseId = file.filing.caseId
  courtId : file'.filing.courtId = file.filing.courtId
  documents : file'.documents.map FilingDocument.id = file.documents.map FilingDocument.id
  copies : (file'.copies.map fun copy => (copy.id, copy.documentId)) =
    file.copies.map fun copy => (copy.id, copy.documentId)

/-- The states differ at most in the contents of sealed cases, of their participants, filings, documents and copies,
and in what readers do not ask for. -/
structure SealedAlike (t t' : Tables) : Prop where
  next : t'.next = t.next
  users : ∀ id, t'.db (.user id) = t.db (.user id)
  courts : ∀ id, t'.db (.court id) = t.db (.court id)
  cases : ∀ id, t'.db (.case id) = t.db (.case id) ∨ ∃ case case', t.db (.case id) = some case ∧
    t'.db (.case id) = some case' ∧ case.row.isSealed = true ∧ case'.row.isSealed = true ∧
    case'.row.courtId = case.row.courtId
  envelopes : ∀ f, t'.db (.envelope f) = t.db (.envelope f) ∨ ∃ file file', t.db (.envelope f) = some file ∧
    t'.db (.envelope f) = some file' ∧ t.Hidden file.filing ∧ FilingAlike file file'
  objects : ∀ file ∈ t.filings, ¬ t.Hidden file.filing →
    (∀ doc ∈ file.documents, t'.db (.object doc.fileKey) = t.db (.object doc.fileKey)) ∧
    ∀ copy ∈ file.copies, t'.db (.object copy.fileKey) = t.db (.object copy.fileKey)
  county : t'.county = t.county
  favorites : t'.favorites = t.favorites
  lower : t'.lower = t.lower
  caseColumns : ∀ id, ¬ t.Sealed id →
    t'.status id = t.status id ∧ t'.judgeId id = t.judgeId id ∧ t'.caseCreatedAt id = t.caseCreatedAt id
  filingColumns : ∀ file ∈ t.filings, ¬ t.Hidden file.filing →
    t'.filingCreatedAt file.filing.id = t.filingCreatedAt file.filing.id

/-- What the keys of the tables say: a document is in one filing, a copy is kept with its document, and a filing is
in the court of its case. -/
structure Tables.Linked (t : Tables) : Prop where
  documents : ∀ f file f' file', t.db (.envelope f) = some file → t.db (.envelope f') = some file' →
    ∀ d ∈ file.documents, ∀ d' ∈ file'.documents, d.id = d'.id → f = f'
  copies : ∀ f file, t.db (.envelope f) = some file → ∀ copy ∈ file.copies,
    ∃ d ∈ file.documents, d.id = copy.documentId
  courts : ∀ f file id, t.db (.envelope f) = some file → file.filing.caseId = some id →
    ∃ case, t.db (.case id) = some case ∧ case.row.courtId = file.filing.courtId

/-- No sealed case is open to the user: he is no administrator of the system, not staff of its court, no participant
with access, and he filed nothing in it. -/
structure Tables.Stranger (t : Tables) (user : Option Viewer) : Prop where
  admin : ∀ v, user = some v → v.account.user.userType ≠ .admin
  staff : ∀ id case, t.db (.case id) = some case → case.row.isSealed = true →
    isCourtStaffFor user case.row.courtId = false
  participant : ∀ v, user = some v → ∀ id case, t.db (.case id) = some case → case.row.isSealed = true →
    ∀ p ∈ case.participants, (p.userId == some v.id && p.isActive && p.accessEnabled &&
      (!p.role.isCounsel || counselMatches v.account.user p)) = false
  filer : ∀ file ∈ t.filings, t.Hidden file.filing → isFilerOf user file.filing = false

/-! ## Strangers -/

theorem Tables.Stranger.not_visible (h : t.Stranger user) {id : CaseId} {case : CaseFile}
    (hcase : t.db (.case id) = some case) (hsealed : case.row.isSealed = true) :
    caseVisibilityFilter user case = false := by
  have hstaff := h.staff id case hcase hsealed
  unfold caseVisibilityFilter
  cases huser : user with
  | none => simp [hsealed]
  | some v =>
    rw [huser] at hstaff
    have hgrant := List.any_eq_false.2 fun p hp =>
      Bool.eq_false_iff.1 (h.participant v huser id case hcase hsealed p hp)
    have hadmin : (v.account.user.userType == .admin) = false := beq_eq_false_iff_ne.2 (h.admin v huser)
    have hcourt : v.account.isCourtStaff case.row.courtId = false := hstaff
    simp only [Muefs.userMayReadCase, hadmin, hsealed, hcourt, hgrant, Bool.not_true, Bool.or_self, Bool.and_false]

theorem Tables.stranger_none (t : Tables) : t.Stranger none where
  admin v h := by cases h
  staff _ _ _ _ := rfl
  participant v h := by cases h
  filer _ _ _ := rfl

theorem Tables.mem_filings (h : file ∈ t.filings) : ∃ f, t.db (.envelope f) = some file := by
  obtain ⟨f, -, hfile⟩ := List.mem_filterMap.1 h
  exact ⟨f, hfile⟩

theorem Tables.Linked.file_eq (h : t.Linked) (hfile : file ∈ t.filings) (hfile' : file' ∈ t.filings)
    {d d' : FilingDocument} (hd : d ∈ file.documents) (hd' : d' ∈ file'.documents) (hid : d.id = d'.id) :
    file = file' := by
  obtain ⟨f, hf⟩ := mem_filings hfile
  obtain ⟨f', hf'⟩ := mem_filings hfile'
  obtain rfl := h.documents f file f' file' hf hf' d hd d' hd' hid
  exact Option.some.inj (hf.symm.trans hf')

theorem Tables.Linked.copy_document (h : t.Linked) (hfile : file ∈ t.filings) {copy : DocumentPublicCopy}
    (hcopy : copy ∈ file.copies) : ∃ d ∈ file.documents, d.id = copy.documentId := by
  obtain ⟨f, hf⟩ := mem_filings hfile
  exact h.copies f file hf copy hcopy

theorem Tables.Stranger.outside (h : t.Stranger user) (hlinked : t.Linked) (hfile : file ∈ t.filings)
    (hhidden : t.Hidden file.filing) : Outside user file.filing := by
  have hfiler := h.filer file hfile hhidden
  obtain ⟨id, hid, case, hcase, hsealed⟩ := hhidden
  obtain ⟨f, hf⟩ := mem_filings hfile
  obtain ⟨case', hcase', hcourt⟩ := hlinked.courts f file id hf hid
  cases hcase.symm.trans hcase'
  exact ⟨hfiler, hcourt ▸ h.staff id case hcase hsealed⟩

theorem Tables.document_mem {id : DocumentId} {doc : FilingDocument} (h : t.document id = some (file, doc)) :
    file ∈ t.filings ∧ doc ∈ file.documents ∧ doc.id = id := by
  obtain ⟨file', hfile, hdoc⟩ := List.exists_of_findSome?_eq_some h
  obtain ⟨doc', hdoc, heq⟩ := Option.map_eq_some_iff.1 hdoc
  cases heq
  exact ⟨hfile, FilingFile.document_spec hdoc⟩

theorem Tables.document_ne_none (hfile : file ∈ t.filings) {doc : FilingDocument} (hdoc : doc ∈ file.documents)
    {id : DocumentId} (hid : doc.id = id) : t.document id ≠ none := by
  intro hnone
  have hnot := List.findSome?_eq_none_iff.1 hnone file hfile
  exact List.find?_eq_none.1 (Option.map_eq_none_iff.1 hnot) doc hdoc (beq_iff_eq.2 hid)

theorem Tables.readDocument_found {id : DocumentId} {doc doc' : FilingDocument}
    (hdoc : t.document id = some (file, doc)) (hread : t.readDocument user id = .ok doc') : doc = doc' := by
  unfold readDocument at hread
  rw [hdoc] at hread
  dsimp only at hread
  split at hread
  · exact Except.ok.inj hread
  · cases hread

theorem Tables.matchesQuery_sealed (t : Tables) {q : CaseQuery} {id : CaseId} {case : CaseFile}
    (hsealed : case.row.isSealed = true) : t.matchesQuery q id case = false := by
  unfold matchesQuery
  simp only [hsealed, Bool.not_true, Bool.false_and]

theorem Tables.unsealed_of_mem {entry : CaseId × CaseFile} (h : entry ∈ t.cases)
    (hsealed : entry.2.row.isSealed = false) : ¬ t.Sealed entry.1 := by
  rintro ⟨case, hcase, hseal⟩
  obtain ⟨id, -, hid⟩ := List.mem_filterMap.1 h
  obtain ⟨case', hcase', rfl⟩ := Option.map_eq_some_iff.1 hid
  cases hcase.symm.trans hcase'
  rw [hseal] at hsealed
  cases hsealed

theorem Tables.Stranger.readDocument (h : t.Stranger user) (hlinked : t.Linked) {id : DocumentId}
    {doc : FilingDocument} (hdoc : t.document id = some (file, doc)) (hhidden : t.Hidden file.filing) :
    t.readDocument user id = .error (.http 403 "Not authorized to access this document") := by
  have hout := h.outside hlinked (document_mem hdoc).1 hhidden
  obtain ⟨caseId, hcaseId, case, hcase, hsealed⟩ := hhidden
  unfold Tables.readDocument
  rw [hdoc]
  refine if_neg fun hmay => ?_
  obtain ⟨-, -, -, -, hopen⟩ := (userMayReadDocument_outside hout hcaseId hcase).1 hmay
  rw [hsealed, h.not_visible hcase hsealed] at hopen
  simp at hopen

theorem Tables.Stranger.readPublicCopy (h : t.Stranger user) (hlinked : t.Linked) {id : CopyId}
    {copy : DocumentPublicCopy} {doc : FilingDocument} (hcopy : t.copy id = some copy)
    (hdoc : t.document copy.documentId = some (file, doc)) (hhidden : t.Hidden file.filing) :
    t.readPublicCopy user id = .error (.http 403 "Not authorized to access this copy") := by
  have hout := h.outside hlinked (document_mem hdoc).1 hhidden
  obtain ⟨caseId, hcaseId, case, hcase, hsealed⟩ := hhidden
  unfold Tables.readPublicCopy
  rw [hcopy]
  refine if_neg fun hmay => ?_
  obtain ⟨-, -, hvisible⟩ := (mayReadPublicCopy_outside hdoc hout hcaseId hcase).1 hmay
  rw [h.not_visible hcase hsealed] at hvisible
  cases hvisible

theorem Tables.Stranger.visibleCase (h : t.Stranger user) {id : CaseId} (hsealed : t.Sealed id) (refusal : String) :
    t.visibleCase user id refusal = .error (.http 403 refusal) := by
  obtain ⟨case, hcase, hsealed⟩ := hsealed
  unfold Tables.visibleCase
  rw [hcase]
  dsimp only
  rw [userMayReadCase_eq hcase, h.not_visible hcase hsealed]
  rfl

theorem Tables.Stranger.unsealed (h : t.Stranger user) {id : CaseId} {refusal : String} {case : CaseFile}
    (hcase : t.visibleCase user id refusal = .ok case) : ¬ t.Sealed id := by
  intro hsealed
  rw [h.visibleCase hsealed] at hcase
  cases hcase

theorem Tables.not_hidden {filing : FilingEnvelope} {id : CaseId} (hid : filing.caseId = some id)
    (hsealed : ¬ t.Sealed id) : ¬ t.Hidden filing := by
  rintro ⟨id', hid', hsealed'⟩
  cases hid.symm.trans hid'
  exact hsealed hsealed'

/-! ## The same tables, outside sealed cases -/

namespace SealedAlike

theorem sealed (h : SealedAlike t t') {id : CaseId} (hsealed : t.Sealed id) : t'.Sealed id := by
  obtain ⟨case, hcase, hsealed⟩ := hsealed
  rcases h.cases id with heq | ⟨_, case', _, hcase', _, hsealed', _⟩
  · exact ⟨case, heq.trans hcase, hsealed⟩
  · exact ⟨case', hcase', hsealed'⟩

theorem envelope (h : SealedAlike t t') {f : FilingId} (hfile' : t'.db (.envelope f) = some file') :
    ∃ file, t.db (.envelope f) = some file ∧ FilingAlike file file' := by
  rcases h.envelopes f with heq | ⟨file, file₁, hfile, hfile₁, -, halike⟩
  · exact ⟨file', heq.symm.trans hfile', rfl, rfl, rfl, rfl⟩
  · cases hfile'.symm.trans hfile₁
    exact ⟨file, hfile, halike⟩

theorem hidden (h : SealedAlike t t') {filing filing' : FilingEnvelope} (hid : filing'.caseId = filing.caseId)
    (hhidden : t.Hidden filing) : t'.Hidden filing' := by
  obtain ⟨id, hcaseId, hsealed⟩ := hhidden
  exact ⟨id, hid.trans hcaseId, h.sealed hsealed⟩

theorem linked (h : SealedAlike t t') (hlinked : t.Linked) : t'.Linked where
  documents f₁ file₁ f₂ file₂ h₁ h₂ d₁ hd₁ d₂ hd₂ hid := by
    obtain ⟨file₁', h₁', halike₁⟩ := h.envelope h₁
    obtain ⟨file₂', h₂', halike₂⟩ := h.envelope h₂
    obtain ⟨d₁', hd₁', hid₁⟩ := List.mem_map.1 (halike₁.documents ▸ List.mem_map_of_mem hd₁)
    obtain ⟨d₂', hd₂', hid₂⟩ := List.mem_map.1 (halike₂.documents ▸ List.mem_map_of_mem hd₂)
    exact hlinked.documents f₁ file₁' f₂ file₂' h₁' h₂' d₁' hd₁' d₂' hd₂' (hid₁.trans (hid.trans hid₂.symm))
  copies f file hfile copy hcopy := by
    obtain ⟨file', hfile', halike⟩ := h.envelope hfile
    obtain ⟨copy', hcopy', hkey⟩ := List.mem_map.1 (halike.copies ▸ List.mem_map_of_mem hcopy)
    obtain ⟨d', hd', hid'⟩ := hlinked.copies f file' hfile' copy' hcopy'
    obtain ⟨d, hd, hid⟩ := List.mem_map.1 (halike.documents.symm ▸ List.mem_map_of_mem hd')
    exact ⟨d, hd, hid.trans (hid'.trans (Prod.mk.inj hkey).2)⟩
  courts f file id hfile hid := by
    obtain ⟨file', hfile', halike⟩ := h.envelope hfile
    obtain ⟨case, hcase, hcourt⟩ := hlinked.courts f file' id hfile' (halike.caseId.symm.trans hid)
    have hcourt' := hcourt.trans halike.courtId.symm
    rcases h.cases id with heq | ⟨case₁, case₁', hcase₁, hcase₁', -, -, hsame⟩
    · exact ⟨case, heq.trans hcase, hcourt'⟩
    · cases hcase.symm.trans hcase₁
      exact ⟨case₁', hcase₁', hsame.trans hcourt'⟩

theorem case_same (h : SealedAlike t t') {id : CaseId} (hsealed : ¬ t.Sealed id) :
    t'.db (.case id) = t.db (.case id) := by
  rcases h.cases id with heq | ⟨case, _, hcase, _, hseal, _⟩
  · exact heq
  · exact absurd ⟨case, hcase, hseal⟩ hsealed

theorem userMayReadDocument (h : SealedAlike t t') {filing : FilingEnvelope} (hhidden : ¬ t.Hidden filing)
    (doc : FilingDocument) : t'.userMayReadDocument user filing doc = t.userMayReadDocument user filing doc := by
  unfold Tables.userMayReadDocument Tables.userMayReadFilingEnvelope Tables.userMayReadSealedCase
  cases hid : filing.caseId with
  | none => rfl
  | some id =>
    dsimp only
    rw [h.case_same fun hsealed => hhidden ⟨id, hid, hsealed⟩]

theorem filings (h : SealedAlike t t') : List.Forall₂
    (fun file file' => file' = file ∨ t.Hidden file.filing ∧ FilingAlike file file') t.filings t'.filings := by
  unfold Tables.filings
  rw [h.next]
  refine forall₂_filterMap fun f => ?_
  rcases h.envelopes f with heq | ⟨file, file', hfile, hfile', hhidden, halike⟩
  · rw [heq]
    cases hfile : t.db (.envelope f) with
    | none => exact .inl ⟨rfl, rfl⟩
    | some file => exact .inr ⟨file, file, rfl, rfl, .inl rfl⟩
  · exact .inr ⟨file, file', hfile, hfile', .inr ⟨hhidden, halike⟩⟩

theorem document (h : SealedAlike t t') (id : DocumentId) : t.document id = none ∧ t'.document id = none ∨
    ∃ p p', t.document id = some p ∧ t'.document id = some p' ∧
      (p' = p ∨ t.Hidden p.1.filing ∧ FilingAlike p.1 p'.1) := by
  refine forall₂_findSome? h.filings fun file _ file' halike => ?_
  rcases halike with rfl | ⟨hhidden, halike⟩
  · cases hdoc : file'.document id with
    | none => exact .inl ⟨rfl, rfl⟩
    | some doc => exact .inr ⟨_, _, rfl, rfl, .inl rfl⟩
  · rcases find?_alike (fun d => d == id) halike.documents with ⟨hnone, hnone'⟩ | ⟨doc, doc', hdoc, hdoc', -⟩
    · exact .inl ⟨Option.map_eq_none_iff.2 hnone, Option.map_eq_none_iff.2 hnone'⟩
    · exact .inr ⟨_, _, Option.map_eq_some_iff.2 ⟨doc, hdoc, rfl⟩, Option.map_eq_some_iff.2 ⟨doc', hdoc', rfl⟩,
        .inr ⟨hhidden, halike⟩⟩

theorem copy (h : SealedAlike t t') (id : CopyId) : t.copy id = none ∧ t'.copy id = none ∨
    ∃ copy copy', t.copy id = some copy ∧ t'.copy id = some copy' ∧ copy'.documentId = copy.documentId ∧
      ∃ file ∈ t.filings, copy ∈ file.copies ∧ (copy' = copy ∨ t.Hidden file.filing) := by
  unfold Tables.copy
  rw [List.find?_flatMap, List.find?_flatMap]
  refine forall₂_findSome? h.filings fun file hfile file' halike => ?_
  rcases halike with rfl | ⟨hhidden, halike⟩
  · cases hcopy : file'.copies.find? (fun c => c.id == id) with
    | none => exact .inl ⟨rfl, rfl⟩
    | some copy => exact .inr ⟨copy, copy, rfl, rfl, rfl, file', hfile, List.mem_of_find?_eq_some hcopy, .inl rfl⟩
  · rcases find?_alike (fun key => key.1 == id) halike.copies with hnone | ⟨copy, copy', hcopy, hcopy', hkey⟩
    · exact .inl hnone
    · exact .inr ⟨copy, copy', hcopy, hcopy', (Prod.mk.inj hkey).2, file, hfile, List.mem_of_find?_eq_some hcopy,
        .inr hhidden⟩

theorem docketEntry (h : SealedAlike t t') (hlinked : t.Linked) (hfile : file ∈ t.filings)
    (hhidden : ¬ t.Hidden file.filing) {doc : FilingDocument} (hdoc : doc ∈ file.documents) (inside : Bool) :
    t'.docketEntry inside doc = t.docketEntry inside doc := by
  have hcopies : (doc.publicCopyId.bind t'.copy).filter (fun copy => copy.documentId == doc.id) =
      (doc.publicCopyId.bind t.copy).filter fun copy => copy.documentId == doc.id := by
    cases doc.publicCopyId with
    | none => rfl
    | some id =>
      rw [Option.bind_some, Option.bind_some]
      rcases h.copy id with ⟨hnone, hnone'⟩ | ⟨copy, copy', hcopy, hcopy', hid, file₁, hfile₁, hmem, rfl | hhidden₁⟩
      · rw [hnone, hnone']
      · rw [hcopy, hcopy']
      · have hother : copy.documentId ≠ doc.id := by
          intro heq
          obtain ⟨d, hd, hdid⟩ := hlinked.copy_document hfile₁ hmem
          obtain rfl := hlinked.file_eq hfile₁ hfile hd hdoc (hdid.trans heq)
          exact hhidden hhidden₁
        rw [hcopy, hcopy', Option.filter_some_neg (by simp [hid, hother]), Option.filter_some_neg (by simp [hother])]
  unfold Tables.docketEntry
  rw [hcopies]

theorem filingEntry (h : SealedAlike t t') (hlinked : t.Linked) (hfile : file ∈ t.filings)
    (hhidden : ¬ t.Hidden file.filing) (staff : Bool) :
    t'.filingEntry user staff file = t.filingEntry user staff file := by
  unfold Tables.filingEntry
  have hdocs : file.docketDocuments.filterMap (t'.docketEntry (staff || isFilerOf user file.filing)) =
      file.docketDocuments.filterMap (t.docketEntry (staff || isFilerOf user file.filing)) :=
    List.filterMap_congr fun doc hdoc => h.docketEntry hlinked hfile hhidden (List.mem_filter.1 hdoc).1 _
  rw [h.filingColumns file hfile hhidden, hdocs]

theorem docket (h : SealedAlike t t') {caseId : CaseId} (hsealed : ¬ t.Sealed caseId) :
    t'.docket user caseId = t.docket user caseId := by
  have hshown := forall₂_filter (p := fun file => file.filing.caseId == some caseId &&
    (publicDocketFilingStatuses.contains file.filing.status || isFilerOf user file.filing ||
      isCourtStaffFor user file.filing.courtId)) h.filings fun file _ file' halike => by
    rcases halike with rfl | ⟨hhidden, halike⟩
    · exact .inl ⟨rfl, rfl⟩
    · have hother : file.filing.caseId ≠ some caseId := fun hid => Tables.not_hidden hid hsealed hhidden
      refine .inr ⟨?_, ?_⟩
      · rw [beq_eq_false_iff_ne.2 hother, Bool.false_and]
      · rw [halike.caseId, beq_eq_false_iff_ne.2 hother, Bool.false_and]
  unfold Tables.docket
  dsimp only
  rw [hshown]
  refine descending_congr fun file hfile => ?_
  obtain ⟨hmem, hshows⟩ := List.mem_filter.1 hfile
  have hid : file.filing.caseId = some caseId := beq_iff_eq.1 (Bool.and_eq_true_iff.1 hshows).1
  unfold Tables.docketTime
  rw [h.filingColumns file hmem (Tables.not_hidden hid hsealed)]

theorem publicRecord (h : SealedAlike t t') {id : CaseId} (hsealed : ¬ t.Sealed id) (case : CaseFile) :
    t'.publicRecord id case = t.publicRecord id case := by
  obtain ⟨hstatus, hjudge, hcreated⟩ := h.caseColumns id hsealed
  unfold Tables.publicRecord
  rw [hstatus, hjudge, hcreated]

/-! ## The same answers -/

theorem visibleCase (h : SealedAlike t t') (hout : t.Stranger user) (hout' : t'.Stranger user) (id : CaseId)
    (refusal : String) : t'.visibleCase user id refusal = t.visibleCase user id refusal := by
  by_cases hsealed : t.Sealed id
  · rw [hout.visibleCase hsealed, hout'.visibleCase (h.sealed hsealed)]
  · unfold Tables.visibleCase Tables.userMayReadCase
    rw [h.case_same hsealed]

theorem getCase (h : SealedAlike t t') (hout : t.Stranger user) (hout' : t'.Stranger user) (id : CaseId) :
    t'.getCase user id = t.getCase user id := by
  refine except_bind_congr (h.visibleCase hout hout' id _) fun case hcase => ?_
  rw [h.publicRecord (hout.unsealed hcase)]

theorem getCaseFilings (h : SealedAlike t t') (hlinked : t.Linked) (hout : t.Stranger user) (hout' : t'.Stranger user)
    (id : CaseId) (page pageSize : Nat) :
    t'.getCaseFilings user id page pageSize = t.getCaseFilings user id page pageSize := by
  refine except_bind_congr (h.visibleCase hout hout' id _) fun case hcase => ?_
  have hsealed := hout.unsealed hcase
  rw [h.docket hsealed]
  refine congrArg Except.ok (List.map_congr_left fun file hfile => ?_)
  obtain ⟨hmem, hid, -⟩ := Tables.mem_docket.1 ((page_sublist _ _ _).subset hfile)
  exact h.filingEntry hlinked hmem (Tables.not_hidden hid hsealed) _

theorem openFile {key : FileKey} (h : t'.db (.object key) = t.db (.object key)) (sha256Hash : Digest Content)
    (size : Nat) : t'.openFile key sha256Hash size = t.openFile key sha256Hash size := by
  unfold Tables.openFile
  rw [h]

theorem downloadDocument (h : SealedAlike t t') (hlinked : t.Linked) (hout : t.Stranger user)
    (hout' : t'.Stranger user) (id : DocumentId) : t'.downloadDocument user id = t.downloadDocument user id := by
  unfold Tables.downloadDocument
  rcases h.document id with ⟨hnone, hnone'⟩ | ⟨⟨file, doc⟩, ⟨file', doc'⟩, hdoc, hdoc', hsame⟩
  · have hread : t.readDocument user id = .error (.http 404 "Document not found") := by
      unfold Tables.readDocument
      rw [hnone]
    have hread' : t'.readDocument user id = .error (.http 404 "Document not found") := by
      unfold Tables.readDocument
      rw [hnone']
    rw [hread, hread']
    rfl
  · by_cases hhidden : t.Hidden file.filing
    · have hhidden' : t'.Hidden file'.filing := by
        rcases hsame with heq | ⟨-, halike⟩
        · cases heq
          exact h.hidden rfl hhidden
        · exact h.hidden halike.caseId hhidden
      rw [hout.readDocument hlinked hdoc hhidden, hout'.readDocument (h.linked hlinked) hdoc' hhidden']
      rfl
    · cases hsame.resolve_right fun hother => hhidden hother.1
      obtain ⟨hmem, hdocmem, -⟩ := Tables.document_mem hdoc
      refine except_bind_congr ?_ fun doc₁ hread => ?_
      · unfold Tables.readDocument
        rw [hdoc, hdoc']
        dsimp only
        rw [h.userMayReadDocument hhidden]
      · obtain rfl : doc = doc₁ := Tables.readDocument_found hdoc hread
        rw [openFile ((h.objects file hmem hhidden).1 doc hdocmem)]

theorem mayReadPublicCopy (h : SealedAlike t t') {copy : DocumentPublicCopy} {doc : FilingDocument}
    (hdoc : t.document copy.documentId = some (file, doc)) (hdoc' : t'.document copy.documentId = some (file, doc))
    (hhidden : ¬ t.Hidden file.filing) : t'.mayReadPublicCopy user copy = t.mayReadPublicCopy user copy := by
  unfold Tables.mayReadPublicCopy Tables.userMayReadCase
  rw [hdoc, hdoc']
  dsimp only
  cases hid : file.filing.caseId with
  | none => rfl
  | some id =>
    dsimp only
    rw [h.case_same fun hsealed => hhidden ⟨id, hid, hsealed⟩]

theorem downloadPublicCopy (h : SealedAlike t t') (hlinked : t.Linked) (hout : t.Stranger user)
    (hout' : t'.Stranger user) (id : CopyId) : t'.downloadPublicCopy user id = t.downloadPublicCopy user id := by
  unfold Tables.downloadPublicCopy
  rcases h.copy id with ⟨hnone, hnone'⟩ | ⟨copy, copy', hcopy, hcopy', hid, file, hfile, hmem, hcopies⟩
  · have hread : t.readPublicCopy user id = .error (.http 404 "Public copy not found") := by
      unfold Tables.readPublicCopy
      rw [hnone]
    have hread' : t'.readPublicCopy user id = .error (.http 404 "Public copy not found") := by
      unfold Tables.readPublicCopy
      rw [hnone']
    rw [hread, hread']
    rfl
  · obtain ⟨d, hd, hdid⟩ := hlinked.copy_document hfile hmem
    rcases h.document copy.documentId with ⟨hnone, -⟩ | ⟨⟨file₁, doc⟩, ⟨file', doc'⟩, hdoc, hdoc', hsame⟩
    · exact absurd hnone (Tables.document_ne_none hfile hd hdid)
    · obtain ⟨hfile₁, hdocmem, hdocid⟩ := Tables.document_mem hdoc
      obtain rfl := hlinked.file_eq hfile hfile₁ hd hdocmem (hdid.trans hdocid.symm)
      by_cases hhidden : t.Hidden file.filing
      · have hhidden' : t'.Hidden file'.filing := by
          rcases hsame with heq | ⟨-, halike⟩
          · cases heq
            exact h.hidden rfl hhidden
          · exact h.hidden halike.caseId hhidden
        rw [hout.readPublicCopy hlinked hcopy hdoc hhidden,
          hout'.readPublicCopy (h.linked hlinked) hcopy' (hid ▸ hdoc') hhidden']
        rfl
      · cases hsame.resolve_right fun hother => hhidden hother.1
        obtain rfl := hcopies.resolve_right hhidden
        refine except_bind_congr ?_ fun copy hread => ?_
        · unfold Tables.readPublicCopy
          rw [hcopy, hcopy']
          dsimp only
          rw [h.mayReadPublicCopy hdoc hdoc' hhidden]
        · obtain rfl := Option.some.inj (hcopy.symm.trans (Tables.readPublicCopy_found hread).1)
          rw [openFile ((h.objects file hfile hhidden).2 copy' hmem)]

theorem visibleFavorite (h : SealedAlike t t') {viewer : Viewer} (hout : t.Stranger (some viewer))
    (hout' : t'.Stranger (some viewer)) (fav : FavoriteCase) :
    t'.visibleFavorite viewer fav = t.visibleFavorite viewer fav := by
  unfold Tables.visibleFavorite
  by_cases hsealed : t.Sealed fav.caseId
  · obtain ⟨case', hcase', hsealed'⟩ := h.sealed hsealed
    obtain ⟨case, hcase, hsealed⟩ := hsealed
    rw [hcase, hcase', Option.filter_some_neg (hout'.not_visible hcase' hsealed'),
      Option.filter_some_neg (hout.not_visible hcase hsealed)]
  · rw [h.case_same hsealed]

theorem listFavorites (h : SealedAlike t t') {userId : Option UserId} (hout : t.Stranger (t.optionalUser userId))
    (hout' : t'.Stranger (t.optionalUser userId)) : t'.listFavorites userId = t.listFavorites userId := by
  unfold Tables.listFavorites
  refine except_bind_congr ?_ fun viewer hviewer => ?_
  · unfold Tables.currentUser
    cases userId with
    | none => rfl
    | some id =>
      dsimp only
      rw [h.users id]
  · rw [Tables.currentUser_eq_ok hviewer] at hout hout'
    rw [h.favorites]
    exact congrArg Except.ok (List.filterMap_congr fun fav _ => h.visibleFavorite hout hout' fav)

theorem searchCases (h : SealedAlike t t') (q : CaseQuery) : t'.searchCases q = t.searchCases q := by
  have hcases : List.Forall₂ (fun c c' : CaseId × CaseFile => c' = c ∨
      c.2.row.isSealed = true ∧ c'.2.row.isSealed = true) t.cases t'.cases := by
    unfold Tables.cases
    rw [h.next]
    refine forall₂_filterMap fun id => ?_
    rcases h.cases id with heq | ⟨case, case', hcase, hcase', hsealed, hsealed', -⟩
    · rw [heq]
      cases t.db (.case id) with
      | none => exact .inl ⟨rfl, rfl⟩
      | some case => exact .inr ⟨_, _, rfl, rfl, .inl rfl⟩
    · rw [hcase, hcase']
      exact .inr ⟨_, _, rfl, rfl, .inr ⟨hsealed, hsealed'⟩⟩
  have hmatches : ∀ id case, ¬ t.Sealed id → t'.matchesQuery q id case = t.matchesQuery q id case := by
    intro id case hsealed
    unfold Tables.matchesQuery Tables.icontains
    rw [h.lower, (h.caseColumns id hsealed).1]
  have hfound : t'.cases.filter (fun c => t'.matchesQuery q c.1 c.2) =
      t.cases.filter fun c => t.matchesQuery q c.1 c.2 := by
    refine forall₂_filter hcases fun c hc c' halike => ?_
    rcases halike with rfl | ⟨hsealed, hsealed'⟩
    · cases hsealed : c'.2.row.isSealed with
      | true => exact .inr ⟨t.matchesQuery_sealed hsealed, t'.matchesQuery_sealed hsealed⟩
      | false => exact .inl ⟨rfl, hmatches c'.1 c'.2 (Tables.unsealed_of_mem hc hsealed)⟩
    · exact .inr ⟨t.matchesQuery_sealed hsealed, t'.matchesQuery_sealed hsealed'⟩
  unfold Tables.searchCases
  dsimp only
  rw [hfound]
  refine congrArg (fun rows => CaseSearchResponse.mk rows _ _ _) (List.map_congr_left fun c hc => ?_)
  have hmem := (descending_perm _ _ _).mem_iff.1 ((page_sublist q.pageSize _ (q.page - 1)).subset hc)
  obtain ⟨hmem, hmatch⟩ := List.mem_filter.1 hmem
  have hsealed : ¬ t.Sealed c.1 := by
    refine Tables.unsealed_of_mem hmem (Bool.eq_false_iff.2 fun hseal => ?_)
    rw [t.matchesQuery_sealed hseal] at hmatch
    cases hmatch
  rw [h.publicRecord hsealed, h.courts, h.county]

end SealedAlike

/-! ## The law -/

/-- Every copy is of a document of its filing, which is retained. -/
def FilingFile.CopiesPlaced (file : FilingFile) : Prop :=
  ∀ copy ∈ file.copies, ∃ d ∈ file.documents, d.id = copy.documentId ∧ d.retainedAt.isSome = true

theorem Run.copiesPlaced (h : Run cfg w₀ w) : ∀ f file, w.db (.envelope f) = some file → file.CopiesPlaced := by
  refine h.file_invariant ?_ ?_
  · intro w sid s a f userId data key file' _ _ hnew
    rw [hnew.file_eq]
    exact fun copy hcopy => absurd hcopy (by simp)
  · intro w sid s a f file file' hrun hc hfile hI hstep copy hcopy
    have hkept : ∀ d ∈ file.documents, d.id = copy.documentId → d.retainedAt.isSome = true →
        ∃ d' ∈ file'.documents, d'.id = copy.documentId ∧ d'.retainedAt.isSome = true := by
      intro d hd hid hretained
      obtain ⟨d', hd', hgrows⟩ := hstep.keeps (hrun.wellFormed f file hfile) d hd hretained
      exact ⟨d', hd', hgrows.id.trans hid, hgrows.retained hretained⟩
    have hold : copy ∈ file.copies →
        ∃ d' ∈ file'.documents, d'.id = copy.documentId ∧ d'.retainedAt.isSome = true := by
      intro hcopy
      obtain ⟨d, hd, hid, hretained⟩ := hI copy hcopy
      exact hkept d hd hid hretained
    rcases hstep.copies_new with heq | ⟨_, documentId, _, _, new, _, hcopies, _, _, doc, hdoc, hblock, hnew⟩
    · exact hold (heq ▸ hcopy)
    · rw [hcopies, List.mem_append, List.mem_singleton] at hcopy
      rcases hcopy with hcopy | rfl
      · exact hold hcopy
      · obtain ⟨hmem, hid⟩ := FilingFile.document_spec hdoc
        exact hkept doc hmem (hid.trans hnew.symm) ((hrun.retained f file hfile).of_unblocked hmem hblock)

/-- **The tables of reachable states are linked.** -/
theorem Run.linked (h : Run cfg w₀ w) (c : Columns) : (c.tables w).Linked where
  documents f file f' file' hfile hfile' d hd d' hd' :=
    h.numbersApart.documents f d f' d' ⟨file, hfile, hd⟩ ⟨file', hfile', hd'⟩
  copies f file hfile copy hcopy := by
    obtain ⟨d, hd, hid, -⟩ := h.copiesPlaced f file hfile copy hcopy
    exact ⟨d, hd, hid⟩
  courts := h.case_court

/-- The user reads the same in both states. -/
structure SameAnswers (t t' : Tables) (userId : Option UserId) : Prop where
  searchCases : ∀ q, t'.searchCases q = t.searchCases q
  getCase : ∀ id, t'.getCase (t'.optionalUser userId) id = t.getCase (t.optionalUser userId) id
  getCaseFilings : ∀ id page pageSize, t'.getCaseFilings (t'.optionalUser userId) id page pageSize =
    t.getCaseFilings (t.optionalUser userId) id page pageSize
  downloadDocument : ∀ id,
    t'.downloadDocument (t'.optionalUser userId) id = t.downloadDocument (t.optionalUser userId) id
  downloadPublicCopy : ∀ id,
    t'.downloadPublicCopy (t'.optionalUser userId) id = t.downloadPublicCopy (t.optionalUser userId) id
  listFavorites : t'.listFavorites userId = t.listFavorites userId

/-- **Sealed cases are closed to strangers.** Whatever sealed cases contain, a stranger gets the same answers. -/
theorem Tables.noninterference (hlinked : t.Linked) (h : SealedAlike t t') {userId : Option UserId}
    (hout : t.Stranger (t.optionalUser userId)) (hout' : t'.Stranger (t'.optionalUser userId)) :
    SameAnswers t t' userId := by
  have huser : t'.optionalUser userId = t.optionalUser userId := by
    unfold optionalUser
    cases userId with
    | none => rfl
    | some id =>
      rw [Option.bind_some, Option.bind_some, h.users id]
  rw [huser] at hout'
  constructor
  · exact h.searchCases
  · rw [huser]
    exact h.getCase hout hout'
  · rw [huser]
    exact h.getCaseFilings hlinked hout hout'
  · rw [huser]
    exact h.downloadDocument hlinked hout hout'
  · rw [huser]
    exact h.downloadPublicCopy hlinked hout hout'
  · exact h.listFavorites hout hout'

/-- The portal after a court sealed the case of the published filing. -/
def sealedPortal : PortalWorld :=
  publishedWorld.serveAll (portal .demo) 7 [
    (8000, .changePublicAccess 2 21 ⟨0, true, false, "Protective order", "Order 7"⟩)]

theorem sealedPortal_run : Run .demo smallWorld sealedPortal :=
  publishedWorld_run.trans
    (World.serveAll_steps (World.serveAll_calm (World.serveAll_calm submittedWorld_calm)) (by decide +kernel))

def CaseFile.retitle (case : CaseFile) (title : String) : CaseFile := { case with row := { case.row with title } }

def FilingFile.retitle (file : FilingFile) (title : String) : FilingFile :=
  { file with
    filing := { file.filing with caseTitle := some title }
    documents := file.documents.map fun d => { d with title } }

/-- The case and the filing under another title. -/
def Tables.retitle (t : Tables) (id : CaseId) (f : FilingId) (title : String) : Tables :=
  { t with
    db := Function.update
      (Function.update t.db (.case id) ((t.db (.case id)).map fun case => case.retitle title))
      (.envelope f) ((t.db (.envelope f)).map fun file => file.retitle title) }

theorem Tables.sealedAlike_retitle {id : CaseId} {f : FilingId} {case : CaseFile} (hcase : t.db (.case id) = some case)
    (hsealed : case.row.isSealed = true) (hfile : t.db (.envelope f) = some file) (hid : file.filing.caseId = some id)
    (title : String) : SealedAlike t (t.retitle id f title) := by
  have hrow : ∀ g : Row, g ≠ .case id → g ≠ .envelope f → (t.retitle id f title).db g = t.db g := by
    intro g hg hg'
    exact (Function.update_of_ne hg' _ _).trans (Function.update_of_ne hg _ _)
  constructor
  · rfl
  · exact fun _ => hrow _ (by simp) (by simp)
  · exact fun _ => hrow _ (by simp) (by simp)
  · intro id'
    by_cases heq : id' = id
    · subst heq
      refine .inr ⟨case, case.retitle title, hcase, ?_, hsealed, hsealed, rfl⟩
      unfold retitle
      dsimp only
      rw [Function.update_of_ne (by simp), Function.update_self, hcase]
      rfl
    · exact .inl (hrow _ (by simpa using heq) (by simp))
  · intro f'
    by_cases heq : f' = f
    · subst heq
      refine .inr ⟨file, file.retitle title, hfile, ?_, ⟨id, hid, case, hcase, hsealed⟩, ?_⟩
      · unfold retitle
        dsimp only
        rw [Function.update_self, hfile]
        rfl
      · refine ⟨rfl, rfl, ?_, rfl⟩
        rw [FilingFile.retitle, List.map_map]
        rfl
    · exact .inl (hrow _ (by simp) (by simpa using heq))
  · exact fun _ _ _ => ⟨fun _ _ => hrow _ (by simp) (by simp), fun _ _ => hrow _ (by simp) (by simp)⟩
  · rfl
  · rfl
  · rfl
  · exact fun _ _ => ⟨rfl, rfl, rfl⟩
  · exact fun _ _ _ => rfl

/-- Who is not signed in gets the same answers under both titles. -/
theorem Tables.noninterference_retitled :
    SameAnswers (smallColumns.tables sealedPortal) ((smallColumns.tables sealedPortal).retitle 21 10 "E v F") none ∧
    ((sealedPortal.db (.case 21)).map fun c => (c.row.title, c.row.isSealed)) = some ("C v D", true) := by
  refine ⟨?_, by decide +kernel⟩
  have hcase : ((smallColumns.tables sealedPortal).db (.case 21)).any (fun c => c.row.isSealed) = true := by
    decide +kernel
  have hfile : ((smallColumns.tables sealedPortal).db (.envelope 10)).any
      (fun file => decide (file.filing.caseId = some 21)) = true := by
    decide +kernel
  obtain ⟨case, hcase, hsealed⟩ := (Option.any_eq_true _ _).1 hcase
  obtain ⟨file, hfile, hid⟩ := (Option.any_eq_true _ _).1 hfile
  exact Tables.noninterference (sealedPortal_run.linked smallColumns)
    (Tables.sealedAlike_retitle hcase hsealed hfile (of_decide_eq_true hid) "E v F") (Tables.stranger_none _)
    (Tables.stranger_none _)

end Muefs
