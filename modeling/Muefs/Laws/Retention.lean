import Muefs.Steps.Documents

/-!
# Court records are retained

* `KeysApart` : no two documents share a stored object, and no job of the cleanup queue names one that is in use;
* `FilingFile.Retained` : court documents, documents of closed filings and documents on the record are retained;
* `Undeleted` : an object that was never in the cleanup queue and that no cleanup deleted;
* `Run.record_retained` : all that the record of a filing lists is still there.
-/

namespace Muefs
open RowLocks

variable {cfg : Settings} {w₀ w w' : PortalWorld}

/-! ## Stored objects -/

/-- The store holds this document of the filing. -/
def HasDocument (db : Store) (f : FilingId) (d : FilingDocument) : Prop :=
  ∃ file, db (.envelope f) = some file ∧ d ∈ file.documents

/-- The store holds this public copy of the filing. -/
def HasCopy (db : Store) (f : FilingId) (c : DocumentPublicCopy) : Prop :=
  ∃ file, db (.envelope f) = some file ∧ c ∈ file.copies

theorem HasDocument.named {db : Store} {f : FilingId} {d : FilingDocument} (h : HasDocument db f d) :
    Named db d.fileKey.uuid := by
  obtain ⟨file, hfile, hd⟩ := h
  exact .part f file hfile (.document d hd (.inr rfl))

theorem HasCopy.named {db : Store} {f : FilingId} {c : DocumentPublicCopy} (h : HasCopy db f c) :
    Named db c.fileKey.uuid := by
  obtain ⟨file, hfile, hc⟩ := h
  exact .part f file hfile (.copy c hc (.inr rfl))

theorem Changes.documents {r : Request} {db : Store} {tr : Trace} (h : Changes cfg r db tr) :
    ∃ new : Option FilingDocument, ∀ f d', HasDocument (commit tr db) f d' →
      (∃ d, HasDocument db f d ∧ d.Grows d') ∨ (new = some d' ∧ r.receiver = some f ∧ DrewDocument tr d') := by
  have hfile : ∀ f, ∃ new : Option FilingDocument, ∀ d', HasDocument (commit tr db) f d' →
      (∃ d, HasDocument db f d ∧ d.Grows d') ∨ (new = some d' ∧ r.receiver = some f ∧ DrewDocument tr d') := by
    intro f
    rcases h (.envelope f) with heq | ⟨file', hfile', ⟨_, _, _, hnew⟩ | ⟨file, hfile, hstep⟩⟩
    · refine ⟨none, fun d' hd' => .inl ⟨d', ?_, .refl d'⟩⟩
      obtain ⟨file, hfile, hd⟩ := hd'
      exact ⟨file, heq ▸ hfile, hd⟩
    · refine ⟨none, fun d' ⟨file, hfile, hd⟩ => ?_⟩
      cases hfile.symm.trans hfile'
      rw [hnew.file_eq] at hd
      simp at hd
    · obtain ⟨new, hnew, hall⟩ := hstep.inserts
      refine ⟨new, fun d' ⟨file₁, hfile₁, hd'⟩ => ?_⟩
      cases hfile₁.symm.trans hfile'
      rcases hall d' hd' with ⟨d, hd, hg⟩ | hd'
      · exact .inl ⟨d, ⟨file, hfile, hd⟩, hg⟩
      · exact .inr ⟨hd', (hnew d' hd').receiver, (hnew d' hd').drew⟩
  cases hr : r.receiver with
  | none =>
    refine ⟨none, fun f d' hd' => .inl ?_⟩
    obtain ⟨new, hnew⟩ := hfile f
    exact (hnew d' hd').resolve_right fun h => by simp [hr] at h
  | some f₀ =>
    obtain ⟨new, hnew⟩ := hfile f₀
    refine ⟨new, fun f d' hd' => ?_⟩
    by_cases hf : f = f₀
    · subst hf
      exact hr ▸ hnew d' hd'
    · obtain ⟨new', hnew'⟩ := hfile f
      refine .inl ((hnew' d' hd').resolve_right fun h => hf ?_)
      exact (Option.some.inj (h.2.1.symm.trans hr))

theorem FileStep.copies_cases {r : Request} {db db' : Store} {tr : Trace} {f : FilingId} {file file' : FilingFile}
    (h : FileStep cfg r db db' tr f file file') : file'.copies = file.copies ∨ r.receiver = none := by
  cases h with
  | copyPrepared userId documentId title upload doc copy hr => exact .inr (by rw [hr]; rfl)
  | edited | uploaded | retired | erased => exact .inl rfl
  | accepted userId count time receivedAt seen order dated caseId a b t _ hr h hacc hreceived hdated hcase hrec =>
    exact .inl (hrec.copies_eq.trans hdated.copies_eq)
  | cmsFailed userId count time receivedAt seen order dated error t _ hr h hacc hreceived hdated hrec =>
    exact .inl (hrec.copies_eq.trans hdated.copies_eq)
  | feesAssessed _ _ _ _ _ _ _ _ hrec | feeReviewRequested _ _ _ _ _ _ _ hrec | waiverReferred _ _ _ _ _ _ _ _ hrec
  | waiverDecided _ _ _ _ _ _ _ _ _ _ hrec | submitted _ _ _ _ _ _ _ _ _ _ _ _ _ hrec
  | paid _ _ _ _ _ _ _ _ _ _ hrec | credited _ _ _ _ _ _ _ _ _ _ _ _ _ _ hrec
  | reversed _ _ _ _ _ _ _ _ _ _ _ hrec | declined _ _ _ _ _ _ _ _ _ _ _ _ hrec
  | dateOrdered _ _ _ _ _ _ _ _ hrec | published _ _ _ _ _ _ _ _ _ _ _ _ _ _ _ _ _ _ hrec
  | withheld _ _ _ _ _ _ _ _ hrec => exact .inl hrec.copies_eq

theorem Changes.copies {r : Request} {db : Store} {tr : Trace} (h : Changes cfg r db tr) {f : FilingId}
    {c : DocumentPublicCopy} (hc : HasCopy (commit tr db) f c) :
    HasCopy db f c ∨ (r.receiver = none ∧ DrewCopy tr c) := by
  obtain ⟨file₁, hfile₁, hc⟩ := hc
  rcases h (.envelope f) with heq | ⟨file', hfile', ⟨_, _, _, hnew⟩ | ⟨file, hfile, hstep⟩⟩
  · exact .inl ⟨file₁, heq ▸ hfile₁, hc⟩
  · cases hfile₁.symm.trans hfile'
    rw [hnew.file_eq] at hc
    simp at hc
  · cases hfile₁.symm.trans hfile'
    obtain ⟨cs, hcs, hdrew⟩ := hstep.grows.copies
    rcases hstep.copies_cases with heq | hr
    · exact .inl ⟨file, hfile, heq ▸ hc⟩
    · rw [hcs] at hc
      rcases List.mem_append.1 hc with hc | hc
      · exact .inl ⟨file, hfile, hc⟩
      · exact .inr ⟨hr, hdrew c hc⟩

/-- No document or copy is stored under this key. -/
def Unused (db : Store) (key : FileKey) : Prop :=
  (∀ f d, HasDocument db f d → d.fileKey ≠ key) ∧ ∀ f c, HasCopy db f c → c.fileKey ≠ key

theorem Unused.commit {r : Request} {db : Store} {tr : Trace} {key : FileKey} (h : Unused db key)
    (hc : Changes cfg r db tr) (hkey : ⟨.fresh, key.uuid⟩ ∉ tr) : Unused (commit tr db) key := by
  refine ⟨fun f d' hd' heq => ?_, fun f c hc' heq => ?_⟩
  · obtain ⟨_, hall⟩ := hc.documents
    rcases hall f d' hd' with ⟨d, hd, hg⟩ | ⟨_, _, hdrew⟩
    · exact h.1 f d hd (hg.fileKey.symm.trans heq)
    · exact hkey (heq ▸ hdrew.key)
  · rcases hc.copies hc' with hc' | ⟨_, hdrew⟩
    · exact h.2 f c hc' heq
    · exact hkey (heq ▸ hdrew.key)

/-- No two documents share a stored object, and no job of the cleanup queue names one that is in use. -/
structure KeysApart (db : Store) : Prop where
  documents : ∀ f₁ d₁ f₂ d₂, HasDocument db f₁ d₁ → HasDocument db f₂ d₂ → d₁.fileKey = d₂.fileKey →
    f₁ = f₂ ∧ d₁.id = d₂.id
  copies : ∀ f₁ d f₂ c, HasDocument db f₁ d → HasCopy db f₂ c → d.fileKey ≠ c.fileKey
  jobs : ∀ id job, db (.deletion id) = some job → Unused db job.fileKey

theorem KeysApart.congr {db db' : Store} (heq : ∀ g, isRow g = true → db' g = db g) (h : KeysApart db) :
    KeysApart db' := by
  have hdoc : ∀ f d, HasDocument db' f d → HasDocument db f d := fun f d ⟨file, hfile, hd⟩ =>
    ⟨file, heq (.envelope f) rfl ▸ hfile, hd⟩
  have hcopy : ∀ f c, HasCopy db' f c → HasCopy db f c := fun f c ⟨file, hfile, hc⟩ =>
    ⟨file, heq (.envelope f) rfl ▸ hfile, hc⟩
  refine ⟨fun f₁ d₁ f₂ d₂ h₁ h₂ => h.documents _ _ _ _ (hdoc _ _ h₁) (hdoc _ _ h₂),
    fun f₁ d f₂ c h₁ h₂ => h.copies _ _ _ _ (hdoc _ _ h₁) (hcopy _ _ h₂), fun id job hjob => ?_⟩
  obtain ⟨hd, hc⟩ := h.jobs id job (heq (.deletion id) rfl ▸ hjob)
  exact ⟨fun f d hd' => hd f d (hdoc f d hd'), fun f c hc' => hc f c (hcopy f c hc')⟩

theorem KeysApart.commit {r : Request} {db : Store} {tr : Trace} (h : KeysApart db) (hc : Changes cfg r db tr)
    (hold : ∀ n, Named db n → ⟨.fresh, n⟩ ∉ tr) : KeysApart (commit tr db) := by
  obtain ⟨new, hdocs⟩ := hc.documents
  have hnamed : ∀ f d, HasDocument db f d → ∀ d', DrewDocument tr d' → d.fileKey ≠ d'.fileKey :=
    fun f d hd d' hdrew heq => hold _ hd.named (heq ▸ hdrew.key)
  refine ⟨fun f₁ d₁ f₂ d₂ h₁ h₂ heq => ?_, fun f₁ d f₂ c h₁ h₂ heq => ?_, fun id job hjob => ?_⟩
  · rcases hdocs f₁ d₁ h₁ with ⟨e₁, he₁, hg₁⟩ | ⟨hn₁, hr₁, hw₁⟩ <;>
      rcases hdocs f₂ d₂ h₂ with ⟨e₂, he₂, hg₂⟩ | ⟨hn₂, hr₂, hw₂⟩
    · rw [hg₁.id, hg₂.id]
      refine h.documents _ _ _ _ he₁ he₂ ?_
      rw [← hg₁.fileKey, ← hg₂.fileKey, heq]
    · exact absurd (hg₁.fileKey ▸ heq) (hnamed _ _ he₁ _ hw₂)
    · exact absurd (hg₂.fileKey ▸ heq.symm) (hnamed _ _ he₂ _ hw₁)
    · cases hn₁.symm.trans hn₂
      exact ⟨Option.some.inj (hr₁.symm.trans hr₂), rfl⟩
  · rcases hdocs f₁ d h₁ with ⟨e, he, hg⟩ | ⟨hn, hr, hw⟩ <;> rcases hc.copies h₂ with h₂ | ⟨hr₂, hw₂⟩
    · exact h.copies _ _ _ _ he h₂ (hg.fileKey ▸ heq)
    · exact hold _ he.named (by rw [← hg.fileKey, heq]; exact hw₂.key)
    · exact hold _ h₂.named (heq ▸ hw.key)
    · simp [hr] at hr₂
  · rcases hc (.deletion id) with heq | hnone | ⟨job', hjob', ⟨job₀, hjob₀, hkey⟩ | ⟨file, doc, hfile, hd,
      hkey, _, herased⟩⟩
    · have hjob₀ : db (.deletion id) = some job := heq ▸ hjob
      exact (h.jobs id job hjob₀).commit hc (hold _ (.job id job hjob₀ rfl))
    · rw [hnone] at hjob
      cases hjob
    · cases hjob.symm.trans hjob'
      rw [hkey]
      exact (h.jobs id job₀ hjob₀).commit hc (hold _ (.job id job₀ hjob₀ rfl))
    · cases hjob.symm.trans hjob'
      have hhas : HasDocument db job.envelopeId doc := ⟨file, hfile, hd⟩
      rw [← hkey]
      refine ⟨fun f d' hd' heq => ?_, fun f c hc' heq => ?_⟩
      · rcases hdocs f d' hd' with ⟨e, he, hg⟩ | ⟨_, _, hw⟩
        · obtain ⟨rfl, hid⟩ := h.documents _ _ _ _ he hhas (hg.fileKey.symm.trans heq)
          obtain ⟨file₁, hfile₁, hd'⟩ := hd'
          cases hfile₁.symm.trans herased
          have := (List.mem_filter.1 hd').2
          simp [hg.id, hid] at this
        · exact hnamed _ _ hhas _ hw heq.symm
      · rcases hc.copies hc' with hc' | ⟨_, hw⟩
        · exact h.copies _ _ _ _ hhas hc' heq.symm
        · exact hold _ hhas.named (heq ▸ hw.key)

theorem Run.keysApart (h : Run cfg w₀ w) : KeysApart w.db := by
  refine Run.store_since ⟨h.start, .refl⟩ ⟨?_, ?_, ?_⟩ (fun _ _ => .congr) ?_ h.steps
  · intro f₁ d₁ _ _ ⟨file, hfile, _⟩
    rw [h.start.envelope f₁] at hfile
    cases hfile
  · intro f₁ d _ _ ⟨file, hfile, _⟩
    rw [h.start.envelope f₁] at hfile
    cases hfile
  · intro id job hjob
    rw [h.start.deletion id] at hjob
    cases hjob
  · intro w₁ sid s a hrun _ hc hI hchanges
    exact hI.commit hchanges fun n hn => (hrun.spent hn).not_drawn hc

theorem Run.queued_unused (h : Run cfg w₀ w) (hs : Steps (portal cfg) w w') {id : Nat} {job : StorageDeletion}
    (hjob : w.db (.deletion id) = some job) : Unused w'.db job.fileKey := by
  have hspent : w.Spent job.fileKey.uuid := h.spent (.job id job hjob rfl)
  refine h.store_since (I := fun db => Unused db job.fileKey) (h.keysApart.jobs id job hjob) ?_ ?_ hs
  · rintro db db' heq ⟨hd, hc⟩
    refine ⟨fun f d ⟨file, hfile, hmem⟩ => hd f d ⟨file, ?_, hmem⟩, fun f c ⟨file, hfile, hmem⟩ =>
      hc f c ⟨file, ?_, hmem⟩⟩
    · exact heq (.envelope f) rfl ▸ hfile
    · exact heq (.envelope f) rfl ▸ hfile
  · intro w₁ sid s a _ hs₁ hc hI hchanges
    exact hI.commit hchanges ((Steps.spent hs₁ hspent).not_drawn hc)

/-! ## The record -/

/-- Every document that the transaction lists is here, retained, with the contents it lists. -/
def ListsRetained (ds : List FilingDocument) (t : FilingTransaction) : Prop :=
  ∀ rs, t.details.documents = some rs → ∀ r ∈ rs, ∃ d ∈ ds, d.fingerprint = r.fingerprint ∧ d.retainedAt.isSome = true

theorem ListsRetained.keeps {ds ds' : List FilingDocument} {t : FilingTransaction} (h : ListsRetained ds t)
    (hk : Keeps ds ds') : ListsRetained ds' t := by
  intro rs hrs r hr
  obtain ⟨d, hd, hfp, hret⟩ := h rs hrs r hr
  obtain ⟨d', hd', hg⟩ := hk d hd hret
  exact ⟨d', hd', hg.fingerprint.trans hfp, hg.retained hret⟩

/-- Court documents, documents of closed filings and documents on the record are retained. -/
structure FilingFile.Retained (file : FilingFile) : Prop where
  court : ∀ d ∈ file.documents, courtDocumentTypes.contains d.documentTypeCode = true → d.retainedAt.isSome = true
  closed : file.filing.status.isOpen = false → ∀ d ∈ file.documents, d.isCurrent = true → d.retainedAt.isSome = true
  listed : ∀ t ∈ file.transactions, ListsRetained file.documents t

section Record

variable {r : Request} {db db' : Store} {tr : Trace} {f : FilingId} {file file' : FilingFile}

theorem listsRetained_current {ds : List FilingDocument} {t : FilingTransaction} {time : Instant}
    (hdocs : ds = file.documents.map (FilingDocument.retain time))
    (hlists : t.details.documents = some file.documentResponses) : ListsRetained ds t := by
  intro rs hrs r hr
  cases hlists.symm.trans hrs
  obtain ⟨d, hd, rfl⟩ := List.mem_map.1 hr
  obtain ⟨hd, hcurrent⟩ := List.mem_filter.1 hd
  refine ⟨d.retain time, hdocs ▸ List.mem_map_of_mem hd, ?_, FilingDocument.retained_retain _ hcurrent⟩
  rw [FilingDocument.retain_fingerprint, FilingDocument.response_fingerprint]

theorem listsRetained_single {ds : List FilingDocument} {t : FilingTransaction} {doc : FilingDocument} (hdoc : doc ∈ ds)
    (hretained : doc.retainedAt.isSome = true) (hlists : t.details.documents = some [doc.response]) :
    ListsRetained ds t := by
  intro rs hrs r hr
  cases hlists.symm.trans hrs
  rw [List.mem_singleton.1 hr]
  exact ⟨doc, hdoc, rfl, hretained⟩

theorem listsRetained_none {ds : List FilingDocument} {t : FilingTransaction} (h : t.details.documents = none) :
    ListsRetained ds t := by
  intro rs hrs
  rw [h] at hrs
  cases hrs

theorem Recorded.lists_none {event : EventType} {actorId : UserId} {key : Option Uuid} {details : Details}
    {t : FilingTransaction} (h : Recorded cfg tr file event actorId key details file' t)
    (hevent : event.isReceipt = false) (hdetails : details.documents = none) (ds : List FilingDocument) :
    ∀ u ∈ file'.transactions, u ∈ file.transactions ∨ ListsRetained ds u := by
  refine h.new (listsRetained_none ?_)
  rw [h.lists, hevent, if_neg (by simp), hdetails]

theorem FileStep.lists (h : FileStep cfg r db db' tr f file file') :
    ∀ t ∈ file'.transactions, t ∈ file.transactions ∨ ListsRetained file'.documents t := by
  cases h with
  | edited | uploaded | retired | erased | copyPrepared => exact fun t ht => .inl ht
  | feeReviewRequested userId data time t _ hr h hrec =>
    exact hrec.new (listsRetained_current hrec.documents_eq hrec.lists)
  | feesAssessed userId data a time t saved hr h hrec =>
    exact hrec.new (listsRetained_current hrec.documents_eq hrec.lists)
  | waiverDecided userId form time doc due t _ hr haction h hrec =>
    have hdocs := hrec.documents_eq
    have hlists := hrec.lists
    rw [form.action.event_isReceipt] at hdocs hlists
    refine hrec.new (listsRetained_single ?_ h.retained hlists)
    rw [hdocs]
    exact List.mem_append_right _ List.mem_cons_self
  | dateOrdered userId form doc change t _ hr h hrec =>
    refine hrec.new (listsRetained_single ?_ h.retained hrec.lists)
    rw [hrec.documents_eq]
    exact List.mem_append_right _ List.mem_cons_self
  | submitted userId key token seen caseType time date basis t _ hr h hdate hrec =>
    have hreceipt : file.filing.receiptEvent.isReceipt = true := by
      unfold FilingEnvelope.receiptEvent
      split <;> rfl
    have hdocs := hrec.documents_eq
    have hlists := hrec.lists
    rw [hreceipt, if_pos rfl] at hdocs hlists
    exact hrec.new (listsRetained_current hdocs hlists)
  | accepted userId count time receivedAt seen order dated caseId a b t _ hr h hacc hreceived hdated hcase hrec =>
    intro u hu
    rcases hrec.lists_none rfl rfl file'.documents u hu with hu | hu
    · exact hdated.new (fun _ _ _ => listsRetained_none) u hu
    · exact .inr hu
  | cmsFailed userId count time receivedAt seen order dated error t _ hr h hacc hreceived hdated hrec =>
    intro u hu
    rcases hrec.lists_none rfl rfl file'.documents u hu with hu | hu
    · exact hdated.new (fun _ _ _ => listsRetained_none) u hu
    · exact .inr hu
  | declined userId count action time status event reason t _ hr h haction hrec =>
    obtain ⟨_, _, rfl⟩ | ⟨_, _, rfl⟩ := haction <;> exact hrec.lists_none rfl rfl _
  | waiverReferred _ _ _ _ _ _ _ _ hrec | paid _ _ _ _ _ _ _ _ _ _ hrec | credited _ _ _ _ _ _ _ _ _ _ _ _ _ _ hrec
  | reversed _ _ _ _ _ _ _ _ _ _ _ hrec | published _ _ _ _ _ _ _ _ _ _ _ _ _ _ _ _ _ _ hrec
  | withheld _ _ _ _ _ _ _ _ hrec => exact hrec.lists_none rfl rfl _

theorem FileStep.retained (hwf : file.WellFormed f) (hI : file.Retained) (h : FileStep cfg r db db' tr f file file') :
    file'.Retained := by
  obtain ⟨new, hnew, hdocs⟩ := h.inserts
  refine ⟨fun d' hd' hcourt => ?_, fun hclosed d' hd' hcurrent => ?_, fun t ht => ?_⟩
  · rcases hdocs d' hd' with ⟨d, hd, hg⟩ | hd'
    · exact hg.retained (hI.court d hd (hg.documentTypeCode ▸ hcourt))
    · rcases (hnew d' hd').retained with hret | ⟨hnot, _⟩
      · exact hret
      · rw [hnot] at hcourt
        cases hcourt
  · rcases h.closes hclosed with hold | hall
    · rcases hdocs d' hd' with ⟨d, hd, hg⟩ | hd'
      · exact hg.retained (hI.closed hold d hd (hg.current hcurrent))
      · rcases (hnew d' hd').retained with hret | ⟨_, hopen, _⟩
        · exact hret
        · simp [hold] at hopen
    · exact hall d' hd' hcurrent
  · rcases h.lists t ht with ht | ht
    · exact (hI.listed t ht).keeps (h.keeps hwf)
    · exact ht

end Record

theorem Run.retained (h : Run cfg w₀ w) : ∀ f file, w.db (.envelope f) = some file → file.Retained := by
  refine h.file_invariant ?_ ?_
  · intro w sid s a f userId data key file' _ _ hnew
    rw [hnew.file_eq]
    exact ⟨by simp, by simp, by simp⟩
  · intro w sid s a f file file' hrun hc hfile hI hstep
    exact hstep.retained (hrun.wellFormed f file hfile) hI

/-! ## Public copies -/

theorem Run.looked_index (h : Run cfg w₀ w) {sid : Nat} {s : Session View Failure Response Request}
    (hs : w.sessions sid = some s) {id : DocumentId} {f g : FilingId} (hf : ⟨.look (.document id), some f⟩ ∈ s.trace)
    (hg : ⟨.look (.document id), some g⟩ ∈ s.trace) : f = g := by
  obtain ⟨hstart, hsteps⟩ := h
  induction hsteps generalizing s with
  | refl => exact absurd hs (by simp [hstart.idle sid])
  | @tail w₁ w₂ hsteps hstep ih =>
    have hrun : Run cfg w₀ w₁ := ⟨hstart, hsteps⟩
    have hnew : ∀ s₁ : Session View Failure Response Request, w₁.sessions sid = some s₁ →
        ∀ f' g' : FilingId, ⟨.look (.document id), some f'⟩ ∈ s₁.trace → w₁.db (.document id) = some g' → f' = g' := by
      intro s₁ h₁ f' g' hf' hg'
      obtain ⟨wa, ha, hab, hval⟩ := Steps.looked_at hstart.idle hsteps h₁ hf'
      rcases Run.indexed ⟨hstart, ha⟩ hab hval.symm with h | h
      · exact Option.some.inj (h.symm.trans hg')
      · simp [h] at hg'
    rcases hstep.session_cases hs with htr | ⟨s₁, h₁, _, htr, _⟩ | ⟨s₁, e, h₁, _, _, htr, ha, _⟩
    · simp [htr] at hf
    · exact ih h₁ (htr ▸ hf) (htr ▸ hg)
    · have hread : ∀ f' : FilingId, (⟨.look (.document id), some f'⟩ : Entry View) = e →
          w₁.db (.document id) = some f' := by
        rintro f' rfl
        exact ha.symm
      rw [htr, List.mem_append, List.mem_singleton] at hf hg
      rcases hf with hf₁ | hf₁ <;> rcases hg with hg₁ | hg₁
      · exact ih h₁ hf₁ hg₁
      · exact hnew s₁ h₁ f g hf₁ (hread g hg₁)
      · exact (hnew s₁ h₁ g f hg₁ (hread f hf₁)).symm
      · exact Option.some.inj ((hread f hf₁).symm.trans (hread g hg₁))

/-- The published copy is here, with the contents that the transaction lists, and its document is retained. -/
def PublishesRetained (file : FilingFile) (t : FilingTransaction) : Prop :=
  t.eventType = .publicCopyPublished → ∃ c ∈ file.copies, t.details.publicCopy = some c.response ∧
    ∃ d ∈ file.documents, t.details.documentId = some d.id ∧ c.documentId = d.id ∧ d.retainedAt.isSome = true

theorem PublishesRetained.grows {tr : Trace} {file file' : FilingFile} {t : FilingTransaction}
    (h : PublishesRetained file t) (hk : Keeps file.documents file'.documents) (hg : FileGrows tr file file') :
    PublishesRetained file' t := by
  intro ht
  obtain ⟨c, hc, hresp, d, hd, hdid, hcd, hret⟩ := h ht
  obtain ⟨cs, hcs, _⟩ := hg.copies
  obtain ⟨d', hd', hdd⟩ := hk d hd hret
  refine ⟨c, ?_, hresp, d', hd', ?_, ?_, hdd.retained hret⟩
  · rw [hcs]
    exact List.mem_append_left _ hc
  · rw [hdid, hdd.id]
  · rw [hcd, hdd.id]

/-- What a publication had read. -/
structure Published (r : Request) (tr : Trace) (f : FilingId) (file : FilingFile) (t : FilingTransaction)
    (doc : FilingDocument)
    (copy : DocumentPublicCopy) (rows : FilingFile) : Prop where
  found : file.document copy.documentId = some doc
  unblocked : publicationBlock doc file.filing = none
  indexed : ⟨.look (.document copy.documentId), some f⟩ ∈ tr
  seen : ∃ g probe, ⟨.look (.document copy.documentId), some g⟩ ∈ tr ∧ Seen tr g probe ∧ Seen tr probe.filing.id rows
  copy_mem : copy ∈ rows.copies
  document_eq : t.details.documentId = some copy.documentId
  copy_eq : t.details.publicCopy = some copy.response
  verified : CopyVerified tr copy
  request : ∃ userId data, r = .publishCopy userId copy.documentId copy.id data

theorem FileStep.publishes {r : Request} {db db' : Store} {tr : Trace} {f : FilingId} {file file' : FilingFile}
    (h : FileStep cfg r db db' tr f file file') : ∀ t ∈ file'.transactions, t ∈ file.transactions ∨
      (t.eventType = .publicCopyPublished → ∃ doc copy rows, Published r tr f file t doc copy rows) := by
  cases h with
  | edited | uploaded | retired | erased | copyPrepared => exact fun t ht => .inl ht
  | published userId documentId data doc copy g probe rows t _ hr h hblock hindexed hprobe hrows hcopy hdoc hrec =>
    subst hdoc hr
    refine hrec.new fun _ => ⟨doc, copy, rows, ?_⟩
    obtain ⟨why, hwhy⟩ := hrec.kept rfl (by simp)
    exact {
      found := h.found
      unblocked := hblock
      indexed := h.indexed
      seen := ⟨g, probe, hindexed, hprobe, hrows⟩
      copy_mem := hcopy
      document_eq := by rw [hwhy]
      copy_eq := by rw [hwhy]
      verified := h.verified
      request := ⟨userId, data, rfl⟩ }
  | accepted userId count time receivedAt seen order dated caseId a b t _ hr h hacc hreceived hdated hcase hrec =>
    exact hdated.other hrec rfl rfl (by simp) (by simp)
  | cmsFailed userId count time receivedAt seen order dated error t _ hr h hacc hreceived hdated hrec =>
    exact hdated.other hrec rfl rfl (by simp) (by simp)
  | declined userId count action time status event reason t _ hr h haction hrec =>
    obtain ⟨_, _, rfl⟩ | ⟨_, _, rfl⟩ := haction <;> exact hrec.other rfl (by simp)
  | submitted userId key token seen caseType time date basis t _ hr h hdate hrec =>
    refine hrec.other rfl ?_
    unfold FilingEnvelope.receiptEvent
    split <;> simp
  | waiverDecided userId form time doc due t _ hr haction h hrec =>
    exact hrec.other rfl (by cases form.action <;> simp [WaiverAction.event])
  | feeReviewRequested _ _ _ _ _ _ _ hrec | feesAssessed _ _ _ _ _ _ _ _ hrec | waiverReferred _ _ _ _ _ _ _ _ hrec
  | paid _ _ _ _ _ _ _ _ _ _ hrec | credited _ _ _ _ _ _ _ _ _ _ _ _ _ _ hrec
  | reversed _ _ _ _ _ _ _ _ _ _ _ hrec | dateOrdered _ _ _ _ _ _ _ _ hrec | withheld _ _ _ _ _ _ _ _ hrec =>
    exact hrec.other rfl (by simp)

theorem FilingFile.Retained.of_unblocked {file : FilingFile} {doc : FilingDocument} (h : file.Retained)
    (hdoc : doc ∈ file.documents) (hblock : publicationBlock doc file.filing = none) :
    doc.retainedAt.isSome = true := by
  unfold publicationBlock at hblock
  split at hblock
  · cases hblock
  split at hblock
  · cases hblock
  · rename_i hno
    rw [not_or, not_or] at hno
    obtain ⟨hremoved, hstatus, _⟩ := hno
    rw [Decidable.not_not] at hstatus
    by_cases hcourt : courtDocumentTypes.contains doc.documentTypeCode = true
    · exact h.court doc hdoc hcourt
    · refine h.closed (by rw [hstatus]; rfl) doc hdoc ?_
      rw [Bool.not_eq_true] at hcourt hremoved
      rw [FilingDocument.isCurrent, hcourt, ← Option.not_isSome, hremoved]
      rfl

theorem Run.published_here (h : Run cfg w₀ w) {sid : Nat} {s : Session View Failure Response Request} {a : Response}
    (hc : Commits (portal cfg) w sid s a) {f : FilingId} {file rows : FilingFile} {t : FilingTransaction}
    {doc : FilingDocument} {copy : DocumentPublicCopy} (hfile : w.db (.envelope f) = some file)
    (hp : Published s.request s.trace f file t doc copy rows) : copy ∈ file.copies := by
  obtain ⟨g, probe, hindexed, hprobe, hrows⟩ := hp.seen
  cases h.looked_index hc.found hp.indexed hindexed
  obtain ⟨w₁, hrun₁, _, hprobe⟩ := h.seen hc.found hprobe
  rw [(hrun₁.wellFormed f probe hprobe).id_eq] at hrows
  exact (h.seen_grew hc.found hrows hfile).copies.subset hp.copy_mem

theorem Run.publishes (h : Run cfg w₀ w) :
    ∀ f file, w.db (.envelope f) = some file → ∀ t ∈ file.transactions, PublishesRetained file t := by
  refine h.file_invariant ?_ ?_
  · intro w sid s a f userId data key file' _ _ hnew
    rw [hnew.file_eq]
    simp
  · intro w sid s a f file file' hrun hc hfile hI hstep t ht
    have hkeeps := hstep.keeps (hrun.wellFormed f file hfile)
    rcases hstep.publishes t ht with ht | hnew
    · exact (hI t ht).grows hkeeps hstep.grows
    · refine PublishesRetained.grows (fun hevent => ?_) hkeeps hstep.grows
      obtain ⟨doc, copy, rows, hp⟩ := hnew hevent
      obtain ⟨hdoc, hid⟩ := FilingFile.document_spec hp.found
      refine ⟨copy, hrun.published_here hc hfile hp, hp.copy_eq, doc, hdoc, ?_, hid.symm, ?_⟩
      · rw [hp.document_eq, hid]
      · exact (hrun.retained f file hfile).of_unblocked hdoc hp.unblocked

/-! ## The law -/

theorem cleanupNext_acts {id : Nat} {error : Option String} {tr : Trace} {q : Portal Response} {key : FileKey}
    {change : Option Content → Option Content} (h : (cleanupNext id error).After tr q)
    (hact : ⟨.act (.object key) change, ()⟩ ∈ tr) :
    ∃ job, ⟨.lock .update (.deletion id), some job⟩ ∈ tr ∧ job.fileKey = key := by
  refine (?_ : (cleanupNext id error).Along fun tr => ⟨.act (.object key) change, ()⟩ ∈ tr →
    ∃ job, ⟨.lock .update (.deletion id), some job⟩ ∈ tr ∧ job.fileKey = key) tr q h hact
  simp only [cleanupNext, deferDeletion, referenced, now, look, lockUpdate, write, act, Txn.now, Txn.look, Txn.lock,
    Txn.write, Txn.act, Txn.bind_ask, Txn.bind_done_left, Txn.along_ask, pure_bind]
  refine ⟨by simp, fun time => ⟨by simp, fun row => ?_⟩⟩
  split
  · simp [Txn.along_pure]
  · rename_i job hjob
    obtain ⟨rfl, _⟩ := Option.filter_eq_some_iff.1 hjob
    refine Txn.along_ask.2 ⟨by simp, fun used => ?_⟩
    split
    · simp [Txn.along_ask, Txn.along_pure]
    split
    · simp [Txn.along_ask, Txn.along_pure]
    · have hkey : (⟨.act (.object key) change, ()⟩ : Entry View) = ⟨.act (.object job.fileKey) fun _ => none, ()⟩ →
          job.fileKey = key := by
        intro h
        cases h
        rfl
      refine Txn.along_ask.2 ⟨by simp, fun _ => Txn.along_ask.2 ⟨fun hact => ⟨job, by simp, hkey ?_⟩, fun _ => ?_⟩⟩
      · simpa using hact
      · exact Txn.along_pure.2 fun hact => ⟨job, by simp, hkey (by simpa using hact)⟩

/-- The object was never in the cleanup queue, and no cleanup deleted it. -/
structure Undeleted (cfg : Settings) (w₀ w : PortalWorld) (key : FileKey) : Prop where
  unqueued : ∀ w₁, Run cfg w₀ w₁ → Steps (portal cfg) w₁ w → ∀ id job, w₁.db (.deletion id) = some job →
    job.fileKey ≠ key
  uncleaned : ∀ sid s id error change, w.sessions sid = some s → s.request = .cleanupNext id error →
    ⟨.act (.object key) change, ()⟩ ∉ s.trace

theorem Run.undeleted (h : Run cfg w₀ w) {key : FileKey} (hused : ¬ Unused w.db key) : Undeleted cfg w₀ w key := by
  have hunqueued : ∀ w₁, Run cfg w₀ w₁ → Steps (portal cfg) w₁ w → ∀ id job, w₁.db (.deletion id) = some job →
      job.fileKey ≠ key := by
    rintro w₁ hrun hs id job hjob rfl
    exact hused (hrun.queued_unused hs hjob)
  refine ⟨hunqueued, fun sid s id error change hs hreq hact => ?_⟩
  have hpath := h.guarded.path sid s hs
  have hafter : ∃ q, ((portal cfg).program s.request).After s.trace q := by
    unfold OnPath at hpath
    cases hst : s.status <;> rw [hst] at hpath
    case running | died => exact hpath
    case committed a => exact ⟨_, hpath⟩
    case failed x => exact ⟨_, hpath⟩
  obtain ⟨q, hq⟩ := hafter
  rw [hreq] at hq
  obtain ⟨job, hlock, hkey⟩ := cleanupNext_acts hq hact
  obtain ⟨w₁, h₁, h₂, hval⟩ := Steps.locked_at h.start.idle h.steps hs hlock
  exact hunqueued w₁ ⟨h.start, h₁⟩ h₂ id job hval.symm hkey

/-- **Whatever the record of a filing lists is still there:** the documents of every transaction, and the copy of every
publication with its document, with the contents that were recorded, retained and never given to the cleanup. -/
theorem Run.record_retained (h : Run cfg w₀ w) {f : FilingId} {file : FilingFile}
    (hfile : w.db (.envelope f) = some file) {t : FilingTransaction} (ht : t ∈ file.transactions) :
    (∀ rs, t.details.documents = some rs → ∀ r ∈ rs, ∃ d ∈ file.documents, d.id = r.id ∧ d.sha256Hash = r.sha256Hash ∧
      d.fileSizeBytes = r.fileSizeBytes ∧ d.retainedAt.isSome = true ∧ Undeleted cfg w₀ w d.fileKey) ∧
    (t.eventType = .publicCopyPublished → ∃ r, t.details.publicCopy = some r ∧ ∃ c ∈ file.copies, c.id = r.id ∧
      c.sha256Hash = r.sha256Hash ∧ c.fileSizeBytes = r.fileSizeBytes ∧ Undeleted cfg w₀ w c.fileKey ∧
      ∃ d ∈ file.documents, d.id = r.documentId ∧ d.retainedAt.isSome = true ∧ Undeleted cfg w₀ w d.fileKey) := by
  have hdoc : ∀ d ∈ file.documents, Undeleted cfg w₀ w d.fileKey :=
    fun d hd => h.undeleted fun hunused => hunused.1 f d ⟨file, hfile, hd⟩ rfl
  have hcopy : ∀ c ∈ file.copies, Undeleted cfg w₀ w c.fileKey :=
    fun c hc => h.undeleted fun hunused => hunused.2 f c ⟨file, hfile, hc⟩ rfl
  refine ⟨fun rs hrs r hr => ?_, fun hevent => ?_⟩
  · obtain ⟨d, hd, hfp, hret⟩ := (h.retained f file hfile).listed t ht rs hrs r hr
    simp only [FilingDocument.fingerprint, DocumentResponse.fingerprint, Prod.mk.injEq] at hfp
    exact ⟨d, hd, hfp.1, hfp.2.1, hfp.2.2, hret, hdoc d hd⟩
  · obtain ⟨c, hc, hresp, d, hd, _, hcd, hret⟩ := h.publishes f file hfile t ht hevent
    exact ⟨c.response, hresp, c, hc, rfl, rfl, rfl, hcopy c hc, d, hd, hcd.symm, hret, hdoc d hd⟩

/-- The document that the request listed is still there. -/
theorem Run.record_retained_feeReview :
    ∃ file, (smallWorld.serveAll (portal .demo) 0 feeReviewRequests).db (.envelope 10) = some file ∧
      ∃ t ∈ file.transactions, ∃ r rs, t.details.documents = some (r :: rs) ∧ ∃ d ∈ file.documents, d.id = r.id ∧
        Undeleted .demo smallWorld (smallWorld.serveAll (portal .demo) 0 feeReviewRequests) d.fileKey := by
  have hrun : Run .demo smallWorld (smallWorld.serveAll (portal .demo) 0 feeReviewRequests) :=
    .serveAll smallWorld_initial (by decide +kernel)
  have hsome : ((smallWorld.serveAll (portal .demo) 0 feeReviewRequests).db (.envelope 10)).any
      (fun file => file.transactions.any fun t => t.details.documents.any fun rs => !rs.isEmpty) = true := by
    decide +kernel
  obtain ⟨file, hfile, hsome⟩ := (Option.any_eq_true _ _).1 hsome
  obtain ⟨t, ht, hlists⟩ := List.any_eq_true.1 hsome
  obtain ⟨rs, hrs, hne⟩ := (Option.any_eq_true _ _).1 hlists
  cases rs with
  | nil => simp at hne
  | cons r rs =>
    obtain ⟨d, hd, hid, _, _, _, hkey⟩ := (Run.record_retained hrun hfile ht).1 _ hrs r List.mem_cons_self
    exact ⟨file, hfile, t, ht, r, rs, hrs, d, hd, hid, hkey⟩

end Muefs
