import Muefs.Deliveries.Runs
import Muefs.Steps.Documents

/-!
# Filings beside deliveries

* `BothRun.envelope_step` : a filing changes by a `FileStep` of a request of the portal, or is new;
* `BothRun.wellFormed`, `BothRun.file_since` : its numbers are unique; the rule for what its steps keep;
* `FileStep.mimeTypes` : documents keep their types;
* `Lasting`, `BothRun.document_lasts` : a retained document stays with its contents.
-/

namespace Muefs
open RowLocks

variable {cfg : Settings} {w₀ w w' : BothWorld}

/-! ## Steps -/

/-- A filing after a commit: as before, new, or after a `FileStep`. -/
inductive BothEnvelope (cfg : Settings) (db db' : BothStore) (tr : BothTrace) (f : FilingId) : Prop where
  | same (h : db' (.inl (.envelope f)) = db (.inl (.envelope f)))
  | created (r : Request) (tr₀ : Trace) (userId : UserId) (data : FilingEnvelopeCreate) (key : Uuid)
      (file' : FilingFile)
      (hside : Beside tr tr₀) (hfile' : db' (.inl (.envelope f)) = some file')
      (h : Created r (leftDb db) tr₀ f userId data key file')
  | step (r : Request) (tr₀ : Trace) (file file' : FilingFile) (hside : Beside tr tr₀)
      (hfile : db (.inl (.envelope f)) = some file) (hfile' : db' (.inl (.envelope f)) = some file')
      (h : FileStep cfg r (leftDb db) (leftDb db') tr₀ f file file')

theorem BothChanges.envelope {r : ServiceRequest} {db : BothStore} {tr : BothTrace} (h : BothChanges cfg r db tr)
    (f : FilingId) : BothEnvelope cfg db (commit tr db) tr f := by
  rcases h.left (.envelope f) with heq | ⟨r₀, tr₀, _, hside, hdb, hstep⟩
  · exact .same heq
  · have hrow : commit tr db (.inl (.envelope f)) = commit tr₀ (leftDb db) (.envelope f) := congrFun hdb (.envelope f)
    rw [← hdb] at hstep
    obtain ⟨file', hfile', ⟨userId, data, key, hnew⟩ | ⟨file, hfile, hfs⟩⟩ := hstep
    · exact .created r₀ tr₀ userId data key file' hside hfile' hnew
    · exact .step r₀ tr₀ file file' hside hfile hfile' hfs

theorem BothRun.not_drawn (h : BothRun cfg w₀ w) {sid : Nat} {s : BothSession} {a : ServiceResponse}
    (hc : Commits (bothPortal cfg) w sid s a) {tr₀ : Trace} (hside : Beside s.trace tr₀) {n : Nat}
    (hn : Named (leftDb w.db) n) : ⟨.fresh, n⟩ ∉ tr₀ := fun hfresh =>
  (h.spent (.portal hn)).not_drawn hc (hside.fresh.1 hfresh)

theorem BothRun.file_invariant {I : FilingId → FilingFile → Prop}
    (hnew : ∀ r db tr f userId data key file', Created r db tr f userId data key file' → I f file')
    (hstep : ∀ r db db' tr f file file', (∀ n, Named db n → ⟨.fresh, n⟩ ∉ tr) → db (.envelope f) = some file →
      I f file → FileStep cfg r db db' tr f file file' → I f file')
    (h : BothRun cfg w₀ w) : ∀ f file, w.db (.inl (.envelope f)) = some file → I f file := by
  have hstart : BothRun cfg w₀ w₀ := ⟨h.start, .refl⟩
  refine hstart.store_since (I := fun db => ∀ f file, db (.inl (.envelope f)) = some file → I f file) ?_ ?_ ?_ h.steps
  · intro f file hfile
    exact absurd ((h.start.portal.envelope f).symm.trans hfile) (by simp)
  · intro db db' heq hI f file hfile
    exact hI f file ((heq (.inl (.envelope f)) rfl).symm.trans hfile)
  · intro w₁ sid s a hrun _ hc hI hchanges f file hfile
    cases hchanges.envelope f with
    | same heq => exact hI f file (heq.symm.trans hfile)
    | created r tr₀ userId data key file' hside hfile' hcreated =>
      cases hfile.symm.trans hfile'
      exact hnew _ _ _ _ _ _ _ _ hcreated
    | step r tr₀ file₁ file' hside hfile₁ hfile' hfs =>
      cases hfile.symm.trans hfile'
      exact hstep _ _ _ _ _ _ _ (fun n hn => hrun.not_drawn hc hside hn) hfile₁ (hI f file₁ hfile₁) hfs

/-- **Filings are well formed.** -/
theorem BothRun.wellFormed (h : BothRun cfg w₀ w) :
    ∀ f file, w.db (.inl (.envelope f)) = some file → file.WellFormed f := by
  refine h.file_invariant ?_ ?_
  · intro r db tr f userId data key file' hnew
    rw [hnew.file_eq]
    exact ⟨rfl, List.nodup_nil, List.nodup_nil⟩
  · intro r db db' tr f file file' hold hfile hwf hstep
    refine ⟨hstep.grows.fixed.id.trans hwf.id_eq, ?_, ?_⟩
    · refine hstep.document_ids.nodup hwf.documents fun n hn => ?_
      obtain ⟨d, hd, hid⟩ := List.mem_map.1 hn
      exact hold n (.part f file hfile (.document d hd (.inl hid)))
    · refine hstep.payment_ids.nodup hwf.payments fun n hn => ?_
      obtain ⟨p, hp, hid⟩ := List.mem_map.1 hn
      exact hold n (.part f file hfile (.payment p hp hid))

/-- **A property that a filing has in one world and every step keeps, it has in every later world.** -/
theorem BothRun.file_since {f : FilingId} {file : FilingFile} {I : FilingFile → Prop} (h : BothRun cfg w₀ w)
    (hfile : w.db (.inl (.envelope f)) = some file) (h₀ : I file)
    (hstep : ∀ r db db' tr file₁ file₂, (∀ n, Named db n → ⟨.fresh, n⟩ ∉ tr) → db (.envelope f) = some file₁ →
      file₁.WellFormed f → I file₁ → FileStep cfg r db db' tr f file₁ file₂ → I file₂)
    (hs : Steps (bothPortal cfg) w w') : ∃ file', w'.db (.inl (.envelope f)) = some file' ∧ I file' := by
  refine h.store_since (I := fun db => ∃ file', db (.inl (.envelope f)) = some file' ∧ I file') ⟨file,
    hfile, h₀⟩ ?_ ?_ hs
  · rintro db db' heq ⟨file', hfile', hI⟩
    exact ⟨file', (heq (.inl (.envelope f)) rfl).trans hfile', hI⟩
  · intro w₁ sid s a hrun _ hc hI hchanges
    obtain ⟨file₁, hfile₁, hI⟩ := hI
    cases hchanges.envelope f with
    | same heq => exact ⟨file₁, heq.trans hfile₁, hI⟩
    | created r tr₀ userId data key file' hside hfile' hcreated =>
      have hnamed : Named (leftDb w₁.db) f := .filing (by rw [leftDb, hfile₁]; rfl)
      exact absurd hcreated.drew (hrun.not_drawn hc hside hnamed)
    | step r tr₀ file₂ file' hside hfile₂ hfile' hfs =>
      cases hfile₁.symm.trans hfile₂
      exact ⟨file', hfile', hstep _ _ _ _ _ _ (fun n hn => hrun.not_drawn hc hside hn) hfile₁
        (hrun.wellFormed f file₁ hfile₁) hI hfs⟩

/-! ## Documents -/

/-- Documents keep their types; the others are new. -/
def SameTypes (tr : Trace) (ds ds' : List FilingDocument) : Prop :=
  ∀ d' ∈ ds', (∃ d ∈ ds, d.id = d'.id ∧ d.mimeType = d'.mimeType) ∨ ⟨.fresh, d'.id⟩ ∈ tr

section Types

variable {tr : Trace} {ds ds' : List FilingDocument}

theorem SameTypes.of_subset (h : ds' ⊆ ds) : SameTypes tr ds ds' := fun d hd => .inl ⟨d, h hd, rfl, rfl⟩

theorem SameTypes.refl (tr : Trace) (ds : List FilingDocument) : SameTypes tr ds ds := .of_subset fun _ h => h

theorem SameTypes.map {step : FilingDocument → FilingDocument} (h : ∀ d, (step d).id = d.id)
    (htype : ∀ d, (step d).mimeType = d.mimeType) : SameTypes tr ds (ds.map step) := by
  intro d' hd'
  obtain ⟨d, hd, rfl⟩ := List.mem_map.1 hd'
  exact .inl ⟨d, hd, (h d).symm, (htype d).symm⟩

theorem SameTypes.retain (time : Instant) : SameTypes tr ds (ds.map (FilingDocument.retain time)) := by
  refine .map (FilingDocument.retain_id time) fun d => ?_
  unfold FilingDocument.retain
  split <;> rfl

theorem SameTypes.concat {d : FilingDocument} (h : NewDocument tr d) : SameTypes tr ds (ds ++ [d]) := by
  intro d' hd'
  rcases List.mem_append.1 hd' with hd' | hd'
  · exact .inl ⟨d', hd', rfl, rfl⟩
  · cases List.mem_singleton.1 hd'
    exact .inr h.id_new

end Types

/-- **No step changes the type of a document.** -/
theorem FileStep.mimeTypes {r : Request} {db db' : Store} {tr : Trace} {f : FilingId} {file file' : FilingFile}
    (h : FileStep cfg r db db' tr f file file') : SameTypes tr file.documents file'.documents := by
  cases h with
  | edited | copyPrepared => exact .refl tr _
  | uploaded userId key form upload doc request hr h => exact .concat h.new
  | retired => exact .map (fun d => by split <;> rfl) fun d => by split <;> rfl
  | erased => exact .of_subset fun d hd => List.mem_of_mem_filter hd
  | feeReviewRequested userId data time t _ hr h hrec =>
    rw [hrec.documents_eq]
    exact .retain time
  | feesAssessed userId data a time t saved hr h hrec =>
    rw [hrec.documents_eq]
    exact .retain time
  | waiverDecided userId form time doc due t _ hr haction h hrec =>
    rw [hrec.documents_eq, form.action.event_isReceipt]
    exact .concat h.new
  | dateOrdered userId form doc change t _ hr h hrec =>
    rw [hrec.documents_eq]
    exact .concat h.new
  | accepted userId count time receivedAt seen order dated caseId a b t _ hr h hacc hreceived hdated hcase hrec =>
    rw [hrec.documents_eq]
    exact hdated.documents_eq ▸ .refl tr _
  | cmsFailed userId count time receivedAt seen order dated error t _ hr h hacc hreceived hdated hrec =>
    rw [hrec.documents_eq]
    exact hdated.documents_eq ▸ .refl tr _
  | published userId documentId data doc copy g probe rows t _ hr h hblock hindexed hprobe hrows hcopy hdoc hrec =>
    rw [hrec.documents_eq]
    exact .map (fun d => by split <;> rfl) fun d => by split <;> rfl
  | withheld userId documentId data doc t _ hr h hrec =>
    rw [hrec.documents_eq]
    exact .map (fun d => by split <;> rfl) fun d => by split <;> rfl
  | submitted userId key token seen caseType time date basis t _ hr h hdate hrec =>
    rw [hrec.documents_eq]
    split
    · exact .retain _
    · exact .refl tr _
  | declined userId count action time status event reason t _ hr h haction hrec =>
    rw [hrec.documents_eq]
    obtain ⟨_, _, rfl⟩ | ⟨_, _, rfl⟩ := haction <;> exact .refl tr _
  | waiverReferred _ _ _ _ _ _ _ _ hrec | paid _ _ _ _ _ _ _ _ _ _ hrec | credited _ _ _ _ _ _ _ _ _ _ _ _ _ _ hrec
  | reversed _ _ _ _ _ _ _ _ _ _ _ hrec =>
    rw [hrec.documents_eq]
    exact .refl tr _

/-- A retained document is there with its contents. -/
def Lasting (d : FilingDocument) (file : FilingFile) : Prop :=
  ∃ d' ∈ file.documents, d.Grows d' ∧ d'.mimeType = d.mimeType

/-- **A retained document stays.** -/
theorem BothRun.document_lasts (h : BothRun cfg w₀ w) (hs : Steps (bothPortal cfg) w w') {f : FilingId}
    {file : FilingFile} (hfile : w.db (.inl (.envelope f)) = some file) {d : FilingDocument} (hd : d ∈ file.documents)
    (hretained : d.retainedAt.isSome = true) : ∃ file', w'.db (.inl (.envelope f)) = some file' ∧ Lasting d file' := by
  refine h.file_since hfile ⟨d, hd, .refl d, rfl⟩ ?_ hs
  intro r db db' tr file₁ file₂ hold hfile₁ hwf hI hstep
  obtain ⟨d₁, hd₁, hgrows, htype⟩ := hI
  obtain ⟨d₂, hd₂, hgrows₂⟩ := hstep.keeps hwf d₁ hd₁ (hgrows.retained hretained)
  refine ⟨d₂, hd₂, hgrows.trans hgrows₂, ?_⟩
  rcases hstep.mimeTypes d₂ hd₂ with ⟨d₃, hd₃, hid, htype₃⟩ | hfresh
  · rw [List.inj_on_of_nodup_map hwf.documents hd₃ hd₁ (hid.trans hgrows₂.id)] at htype₃
    exact htype₃.symm.trans htype
  · rw [hgrows₂.id] at hfresh
    exact absurd hfresh (hold _ (.part f file₁ hfile₁ (.document d₁ hd₁ (.inl rfl))))

end Muefs
