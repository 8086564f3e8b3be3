import Mathlib.Data.List.Nodup
import Muefs.Steps.Runs

/-!
# What persists from one world of a run to a later one

* `FilingFile.WellFormed` : the envelope has its own number, and numbers of documents and payments are unique;
* `Run.file_since` : a property that a filing has in one world and every step keeps, it has later;
* `Run.recorded_at` : the commit that recorded a transaction;
* `FilingFile.Grew`, `Run.grew` : a filing of an earlier world and the same filing later;
* `Run.seen` : the world in which an unlocked read saw a filing;
* `Run.indexed`, `Run.fee_fixed` : entries of documents do not move, and fees of case types do not change.
-/

namespace Muefs
open RowLocks

variable {cfg : Settings} {w₀ w w' : PortalWorld}

/-! ## Unique numbers -/

/-- The envelope has its own number, and numbers of documents and payments are unique. -/
structure FilingFile.WellFormed (f : FilingId) (file : FilingFile) : Prop where
  id_eq : file.filing.id = f
  documents : (file.documents.map FilingDocument.id).Nodup
  payments : (file.payments.map Payment.id).Nodup

/-- At most one number is added, and it was drawn. -/
inductive AddsOne (tr : Trace) (ns : List Nat) : List Nat → Prop where
  | none (ns' : List Nat) (h : ns'.Sublist ns) : AddsOne tr ns ns'
  | one (n : Nat) (h : ⟨.fresh, n⟩ ∈ tr) : AddsOne tr ns (ns ++ [n])

theorem AddsOne.refl (tr : Trace) (ns : List Nat) : AddsOne tr ns ns := .none _ (.refl _)

theorem AddsOne.nodup {tr : Trace} {ns ns' : List Nat} (h : AddsOne tr ns ns') (hns : ns.Nodup)
    (hnew : ∀ n ∈ ns, ⟨.fresh, n⟩ ∉ tr) : ns'.Nodup := by
  cases h with
  | none ns' h => exact h.nodup hns
  | one n h =>
    rw [List.nodup_append]
    refine ⟨hns, by simp, fun a ha b hb => ?_⟩
    rw [List.mem_singleton.1 hb]
    rintro rfl
    exact hnew a ha h

theorem map_id_map {α : Type} {id : α → Nat} {step : α → α} (h : ∀ a, id (step a) = id a) (l : List α) :
    (l.map step).map id = l.map id := by
  rw [List.map_map]
  exact List.map_congr_left fun a _ => h a

theorem FilingDocument.retain_id (time : Instant) (d : FilingDocument) : (d.retain time).id = d.id := by
  unfold retain
  split <;> rfl

theorem Recorded.document_ids {tr : Trace} {file file' : FilingFile} {event : EventType} {actorId : UserId}
    {key : Option Uuid} {details : Details} {t : FilingTransaction}
    (h : Recorded cfg tr file event actorId key details file' t) :
    file'.documents.map FilingDocument.id = file.documents.map FilingDocument.id := by
  rw [h.documents_eq]
  split
  · exact map_id_map (FilingDocument.retain_id _) _
  · rfl

theorem FileStep.document_ids {r : Request} {db db' : Store} {tr : Trace} {f : FilingId} {file file' : FilingFile}
    (h : FileStep cfg r db db' tr f file file') :
    AddsOne tr (file.documents.map FilingDocument.id) (file'.documents.map FilingDocument.id) := by
  have hmap : ∀ (step : FilingDocument → FilingDocument), (∀ d, (step d).id = d.id) →
      AddsOne tr (file.documents.map FilingDocument.id) ((file.documents.map step).map FilingDocument.id) :=
    fun step hstep => map_id_map hstep file.documents ▸ .refl tr _
  cases h with
  | edited => exact .refl tr _
  | uploaded userId key form upload doc request hr h =>
    rw [List.map_append]
    exact .one doc.id h.new.id_new
  | retired userId documentId doc time hr h hkeep => exact hmap _ fun d => by split <;> rfl
  | erased => exact .none _ (List.filter_sublist.map _)
  | feeReviewRequested userId data time t _ hr h hrec =>
    rw [hrec.document_ids]
    exact hmap _ (FilingDocument.retain_id time)
  | feesAssessed userId data a time t saved hr h hrec =>
    rw [hrec.document_ids]
    exact hmap _ (FilingDocument.retain_id time)
  | waiverDecided userId form time doc due t _ hr haction h hrec =>
    rw [hrec.document_ids, List.map_append]
    exact .one doc.id h.new.id_new
  | dateOrdered userId form doc change t _ hr h hrec =>
    rw [hrec.document_ids, List.map_append]
    exact .one doc.id h.new.id_new
  | accepted userId count time receivedAt seen order dated caseId a b t _ hr h hacc hreceived hdated hcase hrec =>
    rw [hrec.document_ids, hdated.documents_eq]
    exact .refl tr _
  | cmsFailed userId count time receivedAt seen order dated error t _ hr h hacc hreceived hdated hrec =>
    rw [hrec.document_ids, hdated.documents_eq]
    exact .refl tr _
  | copyPrepared => exact .refl tr _
  | published userId documentId data doc copy g probe rows t _ hr h hblock hindexed hprobe hrows hcopy hdoc hrec =>
    rw [hrec.document_ids]
    exact hmap _ fun d => by split <;> rfl
  | withheld userId documentId data doc t _ hr h hrec =>
    rw [hrec.document_ids]
    exact hmap _ fun d => by split <;> rfl
  | waiverReferred _ _ _ _ _ _ _ _ hrec | paid _ _ _ _ _ _ _ _ _ _ hrec | credited _ _ _ _ _ _ _ _ _ _ _ _ _ _ hrec
  | reversed _ _ _ _ _ _ _ _ _ _ _ hrec | submitted _ _ _ _ _ _ _ _ _ _ _ _ _ hrec
  | declined _ _ _ _ _ _ _ _ _ _ _ _ hrec =>
    rw [hrec.document_ids]
    exact .refl tr _

theorem FileStep.payment_ids {r : Request} {db db' : Store} {tr : Trace} {f : FilingId} {file file' : FilingFile}
    (h : FileStep cfg r db db' tr f file file') :
    AddsOne tr (file.payments.map Payment.id) (file'.payments.map Payment.id) := by
  cases h with
  | edited | uploaded | retired | erased | copyPrepared => exact .refl tr _
  | paid userId data caseType payment snapshot t _ hr hf h hrec =>
    rw [hrec.payments_eq, List.map_append]
    exact .one _ h.id_new
  | credited userId key data account caseType basis id snapshot t _ hr h hid hamount hrec =>
    rw [hrec.payments_eq, List.map_append]
    exact .one _ h.id_new
  | reversed userId paymentId data payment snapshot t _ hr h hid hamount hrec =>
    rw [hrec.payments_eq]
    have hsame : (file.setStatus paymentId .reversed).payments.map Payment.id = file.payments.map Payment.id :=
      map_id_map (fun p => by split <;> rfl) file.payments
    exact hsame ▸ .refl tr _
  | accepted userId count time receivedAt seen order dated caseId a b t _ hr h hacc hreceived hdated hcase hrec =>
    rw [hrec.payments_eq, hdated.payments_eq]
    exact .refl tr _
  | cmsFailed userId count time receivedAt seen order dated error t _ hr h hacc hreceived hdated hrec =>
    rw [hrec.payments_eq, hdated.payments_eq]
    exact .refl tr _
  | feesAssessed _ _ _ _ _ _ _ _ hrec | feeReviewRequested _ _ _ _ _ _ _ hrec | waiverReferred _ _ _ _ _ _ _ _ hrec
  | waiverDecided _ _ _ _ _ _ _ _ _ _ hrec | submitted _ _ _ _ _ _ _ _ _ _ _ _ _ hrec
  | declined _ _ _ _ _ _ _ _ _ _ _ _ hrec | dateOrdered _ _ _ _ _ _ _ _ hrec
  | published _ _ _ _ _ _ _ _ _ _ _ _ _ _ _ _ _ _ hrec | withheld _ _ _ _ _ _ _ _ hrec =>
    rw [hrec.payments_eq]
    exact .refl tr _

/-! ## Runs -/

theorem Run.part_spent (h : Run cfg w₀ w) {f : FilingId} {file : FilingFile} (hfile : w.db (.envelope f) = some file)
    {n : Nat} (hn : file.Names n) : w.Spent n := h.spent (.part f file hfile hn)

theorem Run.not_drawn (h : Run cfg w₀ w) {sid : Nat} {s : Session View Failure Response Request} {a : Response}
    (hc : Commits (portal cfg) w sid s a) {f : FilingId} {file : FilingFile} (hfile : w.db (.envelope f) = some file)
    {n : Nat} (hn : file.Names n) : ⟨.fresh, n⟩ ∉ s.trace := (h.part_spent hfile hn).not_drawn hc

theorem Run.wellFormed (h : Run cfg w₀ w) : ∀ f file, w.db (.envelope f) = some file → file.WellFormed f := by
  refine h.file_invariant ?_ ?_
  · intro w sid s a f userId data key file' _ _ hnew
    rw [hnew.file_eq]
    exact ⟨rfl, List.nodup_nil, List.nodup_nil⟩
  · intro w sid s a f file file' hrun hc hfile hwf hstep
    refine ⟨hstep.grows.fixed.id.trans hwf.id_eq, ?_, ?_⟩
    · refine hstep.document_ids.nodup hwf.documents fun n hn => ?_
      obtain ⟨d, hd, hid⟩ := List.mem_map.1 hn
      exact hrun.not_drawn hc hfile (.document d hd (.inl hid))
    · refine hstep.payment_ids.nodup hwf.payments fun n hn => ?_
      obtain ⟨p, hp, hid⟩ := List.mem_map.1 hn
      exact hrun.not_drawn hc hfile (.payment p hp hid)

theorem Run.created_none (h : Run cfg w₀ w) {sid : Nat} {s : Session View Failure Response Request} {a : Response}
    (hc : Commits (portal cfg) w sid s a) {f : FilingId} {userId : UserId} {data : FilingEnvelopeCreate} {key : Uuid}
    {file' : FilingFile} (hnew : Created s.request w.db s.trace f userId data key file') :
    w.db (.envelope f) = none := by
  rw [← Option.not_isSome_iff_eq_none]
  intro hsome
  exact (h.spent (.filing hsome)).not_drawn hc hnew.drew

theorem Run.file_along {R : PortalWorld → PortalWorld → Prop} (hR : ∀ a b, R a b → Step (portal cfg) a b) {f : FilingId}
    {file : FilingFile} {I : FilingFile → Prop} (h : Run cfg w₀ w) (hfile : w.db (.envelope f) = some file)
    (h₀ : I file)
    (hstep : ∀ w₁ sid s a file₁ file₂, Run cfg w₀ w₁ → Steps (portal cfg) w w₁ → R w₁ (w₁.committed sid s a) →
      Commits (portal cfg) w₁ sid s a → w₁.db (.envelope f) = some file₁ → I file₁ →
      FileStep cfg s.request w₁.db (commit s.trace w₁.db) s.trace f file₁ file₂ → I file₂)
    (hs : Relation.ReflTransGen R w w') : ∃ file', w'.db (.envelope f) = some file' ∧ I file' := by
  induction hs with
  | refl => exact ⟨file, hfile, h₀⟩
  | @tail w₁ w₂ hs h₁ ih =>
    obtain ⟨file₁, hfile₁, hI⟩ := ih
    have hsteps := Relation.ReflTransGen.mono hR _ _ hs
    have hrun := h.trans hsteps
    cases hrun.envelope_change (hR _ _ h₁) f with
    | same heq => exact ⟨file₁, heq.trans hfile₁, hI⟩
    | created sid s a userId data key file' hc hw' hfile' hnew =>
      exact absurd (hrun.created_none hc hnew) (by simp [hfile₁])
    | step sid s a file₂ file' hc hw' hfile₂ hfile' hfs =>
      cases hfile₁.symm.trans hfile₂
      subst hw'
      exact ⟨file', hfile', hstep _ _ _ _ _ _ hrun hsteps h₁ hc hfile₁ hI hfs⟩

/-- **A property that a filing has in one world and every step keeps, it has in every later world.** -/
theorem Run.file_since {f : FilingId} {file : FilingFile} {I : FilingFile → Prop} (h : Run cfg w₀ w)
    (hfile : w.db (.envelope f) = some file) (h₀ : I file)
    (hstep : ∀ w₁ sid s a file₁ file₂, Run cfg w₀ w₁ → Steps (portal cfg) w w₁ → Commits (portal cfg) w₁ sid s a →
      w₁.db (.envelope f) = some file₁ → I file₁ →
      FileStep cfg s.request w₁.db (commit s.trace w₁.db) s.trace f file₁ file₂ → I file₂)
    (hs : Steps (portal cfg) w w') : ∃ file', w'.db (.envelope f) = some file' ∧ I file' :=
  h.file_along (fun _ _ hstep => hstep) hfile h₀
    (fun _ _ _ _ _ _ hrun hsteps _ hc hfile₁ hI hfs => hstep _ _ _ _ _ _ hrun hsteps hc hfile₁ hI hfs) hs

/-- The commit that recorded a transaction of a filing. -/
structure RecordedAt (cfg : Settings) (w₀ w : PortalWorld) (f : FilingId) (t : FilingTransaction) (w₁ : PortalWorld)
    (sid : Nat) (s : Session View Failure Response Request) (a : Response) (file file' : FilingFile) : Prop where
  run : Run cfg w₀ w₁
  commits : Commits (portal cfg) w₁ sid s a
  later : Steps (portal cfg) (w₁.committed sid s a) w
  before : w₁.db (.envelope f) = some file
  after : (w₁.committed sid s a).db (.envelope f) = some file'
  absent : t ∉ file.transactions
  mem : t ∈ file'.transactions
  step : FileStep cfg s.request w₁.db (commit s.trace w₁.db) s.trace f file file'

/-- **Every transaction of a filing was recorded by a step of it.** -/
theorem Run.recorded_at (h : Run cfg w₀ w) {f : FilingId} {file : FilingFile} (hfile : w.db (.envelope f) = some file)
    {t : FilingTransaction} (ht : t ∈ file.transactions) :
    ∃ w₁ sid s a file₁ file₂, RecordedAt cfg w₀ w f t w₁ sid s a file₁ file₂ := by
  let P : PortalWorld → Prop := fun w => ∃ file, w.db (.envelope f) = some file ∧ t ∈ file.transactions
  have h₀ : ¬ P w₀ := fun ⟨file, hfile, _⟩ => by simp [h.start.envelope f] at hfile
  obtain ⟨w₁, w₂, hs₁, hs, hs₂, hnot, file₂, hfile₂, ht₂⟩ := h.steps.born h₀ ⟨file, hfile, ht⟩
  have h₁ : Run cfg w₀ w₁ := ⟨h.start, hs₁⟩
  cases h₁.envelope_change hs f with
  | same heq => exact absurd ⟨file₂, heq ▸ hfile₂, ht₂⟩ hnot
  | created sid s a userId data key file' hc hw' hfile' hnew =>
    cases hfile₂.symm.trans hfile'
    rw [hnew.file_eq] at ht₂
    cases ht₂
  | step sid s a file₁ file' hc hw' hfile₁ hfile' hstep =>
    cases hfile₂.symm.trans hfile'
    subst hw'
    exact ⟨w₁, sid, s, a, file₁, file₂, h₁, hc, hs₂, hfile₁, hfile', fun hmem => hnot ⟨file₁, hfile₁, hmem⟩, ht₂, hstep⟩

theorem RecordedAt.run_after {f : FilingId} {t : FilingTransaction} {w₁ : PortalWorld} {sid : Nat}
    {s : Session View Failure Response Request} {a : Response} {file file' : FilingFile}
    (h : RecordedAt cfg w₀ w f t w₁ sid s a file file') : Run cfg w₀ (w₁.committed sid s a) :=
  h.run.tail (.commit sid s a h.commits)

/-- A filing of an earlier world and the same filing later. -/
structure FilingFile.Grew (file file' : FilingFile) : Prop where
  fixed : file.filing.Fixed file'.filing
  counts : file.filing.Counts file'.filing
  documents : ∀ d ∈ file.documents, ∀ d' ∈ file'.documents, d'.id = d.id → d.Grows d'
  transactions : file.transactions <+: file'.transactions
  copies : file.copies <+: file'.copies

/-- **Filings only grow.** -/
theorem Run.grew (h : Run cfg w₀ w) (hs : Steps (portal cfg) w w') {f : FilingId} {file : FilingFile}
    (hfile : w.db (.envelope f) = some file) : ∃ file', w'.db (.envelope f) = some file' ∧ file.Grew file' := by
  refine h.file_since hfile ?_ ?_ hs
  · refine ⟨.refl _, .refl _, fun d hd d' hd' hid => ?_, List.prefix_refl _, List.prefix_refl _⟩
    have hnodup := (h.wellFormed f file hfile).documents
    rw [List.inj_on_of_nodup_map hnodup hd' hd hid]
    exact .refl d
  · intro w₁ sid s a file₁ file₂ hrun hs₁ hc hfile₁ hg hstep
    have hgrows := hstep.grows
    refine ⟨hg.fixed.trans hgrows.fixed, hg.counts.trans hgrows.counts, fun d hd d₂ hd₂ hid => ?_, ?_, ?_⟩
    · rcases hgrows.documents d₂ hd₂ with ⟨d₁, hd₁, hd₁₂⟩ | hnew
      · exact (hg.documents d hd d₁ hd₁ (hd₁₂.id.symm.trans hid)).trans hd₁₂
      · have hspent := Steps.spent hs₁ (h.part_spent hfile (.document d hd (.inl hid.symm)))
        exact absurd hnew.id (hspent.not_drawn hc)
    · obtain ⟨ts, hts, _⟩ := hgrows.transactions
      exact hg.transactions.trans ⟨ts, hts.symm⟩
    · obtain ⟨cs, hcs, _⟩ := hgrows.copies
      exact hg.copies.trans ⟨cs, hcs.symm⟩

theorem Run.grew_to (h : Run cfg w₀ w) (hs : Steps (portal cfg) w w') {f : FilingId} {file file' : FilingFile}
    (hfile : w.db (.envelope f) = some file) (hfile' : w'.db (.envelope f) = some file') : file.Grew file' := by
  obtain ⟨file₁, hfile₁, hg⟩ := h.grew hs hfile
  cases hfile₁.symm.trans hfile'
  exact hg

/-- **An unlocked read of a filing saw it in an earlier world of the run.** -/
theorem Run.seen (h : Run cfg w₀ w) {sid : Nat} {s : Session View Failure Response Request}
    (hs : w.sessions sid = some s) {f : FilingId} {seen : FilingFile} (hseen : Seen s.trace f seen) :
    ∃ w₁, Run cfg w₀ w₁ ∧ Steps (portal cfg) w₁ w ∧ w₁.db (.envelope f) = some seen := by
  obtain ⟨w₁, h₁, h₂, hval⟩ := Steps.looked_at h.start.idle h.steps hs hseen
  exact ⟨w₁, ⟨h.start, h₁⟩, h₂, hval.symm⟩

theorem Run.seen_grew (h : Run cfg w₀ w) {sid : Nat} {s : Session View Failure Response Request}
    (hs : w.sessions sid = some s) {f : FilingId} {seen file : FilingFile} (hseen : Seen s.trace f seen)
    (hfile : w.db (.envelope f) = some file) : seen.Grew file := by
  obtain ⟨w₁, h₁, h₂, hval⟩ := h.seen hs hseen
  exact h₁.grew_to h₂ hval hfile

/-! ## Index entries and case types -/

theorem Run.store_since {I : Store → Prop} (h : Run cfg w₀ w) (h₀ : I w.db)
    (hrows : ∀ db db' : Store, (∀ g, isRow g = true → db' g = db g) → I db → I db')
    (hstep : ∀ w₁ sid s a, Run cfg w₀ w₁ → Steps (portal cfg) w w₁ → Commits (portal cfg) w₁ sid s a → I w₁.db →
      Changes cfg s.request w₁.db s.trace → I (commit s.trace w₁.db))
    (hs : Steps (portal cfg) w w') : I w'.db := by
  induction hs with
  | refl => exact h₀
  | @tail w₁ w₂ hs h₁ ih =>
    have hrun := h.trans hs
    rcases Run.step_cases h₁ with heq | ⟨sid, s, a, hc, rfl⟩
    · exact hrows _ _ heq ih
    · exact hstep _ _ _ _ hrun hs hc ih (hrun.changes hc)

theorem Run.row_since {g : Row} (hg : isRow g = true) {I : View g → Prop} (h : Run cfg w₀ w) (h₀ : I (w.db g))
    (hstep : ∀ w₁ sid s a, Run cfg w₀ w₁ → Steps (portal cfg) w w₁ → Commits (portal cfg) w₁ sid s a → I (w₁.db g) →
      RowStep cfg s.request w₁.db (commit s.trace w₁.db) s.trace g (commit s.trace w₁.db g) →
      I (commit s.trace w₁.db g)) (hs : Steps (portal cfg) w w') : I (w'.db g) := by
  refine h.store_since (I := fun db => I (db g)) h₀ (fun db db' heq hI => ?_) ?_ hs
  · rw [heq g hg]
    exact hI
  · intro w₁ sid s a hrun hs₁ hc hI hchanges
    rcases hchanges g with heq | hrow
    · rw [heq]
      exact hI
    · exact hstep _ _ _ _ hrun hs₁ hc hI hrow

theorem Run.case_absent (h : Run cfg w₀ w) {id : CaseId} (hnone : w.db (.case id) = none) :
    w₀.db (.case id) = none := by
  cases hsome : w₀.db (.case id) with
  | none => rfl
  | some c =>
    have hkept : (w.db (.case id)).isSome = true := by
      refine Run.row_since (g := .case id) rfl (I := fun v => v.isSome = true) ⟨h.start, .refl⟩ (by rw [hsome]; rfl)
        (fun w₁ sid s a _ _ _ _ hstep => ?_) h.steps
      obtain ⟨c', hc', _⟩ := hstep
      rw [hc']
      rfl
    rw [hnone] at hkept
    cases hkept

/-- **The entry of a document keeps its filing as long as it is there.** -/
theorem Run.indexed (h : Run cfg w₀ w) (hs : Steps (portal cfg) w w') {id : DocumentId} {f : FilingId}
    (hf : w.db (.document id) = some f) : w'.db (.document id) = some f ∨ w'.db (.document id) = none := by
  refine h.row_since (g := .document id) rfl (I := fun v : Option FilingId => v = some f ∨ v = none) (.inl hf) ?_ hs
  intro w₁ sid s a _ hs₁ hc _ hrow
  rcases hrow with hnone | hfresh
  · exact .inr hnone
  · have hspent := Steps.spent hs₁ (h.spent (.document (Option.isSome_of_eq_some hf)))
    exact absurd hfresh (hspent.not_drawn hc)

/-- **The fee of a case type does not change.** -/
theorem Run.fee_fixed (h : Run cfg w₀ w) (hs : Steps (portal cfg) w w') (id : CaseTypeId) :
    (w'.db (.caseType id)).map CaseType.filingFeeCents = (w.db (.caseType id)).map CaseType.filingFeeCents := by
  refine h.row_since (g := .caseType id) rfl
    (I := fun v : Option CaseType => v.map CaseType.filingFeeCents = (w.db (.caseType id)).map CaseType.filingFeeCents)
    rfl ?_ hs
  rintro w₁ sid s a _ _ _ hI ⟨caseType, active, hold, hnew⟩
  rw [← hI, hold, hnew]
  rfl

end Muefs
