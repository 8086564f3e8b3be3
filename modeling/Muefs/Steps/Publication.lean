import Muefs.Steps.Opening

/-!
# What filing-date orders, public copies and storage cleanup change

`recordFilingDateOrder_changes`, `prepareCopy_changes`, `publishCopy_changes`, `withholdDocument_changes` and
`cleanupNext_changes` : each makes its own changes and no others.
-/

namespace Muefs
open RowLocks

variable {cfg : Settings} {db : Store} {userId : UserId} {f : FilingId} {documentId : DocumentId}

/-! ## Filing-date orders -/

theorem dateFiling_meets {row : Option FilingFile} {account : Option Account} :
    Meets db (dateFiling row userId account) fun tr file => tr = [] ∧ row = some file ∧
      (∃ a, account = some a ∧ a.isCourtStaff file.filing.courtId = true) ∧ file.filing.filerId ≠ userId := by
  simp only [dateFiling, meets_bind, meets_expect, meets_require, meets_pure]
  intro file hrow hstaff hother
  exact ⟨rfl, hrow, by simpa [Option.any_eq_true] using hstaff, hother⟩

theorem orderable_meets {file : FilingFile} {expected : Nat} :
    Meets db (orderable file expected) fun tr _ => tr = [] ∧ orderBlock file.filing = none := by
  simp only [orderable, meets_bind, meets_require]
  exact fun h _ => ⟨rfl, h⟩

theorem changeCaseDate_meets {filing : FilingEnvelope} {form : DateOrderForm} :
    Meets db (changeCaseDate filing form) fun tr _ => ∀ P : (g : Row) → View g → Prop,
      (∀ id c c', db (.case id) = some c → c'.row.courtId = c.row.courtId → c'.row.caseTypeId = c.row.caseTypeId →
        c'.row.caseNumber = c.row.caseNumber → c.SameAccess c' → P (.case id) (some c')) → Writes P tr := by
  simp only [changeCaseDate, meets_ite, meets_bind, meets_expect, meets_lock, meets_require, meets_write, meets_pure]
  refine ⟨fun _ caseId _ case hcase _ P hP => ?_, fun _ P _ => trivial⟩
  simp only [Writes, List.append_nil, List.nil_append, List.cons_append, and_true]
  exact fun _ => hP caseId case _ (Option.filter_eq_some_iff.1 hcase).1 rfl rfl rfl ⟨rfl, rfl, rfl, rfl⟩

theorem orderLocked_changes (cfg : Settings) {form : DateOrderForm} {fileKey : FileKey} {content : Content}
    {screening : Screening} (pre : Trace) (hpre : Quiet pre) (hkey : ⟨.fresh, fileKey.uuid⟩ ∈ pre) :
    Meets db (orderLocked cfg userId f form fileKey content screening) fun tr _ =>
      Changes cfg (.recordFilingDateOrder userId f form) db (pre ++ tr) := by
  simp only [orderLocked, meets_bind, meets_lockFiling, meets_now, meets_saveFiling, meets_pure]
  refine lockCurrentUser_meets.mono ?_
  rintro tr₁ account ⟨h₁, hactive⟩
  refine dateFiling_meets.mono ?_
  rintro _ file ⟨rfl, hdb, ⟨_, ⟨⟩, hstaff⟩, hother⟩
  refine orderable_meets.mono ?_
  rintro _ _ ⟨rfl, hblock⟩
  refine changeCaseDate_meets.mono fun tr₂ change h₂ time => insertDocument_meets.mono ?_
  rintro tr₃ doc ⟨h₃, hid, at_, hdoc⟩
  refine (recordTransaction_meets cfg db _ _ _ _ _ _).mono ?_
  rintro tr₄ ⟨saved, t⟩ ⟨h₄, hrec⟩
  have hfields : doc.fileKey = fileKey ∧ doc.removedAt = none ∧ doc.publicCopyId = none ∧ doc.retainedAt.isSome = true ∧
      doc.documentTypeCode = "FILING_DATE_ORDER" := by
    rw [hdoc]
    exact ⟨rfl, rfl, rfl, rfl, rfl⟩
  refine .of_writes ?_
  simp only [writes_append, hpre.writes, h₁.writes, Writes, true_and, and_true]
  refine ⟨h₂ _ fun id c c' hc h h' h'' hsame => ⟨c', rfl, .inl ⟨c, hc, h, h', h'', .inl hsame⟩⟩, h₃.mono ?_,
    IsNotice.rowStep f ?_ hrec.notice h₄, fun _ => ⟨saved, rfl, .inr
    ⟨file, hdb, .dateOrdered userId form doc change t saved rfl ?_ (hrec.mono ?_)⟩⟩⟩
  · rintro g v rfl
    exact .inr (by simp [hid])
  · simp [commit_append, commit, Op.applied]
  · exact {
      staff := ⟨⟨account, hactive, hstaff⟩, hother⟩
      unblocked := hblock
      new := ⟨by simp [hid], by simp [hfields.1, hkey], hfields.2.1, hfields.2.2.1⟩
      retained := hfields.2.2.2.1
      type_eq := hfields.2.2.2.2 }
  · intro e he _
    simp [he]

theorem recordFilingDateOrder_changes {form : DateOrderForm} :
    Meets db (recordFilingDateOrder cfg userId f form) fun tr _ =>
      Changes cfg (.recordFilingDateOrder userId f form) db tr := by
  simp only [recordFilingDateOrder, meets_bind, meets_require, meets_look, meets_newId, meets_act, meets_onRaise]
  refine fun _ _ row account => dateFiling_meets.mono fun tr₁ file h₁ => orderable_meets.mono fun tr₂ _ h₂ =>
    inspectUpload_meets.mono ?_
  rintro tr₃ r ⟨h₃, _⟩ uuid
  refine (orderLocked_changes cfg ([⟨.look (.envelope f), row⟩, ⟨.look (.user userId), account⟩] ++ (tr₃ ++
    [⟨.fresh, uuid⟩, ⟨.act (.object (.order f uuid)) fun _ => some r.1, ()⟩])) ?_ ?_).mono fun tr _ h => ?_
  · simp [h₃, Writes]
  · simp [FileKey.uuid]
  · obtain ⟨rfl, _⟩ := h₁
    obtain ⟨rfl, _⟩ := h₂
    simpa using h

/-! ## Public copies -/

theorem mayDecide_meets {account : Account} {file : FilingFile} :
    Meets db (mayDecide userId account file) fun tr _ => tr = [] ∧ account.user.isActive = true ∧
      account.isCourtStaff file.filing.courtId = true ∧ file.filing.filerId ≠ userId := by
  simp only [mayDecide, meets_bind, meets_require]
  exact fun h₁ h₂ h₃ => ⟨rfl, h₁, h₂, h₃⟩

theorem documentContext_meets :
    Meets db (documentContext userId documentId) fun tr r => Quiet tr ∧
      ∃ g, ⟨.look (.document documentId), some g⟩ ∈ tr ∧ Seen tr g r.2 := by
  simp only [documentContext, meets_bind, meets_look, meets_expect, meets_pure]
  rintro _ g rfl _ file rfl doc _ account₀ account _
  refine mayDecide_meets.mono ?_
  rintro _ _ ⟨rfl, _⟩
  exact ⟨by simp [Writes], g, by simp, by simp [Seen]⟩

theorem lockDocumentContext_meets :
    Meets db (lockDocumentContext userId documentId) fun tr context => Quiet tr ∧
      db (.envelope context.filingId) = some context.file ∧
      Publishable db tr context.filingId context.file userId documentId context.doc := by
  simp only [lockDocumentContext, meets_bind, meets_look, meets_lock, meets_lockFiling, meets_expect, meets_pure]
  rintro _ g rfl account haccount file hdb doc hdoc
  refine mayDecide_meets.mono ?_
  rintro _ _ ⟨rfl, hactive, hstaff, hother⟩
  exact ⟨by simp [Writes], hdb, ⟨⟨account, ⟨haccount, hactive⟩, hstaff⟩, hother⟩, by simp, hdoc⟩

theorem Publishable.mono {tr tr' : Trace} {file : FilingFile} {doc : FilingDocument}
    (h : Publishable db tr f file userId documentId doc) (htr : ∀ e ∈ tr, e.Heard → e ∈ tr') :
    Publishable db tr' f file userId documentId doc :=
  { h with indexed := htr _ h.indexed trivial }

theorem prepareCopy_changes {title : String} {file : Upload} :
    Meets db (prepareCopy cfg userId documentId title file) fun tr _ =>
      Changes cfg (.prepareCopy userId documentId title file) db tr := by
  simp only [prepareCopy, insertCopy, meets_bind, meets_require, meets_newId, meets_act, meets_onRaise, meets_now,
    meets_saveFiling, meets_pure]
  refine fun _ => documentContext_meets.mono ?_
  rintro tr₁ probe ⟨h₁, _⟩ _
  refine inspectUpload_meets.mono ?_
  rintro tr₂ r ⟨h₂, _⟩ uuid
  refine lockDocumentContext_meets.mono ?_
  rintro tr₃ ⟨g, locked, doc⟩ ⟨h₃, hdb, hpub⟩ hblock id time
  refine .of_writes ?_
  simp only [writes_append, h₁.writes, h₂.writes, h₃.writes, Writes, true_and, and_true]
  refine fun _ => ⟨_, rfl, .inr ⟨locked, hdb, .copyPrepared userId documentId title file doc _ rfl (hpub.mono ?_) hblock
    ?_ ?_ rfl⟩⟩
  · intro e he _
    simp [he]
  · simp
  · simp [FileKey.uuid]

/-- What comes of a decision on a document's access: nothing where it is so already, or its change, from the version
that was asked for. -/
inductive AccessEnd (cfg : Settings) (r : Request) (db : Store) (tr : Trace) (documentId : DocumentId)
    (pointer : Option CopyId) (data : PublicationRequest) : Prop where
  | still (f : FilingId) (file : FilingFile) (doc : FilingDocument) (hdb : db (.envelope f) = some file)
      (hdoc : file.document documentId = some doc) (hpointer : doc.publicCopyId = pointer)
      (hconfidential : doc.isConfidential = true) (hquiet : Quiet tr)
  | changed (f : FilingId) (file file' : FilingFile) (doc : FilingDocument) (hdb : db (.envelope f) = some file)
      (hdoc : file.document documentId = some doc) (hversion : doc.accessVersion = data.expectedVersion)
      (hdocs : file'.documents = (file.setAccess documentId pointer (data.expectedVersion + 1)).documents)
      (hstep : FileStep cfg r db (commit tr db) tr f file file') (hwrites : Writes (Saves tr f file') tr)
      (hsaved : ⟨.write (.envelope f) fun _ => some file', ()⟩ ∈ tr)

theorem AccessEnd.changes {r : Request} {tr : Trace} {pointer : Option CopyId} {data : PublicationRequest}
    (h : AccessEnd cfg r db tr documentId pointer data) : Changes cfg r db tr := by
  cases h with
  | still f file doc hdb hdoc hpointer hconfidential hquiet => exact .of_quiet hquiet
  | changed f file file' doc hdb hdoc hversion hdocs hstep hwrites hsaved => exact .of_saves hdb hstep hwrites hsaved

theorem publishCopy_meets {copyId : CopyId} {data : PublicationRequest} :
    Meets db (publishCopy cfg userId documentId copyId data) fun tr _ =>
      AccessEnd cfg (.publishCopy userId documentId copyId data) db tr documentId (some copyId) data := by
  simp only [publishCopy, meets_bind, meets_require, meets_look, meets_expect, meets_ite, meets_saveFiling, meets_pure]
  refine documentContext_meets.mono ?_
  rintro tr₁ ⟨doc₀, probe⟩ ⟨h₁, g, hindexed, hprobe⟩ _ rows copy hcopy stored content rfl hmatch
  obtain ⟨rows, rfl, hfound⟩ := Option.bind_eq_some_iff.1 hcopy
  have hc := List.find?_some hfound
  simp only [Bool.and_eq_true, beq_iff_eq] at hc
  obtain ⟨hcid, hcdoc⟩ := hc
  subst hcid
  refine lockDocumentContext_meets.mono ?_
  rintro tr₂ ⟨f, locked, doc⟩ ⟨h₂, hdb, hpub⟩ hblock hversion
  refine ⟨fun hsame => .still f locked doc hdb hpub.found hsame.1 hsame.2 (by simp [h₁, h₂, Writes]),
    fun hchanges => ?_⟩
  refine (recordTransaction_meets cfg db _ _ _ _ _ _).mono ?_
  rintro tr₃ ⟨saved, t⟩ ⟨h₃, hrec⟩
  have hprobe' : ⟨.look (.envelope g), some probe⟩ ∈ tr₁ := hprobe
  have hdocs := hrec.documents_eq
  rw [if_neg (by simp [EventType.isReceipt])] at hdocs
  refine .changed f locked saved doc hdb hpub.found hversion hdocs (.published userId documentId data doc copy
    g probe rows t saved rfl ⟨hpub.mono ?_, hversion, hchanges, content, ?_, hmatch⟩
    hblock ?_ ?_ ?_ (List.mem_of_find?_eq_some hfound) hcdoc (hrec.mono ?_)) ?_ ?_
  · intro e he _
    simp [he]
  · simp
  · simp [hindexed]
  · simp [Seen, hprobe']
  · simp [Seen]
  · intro e he _
    simp [he]
  · simp [h₁.writes, h₂.writes, hrec.saves h₃, Writes, Saves]
  · simp

theorem publishCopy_changes {copyId : CopyId} {data : PublicationRequest} :
    Meets db (publishCopy cfg userId documentId copyId data) fun tr _ =>
      Changes cfg (.publishCopy userId documentId copyId data) db tr :=
  publishCopy_meets.mono fun _ _ h => h.changes

theorem withholdDocument_meets {data : PublicationRequest} :
    Meets db (withholdDocument cfg userId documentId data) fun tr _ =>
      AccessEnd cfg (.withholdDocument userId documentId data) db tr documentId none data := by
  simp only [withholdDocument, meets_bind, meets_require, meets_ite, meets_saveFiling, meets_pure]
  refine lockDocumentContext_meets.mono ?_
  rintro tr₁ ⟨f, locked, doc⟩ ⟨h₁, hdb, hpub⟩ hversion _
  refine ⟨fun hsame => .still f locked doc hdb hpub.found hsame.2 hsame.1 (by simp [h₁]), fun hchanges => ?_⟩
  refine (recordTransaction_meets cfg db _ _ _ _ _ _).mono ?_
  rintro tr₂ ⟨saved, t⟩ ⟨h₂, hrec⟩
  have hdocs := hrec.documents_eq
  rw [if_neg (by simp [EventType.isReceipt])] at hdocs
  refine .changed f locked saved doc hdb hpub.found hversion hdocs (.withheld userId documentId data doc t saved rfl
    ⟨hpub.mono ?_, hversion, hchanges⟩ (hrec.mono ?_)) ?_ ?_
  · intro e he _
    simp [he]
  · intro e he _
    simp [he]
  · simp [h₁.writes, hrec.saves h₂, Writes, Saves]
  · simp

theorem withholdDocument_changes {data : PublicationRequest} :
    Meets db (withholdDocument cfg userId documentId data) fun tr _ =>
      Changes cfg (.withholdDocument userId documentId data) db tr :=
  withholdDocument_meets.mono fun _ _ h => h.changes

/-! ## Storage cleanup -/

theorem deferDeletion_changes (cfg : Settings) (r : Request) {id : Nat} {job : StorageDeletion} {error : String}
    (hdb : db (.deletion id) = some job) :
    Meets db (deferDeletion id job error) fun tr _ => ∀ pre, Quiet pre → Changes cfg r db (pre ++ tr) := by
  simp only [deferDeletion, meets_bind, meets_now, meets_write, meets_pure]
  refine fun time pre hpre => .of_writes ?_
  simp only [writes_append, hpre.writes, Writes, true_and, and_true]
  exact fun _ => .inr ⟨_, rfl, .inl ⟨job, hdb, rfl⟩⟩

theorem cleanupNext_changes {id : Nat} {storageError : Option String} :
    Meets db (cleanupNext id storageError) fun tr _ => Changes cfg (.cleanupNext id storageError) db tr := by
  simp only [cleanupNext, meets_bind, meets_now, meets_lock]
  intro time
  cases hjob : (db (.deletion id)).filter fun job => decide (job.nextAttemptAt ≤ time) with
  | none =>
    simp only [meets_pure]
    exact .of_quiet (by simp [Writes])
  | some job =>
    have hdb : db (.deletion id) = some job := (Option.filter_eq_some_iff.1 hjob).1
    simp only [referenced, meets_bind, meets_look, meets_pure, meets_ite]
    intro row
    have hpre : Quiet [⟨.clock, time⟩, ⟨.lock .update (.deletion id), db (.deletion id)⟩,
        ⟨.look (.envelope job.envelopeId), row⟩] := by simp [Writes]
    refine ⟨fun _ => ?_, fun _ => ?_⟩
    · exact (deferDeletion_changes cfg _ hdb).mono fun tr _ h => by simpa using h _ hpre
    · cases storageError with
      | some error => exact (deferDeletion_changes cfg _ hdb).mono fun tr _ h => by simpa using h _ hpre
      | none =>
        simp only [meets_bind, meets_act, meets_write, meets_pure]
        refine .of_writes ?_
        simp only [writes_append, Writes, true_and, and_true]
        exact fun _ => .inl rfl

end Muefs
