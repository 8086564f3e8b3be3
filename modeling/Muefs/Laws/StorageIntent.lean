import Muefs.Portal.StorageIntent

/-!
# Stored objects follow the database

* `StoresSound`, `SessionSound`, `CleanerSound` : what the database and the object store, a request and a worker keep;
* `Stores.Grows` : what no step takes back;
* `Steps.objects_kept` : the law; `forgotten_upload` : an upload that a request forgets with its commit.
-/

namespace Muefs.StorageIntent

variable {db : Database} {st st' : Stores} {w w' : World} {s : Session} {sid : Nat} {key : FileKey}
  {changes : List Change}

/-! ## What a transaction does -/

/-- A row refers to the object, or it is queued. -/
def Database.Knows (db : Database) (key : FileKey) : Prop := db.Refers key ∨ db.Queued key

theorem mem_addedKeys : key ∈ addedKeys changes ↔ ∃ row, .add row ∈ changes ∧ row.fileKey = key := by
  simp only [addedKeys, List.mem_toFinset, List.mem_filterMap]
  constructor
  · rintro ⟨change, hmem, hkey⟩
    cases change with
    | add row => exact ⟨row, hmem, Option.some.inj hkey⟩
    | remove => cases hkey
  · rintro ⟨row, hmem, rfl⟩
    exact ⟨.add row, hmem, rfl⟩

theorem Database.refers_apply {change : Change} (h : (db.apply change).Refers key) :
    db.Refers key ∨ key ∈ addedKeys [change] := by
  obtain ⟨row, hrow, hkey⟩ := h
  cases change with
  | add new =>
    rcases List.mem_append.1 hrow with hrow | hrow
    · exact .inl ⟨row, hrow, hkey⟩
    · obtain rfl := List.mem_singleton.1 hrow
      exact .inr (mem_addedKeys.2 ⟨row, List.mem_singleton_self _, hkey⟩)
  | remove => exact .inl ⟨row, List.mem_of_mem_filter hrow, hkey⟩

theorem Database.refers_applyAll (h : (db.applyAll changes).Refers key) : db.Refers key ∨ key ∈ addedKeys changes := by
  induction changes generalizing db with
  | nil => exact .inl h
  | cons change changes ih =>
    rcases ih h with h | h
    · rcases refers_apply h with h | h
      · exact .inl h
      · obtain ⟨row, hrow, hkey⟩ := mem_addedKeys.1 h
        obtain rfl := List.mem_singleton.1 hrow
        exact .inr (mem_addedKeys.2 ⟨row, List.mem_cons_self, hkey⟩)
    · obtain ⟨row, hrow, hkey⟩ := mem_addedKeys.1 h
      exact .inr (mem_addedKeys.2 ⟨row, List.mem_cons_of_mem _ hrow, hkey⟩)

theorem Database.queue_applyAll {p : Nat × StorageDeletion} : p ∈ (db.applyAll changes).queue ↔ p ∈ db.queue ∨
    ∃ row id envelopeId queuedAt, .remove row id envelopeId queuedAt ∈ changes ∧
      p = (id, row.deletion envelopeId queuedAt) := by
  induction changes generalizing db with
  | nil => simp [applyAll]
  | cons change changes ih =>
    rw [show db.applyAll (change :: changes) = (db.apply change).applyAll changes from rfl, ih]
    cases change with
    | add row => simp [apply]
    | remove row id envelopeId queuedAt =>
      simp only [apply, List.mem_append, List.mem_cons, List.not_mem_nil, or_false, Change.remove.injEq]
      constructor
      · rintro ((h | rfl) | ⟨row', id', e', q', hmem, rfl⟩)
        · exact .inl h
        · exact .inr ⟨_, _, _, _, .inl ⟨rfl, rfl, rfl, rfl⟩, rfl⟩
        · exact .inr ⟨_, _, _, _, .inr hmem, rfl⟩
      · rintro (h | ⟨row', id', e', q', ⟨rfl, rfl, rfl, rfl⟩ | hmem, rfl⟩)
        · exact .inl (.inl h)
        · exact .inl (.inr rfl)
        · exact .inr ⟨_, _, _, _, hmem, rfl⟩

theorem Database.Knows.apply {change : Change} (h : db.Knows key) : (db.apply change).Knows key := by
  rcases h with ⟨row, hrow, hkey⟩ | ⟨p, hp, hkey⟩
  · cases change with
    | add new => exact .inl ⟨row, List.mem_append_left _ hrow, hkey⟩
    | remove old id envelopeId queuedAt =>
      by_cases heq : row = old
      · subst heq
        exact .inr ⟨_, List.mem_append_right _ (List.mem_singleton_self _), hkey⟩
      · exact .inl ⟨row, List.mem_filter.2 ⟨hrow, decide_eq_true heq⟩, hkey⟩
  · cases change with
    | add new => exact .inr ⟨p, hp, hkey⟩
    | remove => exact .inr ⟨p, List.mem_append_left _ hp, hkey⟩

theorem Database.Knows.applyAll (h : db.Knows key) : (db.applyAll changes).Knows key := by
  induction changes generalizing db with
  | nil => exact h
  | cons change changes ih => exact ih h.apply

theorem Database.knows_added (h : key ∈ addedKeys changes) : (db.applyAll changes).Knows key := by
  obtain ⟨row, hrow, rfl⟩ := mem_addedKeys.1 h
  clear h
  induction changes generalizing db with
  | nil => cases hrow
  | cons change changes ih =>
    rcases List.mem_cons.1 hrow with rfl | hrow
    · have hknows : (db.apply (.add row)).Knows row.fileKey :=
        .inl ⟨row, List.mem_append_right _ (List.mem_singleton_self _), rfl⟩
      exact hknows.applyAll
    · exact ih hrow

/-! ## Savepoints -/

namespace Session

theorem mem_changes_record {change new : Change} :
    change ∈ (s.record new).changes ↔ change ∈ s.changes ∨ change = new := by
  unfold record
  cases hnested : s.nested with
  | nil => simp [changes, hnested]
  | cons inner outer => simp only [changes, hnested, List.flatten_cons, List.mem_append, List.mem_singleton]; tauto

theorem record_rest (new : Change) : (s.record new).phase = s.phase ∧ (s.record new).pending = s.pending ∧
    (s.record new).tracked = s.tracked ∧ (s.record new).discarded = s.discarded := by
  unfold record
  cases s.nested <;> exact ⟨rfl, rfl, rfl, rfl⟩

theorem commitNested_rest (h : s.inNestedTransaction = true) :
    (∀ change, change ∈ s.commitNested.changes ↔ change ∈ s.changes) ∧ s.commitNested.phase = s.phase ∧
      s.commitNested.pending = s.pending ∧ s.commitNested.tracked = s.tracked ∧
      s.commitNested.discarded = s.discarded := by
  unfold commitNested clearPendingUploads
  rw [if_pos h]
  dsimp only
  cases hnested : s.nested with
  | nil => exact ⟨fun _ => Iff.rfl, rfl, rfl, rfl, rfl⟩
  | cons inner outer =>
    cases outer with
    | nil => exact ⟨fun change => by simp [changes, hnested], rfl, rfl, rfl, rfl⟩
    | cons outer rest =>
      refine ⟨fun change => ?_, rfl, rfl, rfl, rfl⟩
      simp only [changes, hnested, List.flatten_cons, List.mem_append]
      tauto

theorem mem_changes_rollbackNested {change : Change} (h : change ∈ s.rollbackNested.changes) : change ∈ s.changes := by
  unfold rollbackNested at h
  cases hnested : s.nested with
  | nil => simpa [changes, hnested] using h
  | cons inner outer =>
    simp only [changes, hnested, List.tail_cons, List.flatten_cons, List.mem_append] at h ⊢
    tauto

end Session

/-! ## What the parts keep -/

/-- A request whose changes are not undone and not committed. -/
def Phase.Open : Phase → Prop
  | .running | .failing | .undecided => True
  | _ => False

def Phase.MayCommit : Phase → Prop
  | .running | .undecided => True
  | _ => False

def Phase.Ended : Phase → Prop
  | .purging keys => keys = ∅
  | .committed | .unconfirmed => True
  | _ => False

theorem Phase.MayCommit.isOpen {phase : Phase} (h : phase.MayCommit) : phase.Open := by
  cases phase <;> trivial

/-- The database and the object store. -/
structure StoresSound (st : Stores) : Prop where
  deleted_stored : ∀ key ∈ st.deleted, st.uploadedBy key ≠ none
  saved_stored : ∀ key ∈ st.saved, st.uploadedBy key ≠ none
  refers_saved : ∀ key, st.db.Refers key → key ∈ st.saved
  refers_kept : ∀ key, st.db.Refers key → key ∉ st.deleted
  queue_saved : ∀ p ∈ st.db.queue, p.2.fileKey ∈ st.saved ∧ st.jobKey p.1 = some p.2.fileKey
  accounted : ∀ key ∈ st.saved, st.db.Knows key ∨ key ∈ st.deleted

/-- What has become of an upload that a request tracked. -/
def Session.Accounts (s : Session) (st : Stores) (key : FileKey) : Prop :=
  match s.phase with
  | .running | .failing | .undecided => key ∈ s.pending ∨ key ∈ st.deleted
  | .checking keys => key ∈ keys ∨ key ∈ st.deleted
  | .purging keys => key ∈ keys ∨ key ∈ st.deleted ∨ key ∈ st.failed ∨ key ∈ st.saved
  | .committed | .unconfirmed => True

/-- A request. -/
structure SessionSound (st : Stores) (sid : Nat) (s : Session) : Prop where
  owned : ∀ key ∈ s.tracked, st.uploadedBy key = some (.request sid)
  pending_tracked : s.pending ⊆ s.tracked
  added : ∀ key ∈ addedKeys s.changes, key ∈ s.pending ∧ key ∉ s.discarded
  removed : ∀ row id envelopeId queuedAt, .remove row id envelopeId queuedAt ∈ s.changes →
    row.fileKey ∈ st.saved ∧ st.jobKey id = some row.fileKey
  discarded : s.discarded ⊆ st.deleted
  unsaved : s.phase.Open → ∀ key, st.uploadedBy key = some (.request sid) → key ∉ st.saved
  kept : s.phase.MayCommit → ∀ key, st.uploadedBy key = some (.request sid) → key ∈ st.deleted → key ∈ s.discarded
  doomed : ∀ keys, s.phase = .checking keys ∨ s.phase = .purging keys → keys ⊆ s.tracked
  unused : ∀ keys, s.phase = .purging keys → ∀ key ∈ keys, ¬ st.db.Refers key
  accounted : ∀ key ∈ s.tracked, s.Accounts st key

def CleanerSound (st : Stores) : Cleaner → Prop
  | .idle => True
  | .taken id job => job.fileKey ∈ st.saved ∧ st.jobKey id = some job.fileKey
  | .deleting id job => (job.fileKey ∈ st.saved ∧ st.jobKey id = some job.fileKey) ∧ ¬ st.db.Refers job.fileKey
  | .ending id job left => (job.fileKey ∈ st.saved ∧ st.jobKey id = some job.fileKey) ∧
    match left with
    | none => job.fileKey ∈ st.deleted
    | some later => later.fileKey = job.fileKey

structure Sound (w : World) : Prop where
  stores : StoresSound w.toStores
  sessions : ∀ sid, SessionSound w.toStores sid (w.sessions sid)
  cleaners : ∀ cid, CleanerSound w.toStores (w.cleaners cid)

/-! ## What no step takes back -/

structure Stores.Grows (st st' : Stores) : Prop where
  uploadedBy : ∀ key u, st.uploadedBy key = some u → st'.uploadedBy key = some u
  jobKey : ∀ id key, st.jobKey id = some key → st'.jobKey id = some key
  deleted : st.deleted ⊆ st'.deleted
  failed : st.failed ⊆ st'.failed
  saved : st.saved ⊆ st'.saved

theorem Stores.Grows.refl (st : Stores) : st.Grows st :=
  ⟨fun _ _ h => h, fun _ _ h => h, fun _ h => h, fun _ h => h, fun _ h => h⟩

theorem Stores.Grows.trans {st'' : Stores} (h : st.Grows st') (h' : st'.Grows st'') : st.Grows st'' where
  uploadedBy key u hu := h'.uploadedBy key u (h.uploadedBy key u hu)
  jobKey id key hid := h'.jobKey id key (h.jobKey id key hid)
  deleted := h.deleted.trans h'.deleted
  failed := h.failed.trans h'.failed
  saved := h.saved.trans h'.saved

theorem Session.Accounts.mono (h : s.Accounts st key) (hg : st.Grows st') : s.Accounts st' key := by
  unfold Session.Accounts at h ⊢
  cases hphase : s.phase <;> rw [hphase] at h <;> dsimp only at h ⊢
  case running | failing | undecided | checking => exact h.imp_right fun hk => hg.deleted hk
  case purging => exact h.imp_right (.imp (fun hk => hg.deleted hk) (.imp (fun hk => hg.failed hk) fun hk =>
    hg.saved hk))

/-- A request stays sound in what grows, where nothing of its own is saved, deleted or referred to behind its back. -/
theorem SessionSound.mono (h : SessionSound st sid s) (hg : st.Grows st')
    (hunsaved : s.phase.Open → ∀ key, st'.uploadedBy key = some (.request sid) → key ∉ st'.saved)
    (hkept : s.phase.MayCommit → ∀ key, st'.uploadedBy key = some (.request sid) → key ∈ st'.deleted →
      key ∈ s.discarded)
    (hunused : ∀ keys, s.phase = .purging keys → ∀ key ∈ keys, ¬ st'.db.Refers key) : SessionSound st' sid s where
  owned key hkey := hg.uploadedBy key _ (h.owned key hkey)
  pending_tracked := h.pending_tracked
  added := h.added
  removed row id envelopeId queuedAt hmem :=
    have hold := h.removed row id envelopeId queuedAt hmem
    ⟨hg.saved hold.1, hg.jobKey id _ hold.2⟩
  discarded := h.discarded.trans hg.deleted
  unsaved := hunsaved
  kept := hkept
  doomed := h.doomed
  unused := hunused
  accounted key hkey := (h.accounted key hkey).mono hg

theorem CleanerSound.mono {c : Cleaner} (h : CleanerSound st c) (hg : st.Grows st')
    (hunused : ∀ id job, c = .deleting id job → ¬ st'.db.Refers job.fileKey) : CleanerSound st' c := by
  cases c with
  | idle => trivial
  | taken id job => exact ⟨hg.saved h.1, hg.jobKey id _ h.2⟩
  | deleting id job => exact ⟨⟨hg.saved h.1.1, hg.jobKey id _ h.1.2⟩, hunused id job rfl⟩
  | ending id job left =>
    refine ⟨⟨hg.saved h.1.1, hg.jobKey id _ h.1.2⟩, ?_⟩
    cases left with
    | none => exact hg.deleted h.2
    | some later => exact h.2

/-! ## What the database and the object store keep -/

theorem Stores.grows_upload (hnew : st.uploadedBy key = none) (u : Uploader) :
    st.Grows { st with uploadedBy := Function.update st.uploadedBy key (some u) } where
  uploadedBy key' u' hu := by
    have hne : key' ≠ key := by
      rintro rfl
      rw [hnew] at hu
      cases hu
    exact (Function.update_of_ne hne _ _).trans hu
  jobKey _ _ h := h
  deleted _ h := h
  failed _ h := h
  saved _ h := h

theorem Stores.grows_queue {id : Nat} (hid : st.jobKey id = none) (key : FileKey) :
    st.Grows { st with jobKey := Function.update st.jobKey id (some key) } where
  uploadedBy _ _ h := h
  jobKey id' key' hkey := by
    have hne : id' ≠ id := by
      rintro rfl
      rw [hid] at hkey
      cases hkey
    exact (Function.update_of_ne hne _ _).trans hkey
  deleted _ h := h
  failed _ h := h
  saved _ h := h

theorem Stores.grows_deleteDocument (st : Stores) (key : FileKey) (outcome : Deletion) :
    st.Grows (st.deleteDocument key outcome) where
  uploadedBy _ _ h := h
  jobKey _ _ h := h
  deleted _ h := by
    cases outcome <;> simp [deleteDocument, h]
  failed _ h := by
    cases outcome <;> simp [deleteDocument, h]
  saved _ h := h

theorem Stores.grows_commit (st : Stores) (changes : List Change) : st.Grows (st.commit changes) where
  uploadedBy _ _ h := h
  jobKey _ _ h := h
  deleted _ h := h
  failed _ h := h
  saved := Finset.subset_union_left

theorem Stores.grows_db (st : Stores) (db : Database) : st.Grows { st with db := db } :=
  ⟨fun _ _ h => h, fun _ _ h => h, fun _ h => h, fun _ h => h, fun _ h => h⟩

theorem Stores.mem_deleteDocument (st : Stores) (key : FileKey) (outcome : Deletion) :
    key ∈ (st.deleteDocument key outcome).deleted ∨ key ∈ (st.deleteDocument key outcome).failed := by
  cases outcome <;> simp [deleteDocument]

theorem Stores.of_mem_deleted {key' : FileKey} {outcome : Deletion}
    (h : key' ∈ (st.deleteDocument key outcome).deleted) :
    key' = key ∨ key' ∈ st.deleted := by
  unfold deleteDocument at h
  dsimp only at h
  split_ifs at h
  · exact .inr h
  · exact Finset.mem_insert.1 h

theorem StoresSound.upload (h : StoresSound st) (hnew : st.uploadedBy key = none) (u : Uploader) :
    StoresSound { st with uploadedBy := Function.update st.uploadedBy key (some u) } where
  deleted_stored key' hkey := by
    obtain ⟨u', hu⟩ := Option.ne_none_iff_exists'.1 (h.deleted_stored key' hkey)
    rw [(Stores.grows_upload hnew u).uploadedBy key' u' hu]
    exact Option.some_ne_none u'
  saved_stored key' hkey := by
    obtain ⟨u', hu⟩ := Option.ne_none_iff_exists'.1 (h.saved_stored key' hkey)
    rw [(Stores.grows_upload hnew u).uploadedBy key' u' hu]
    exact Option.some_ne_none u'
  refers_saved := h.refers_saved
  refers_kept := h.refers_kept
  queue_saved := h.queue_saved
  accounted := h.accounted

theorem StoresSound.queue (h : StoresSound st) {id : Nat} (hid : st.jobKey id = none) (key : FileKey) :
    StoresSound { st with jobKey := Function.update st.jobKey id (some key) } where
  deleted_stored := h.deleted_stored
  saved_stored := h.saved_stored
  refers_saved := h.refers_saved
  refers_kept := h.refers_kept
  queue_saved p hp :=
    have hold := h.queue_saved p hp
    ⟨hold.1, (Stores.grows_queue hid key).jobKey p.1 _ hold.2⟩
  accounted := h.accounted

theorem StoresSound.deleteDocument (h : StoresSound st) (hstored : st.uploadedBy key ≠ none)
    (hunused : ¬ st.db.Refers key) (outcome : Deletion) : StoresSound (st.deleteDocument key outcome) where
  deleted_stored key' hkey := by
    rcases Stores.of_mem_deleted hkey with rfl | hkey
    · exact hstored
    · exact h.deleted_stored key' hkey
  saved_stored := h.saved_stored
  refers_saved := h.refers_saved
  refers_kept key' hrefers hkey := by
    rcases Stores.of_mem_deleted hkey with rfl | hkey
    · exact hunused hrefers
    · exact h.refers_kept key' hrefers hkey
  queue_saved := h.queue_saved
  accounted key' hkey := (h.accounted key' hkey).imp_right fun hk => (st.grows_deleteDocument key outcome).deleted hk

theorem StoresSound.commit (h : StoresSound st)
    (hadded : ∀ key ∈ addedKeys changes, st.uploadedBy key ≠ none ∧ key ∉ st.deleted)
    (hremoved : ∀ row id envelopeId queuedAt, .remove row id envelopeId queuedAt ∈ changes →
      row.fileKey ∈ st.saved ∧ st.jobKey id = some row.fileKey) : StoresSound (st.commit changes) where
  deleted_stored := h.deleted_stored
  saved_stored key hkey := by
    rcases Finset.mem_union.1 hkey with hkey | hkey
    · exact h.saved_stored key hkey
    · exact (hadded key hkey).1
  refers_saved key hrefers := by
    rcases Database.refers_applyAll hrefers with hrefers | hkey
    · exact Finset.mem_union_left _ (h.refers_saved key hrefers)
    · exact Finset.mem_union_right _ hkey
  refers_kept key hrefers := by
    rcases Database.refers_applyAll hrefers with hrefers | hkey
    · exact h.refers_kept key hrefers
    · exact (hadded key hkey).2
  queue_saved p hp := by
    rcases Database.queue_applyAll.1 hp with hp | ⟨row, id, envelopeId, queuedAt, hmem, rfl⟩
    · have hold := h.queue_saved p hp
      exact ⟨Finset.mem_union_left _ hold.1, hold.2⟩
    · have hold := hremoved row id envelopeId queuedAt hmem
      exact ⟨Finset.mem_union_left _ hold.1, hold.2⟩
  accounted key hkey := by
    rcases Finset.mem_union.1 hkey with hkey | hkey
    · exact (h.accounted key hkey).imp_left Database.Knows.applyAll
    · exact .inl (Database.knows_added hkey)

theorem Database.queue_dequeue (id : Nat) (left : Option StorageDeletion) {p : Nat × StorageDeletion}
    (hp : p ∈ db.queue) : (∃ p' ∈ (db.dequeue id left).queue, p'.1 = p.1 ∧ (p' = p ∨ p.1 = id ∧ left = some p'.2)) ∨
      p.1 = id ∧ left = none := by
  by_cases hid : p.1 = id
  · cases left with
    | none => exact .inr ⟨hid, rfl⟩
    | some later =>
      refine .inl ⟨(id, later), List.mem_filterMap.2 ⟨p, hp, ?_⟩, hid.symm, .inr ⟨hid, rfl⟩⟩
      rw [if_pos hid]
      rfl
  · exact .inl ⟨p, List.mem_filterMap.2 ⟨p, hp, if_neg hid⟩, rfl, .inl rfl⟩

theorem Database.mem_queue_dequeue {id : Nat} {left : Option StorageDeletion} {p : Nat × StorageDeletion}
    (hp : p ∈ (db.dequeue id left).queue) : p ∈ db.queue ∨ p.1 = id ∧ left = some p.2 := by
  obtain ⟨q, hq, hqp⟩ := List.mem_filterMap.1 hp
  split_ifs at hqp with hid
  · cases left with
    | none => cases hqp
    | some later =>
      obtain rfl := Option.some.inj hqp
      exact .inr ⟨rfl, rfl⟩
  · obtain rfl := Option.some.inj hqp
    exact .inl hq

theorem StoresSound.dequeue (h : StoresSound st) {id : Nat} {job : StorageDeletion} {left : Option StorageDeletion}
    (hc : CleanerSound st (.ending id job left)) : StoresSound { st with db := st.db.dequeue id left } where
  deleted_stored := h.deleted_stored
  saved_stored := h.saved_stored
  refers_saved := h.refers_saved
  refers_kept := h.refers_kept
  queue_saved p hp := by
    rcases Database.mem_queue_dequeue hp with hp | ⟨rfl, rfl⟩
    · exact h.queue_saved p hp
    · rw [show p.2.fileKey = job.fileKey from hc.2]
      exact hc.1
  accounted key hkey := by
    rcases h.accounted key hkey with (hrefers | ⟨p, hp, rfl⟩) | hdeleted
    · exact .inl (.inl hrefers)
    · have hjob : p.1 = id → p.2.fileKey = job.fileKey := by
        rintro rfl
        exact Option.some.inj ((h.queue_saved p hp).2.symm.trans hc.1.2)
      rcases Database.queue_dequeue id left hp with ⟨p', hp', -, rfl | ⟨hid, rfl⟩⟩ | ⟨hid, rfl⟩
      · exact .inl (.inr ⟨p', hp', rfl⟩)
      · exact .inl (.inr ⟨p', hp', (show p'.2.fileKey = job.fileKey from hc.2).trans (hjob hid).symm⟩)
      · exact .inr (hjob hid ▸ hc.2)
    · exact .inr hdeleted

/-! ## What a request keeps -/

theorem Session.accounts_open (hopen : s.phase.Open) : s.Accounts st key ↔ key ∈ s.pending ∨ key ∈ st.deleted := by
  unfold Accounts
  cases hphase : s.phase <;> rw [hphase] at hopen <;> first | exact Iff.rfl | exact hopen.elim

theorem SessionSound.edit {s' : Session} (h : SessionSound st sid s) (hopen : s.phase.Open) (hopen' : s'.phase.Open)
    (hmay : s'.phase.MayCommit → s.phase.MayCommit) (hdiscarded : s'.discarded = s.discarded)
    (howned : ∀ key ∈ s'.tracked, st.uploadedBy key = some (.request sid)) (hpending : s'.pending ⊆ s'.tracked)
    (hadded : ∀ key ∈ addedKeys s'.changes, key ∈ s'.pending ∧ key ∉ s'.discarded)
    (hremoved : ∀ row id envelopeId queuedAt, .remove row id envelopeId queuedAt ∈ s'.changes →
      row.fileKey ∈ st.saved ∧ st.jobKey id = some row.fileKey)
    (haccounted : ∀ key ∈ s'.tracked, key ∈ s'.pending ∨ key ∈ st.deleted) : SessionSound st sid s' where
  owned := howned
  pending_tracked := hpending
  added := hadded
  removed := hremoved
  discarded := hdiscarded ▸ h.discarded
  unsaved _ := h.unsaved hopen
  kept hcommit := hdiscarded ▸ h.kept (hmay hcommit)
  doomed keys hphase := by
    rcases hphase with hphase | hphase <;> exact absurd hopen' (by rw [hphase]; exact id)
  unused keys hphase := absurd hopen' (by rw [hphase]; exact id)
  accounted key hkey := (Session.accounts_open hopen').2 (haccounted key hkey)

theorem SessionSound.pending_or_deleted (h : SessionSound st sid s) (hopen : s.phase.Open) (hkey : key ∈ s.tracked) :
    key ∈ s.pending ∨ key ∈ st.deleted := (Session.accounts_open hopen).1 (h.accounted key hkey)

theorem SessionSound.trackUpload (h : SessionSound st sid s) (hopen : s.phase.Open)
    (howner : st.uploadedBy key = some (.request sid)) : SessionSound st sid (s.trackUpload key) := by
  refine h.edit hopen hopen id rfl ?_ (Finset.insert_subset_insert _ h.pending_tracked) ?_ h.removed ?_
  · intro key' hkey
    rcases Finset.mem_insert.1 hkey with rfl | hkey
    · exact howner
    · exact h.owned key' hkey
  · intro key' hkey
    exact ⟨Finset.mem_insert_of_mem (h.added key' hkey).1, (h.added key' hkey).2⟩
  · intro key' hkey
    rcases Finset.mem_insert.1 hkey with rfl | hkey
    · exact .inl (Finset.mem_insert_self _ _)
    · exact (h.pending_or_deleted hopen hkey).imp_left Finset.mem_insert_of_mem

theorem SessionSound.releaseUpload (h : SessionSound st sid s) (hopen : s.phase.Open) (hdone : key ∈ s.discarded) :
    SessionSound st sid (s.releaseUpload key) := by
  refine h.edit hopen hopen id rfl h.owned ((Finset.erase_subset _ _).trans h.pending_tracked) ?_ h.removed ?_
  · intro key' hkey
    obtain ⟨hpending, hkept⟩ := h.added key' hkey
    refine ⟨Finset.mem_erase.2 ⟨?_, hpending⟩, hkept⟩
    rintro rfl
    exact hkept hdone
  · intro key' hkey
    by_cases heq : key' = key
    · exact .inr (h.discarded (heq ▸ hdone))
    · exact (h.pending_or_deleted hopen hkey).imp_left fun hpending => Finset.mem_erase.2 ⟨heq, hpending⟩

theorem SessionSound.record {new : Change} (h : SessionSound st sid s) (hopen : s.phase.Open)
    (hadd : ∀ row, new = .add row → row.fileKey ∈ s.pending ∧ row.fileKey ∉ s.discarded)
    (hremove : ∀ row id envelopeId queuedAt, new = .remove row id envelopeId queuedAt →
      row.fileKey ∈ st.saved ∧ st.jobKey id = some row.fileKey) : SessionSound st sid (s.record new) := by
  obtain ⟨hphase, hpending, htracked, hdiscarded⟩ := s.record_rest new
  refine h.edit hopen (hphase ▸ hopen) (fun hmay => hphase ▸ hmay) hdiscarded (htracked ▸ h.owned) ?_ ?_ ?_ ?_
  · rw [hpending, htracked]
    exact h.pending_tracked
  · intro key hkey
    obtain ⟨row, hrow, rfl⟩ := mem_addedKeys.1 hkey
    rw [hpending, hdiscarded]
    rcases Session.mem_changes_record.1 hrow with hrow | hrow
    · exact h.added _ (mem_addedKeys.2 ⟨row, hrow, rfl⟩)
    · exact hadd row hrow.symm
  · intro row id envelopeId queuedAt hmem
    rcases Session.mem_changes_record.1 hmem with hmem | hmem
    · exact h.removed row id envelopeId queuedAt hmem
    · exact hremove row id envelopeId queuedAt hmem.symm
  · rw [hpending, htracked]
    exact fun key hkey => h.pending_or_deleted hopen hkey

theorem SessionSound.regroup {s' : Session} (h : SessionSound st sid s) (hopen : s.phase.Open)
    (hrest : s'.phase = s.phase ∧ s'.pending = s.pending ∧ s'.tracked = s.tracked ∧ s'.discarded = s.discarded)
    (hchanges : ∀ change, change ∈ s'.changes → change ∈ s.changes) : SessionSound st sid s' := by
  obtain ⟨hphase, hpending, htracked, hdiscarded⟩ := hrest
  refine h.edit hopen (hphase ▸ hopen) (fun hmay => hphase ▸ hmay) hdiscarded (htracked ▸ h.owned) ?_ ?_ ?_ ?_
  · rw [hpending, htracked]
    exact h.pending_tracked
  · intro key hkey
    obtain ⟨row, hrow, rfl⟩ := mem_addedKeys.1 hkey
    rw [hpending, hdiscarded]
    exact h.added _ (mem_addedKeys.2 ⟨row, hchanges _ hrow, rfl⟩)
  · exact fun row id envelopeId queuedAt hmem => h.removed row id envelopeId queuedAt (hchanges _ hmem)
  · rw [hpending, htracked]
    exact fun key hkey => h.pending_or_deleted hopen hkey

theorem SessionSound.turn (h : SessionSound st sid s) (phase : Phase) (hopen : s.phase.Open) (hopen' : phase.Open)
    (hmay : phase.MayCommit → s.phase.MayCommit) : SessionSound st sid { s with phase := phase } :=
  h.edit hopen hopen' hmay rfl h.owned h.pending_tracked h.added h.removed fun _ hkey => h.pending_or_deleted hopen hkey

theorem SessionSound.rollbackWithUploadCleanup {verify : Bool} (h : SessionSound st sid s) (hopen : s.phase.Open)
    (hg : st.Grows st') (hunused : verify = false → ∀ key ∈ s.pending, ¬ st'.db.Refers key) :
    SessionSound st' sid (s.rollbackWithUploadCleanup verify) where
  owned key hkey := hg.uploadedBy key _ (h.owned key hkey)
  pending_tracked := Finset.empty_subset _
  added key hkey := by
    obtain ⟨row, hrow, -⟩ := mem_addedKeys.1 hkey
    cases hrow
  removed row id envelopeId queuedAt hmem := by cases hmem
  discarded := h.discarded.trans hg.deleted
  unsaved hopen' := by cases verify <;> exact hopen'.elim
  kept hmay := by cases verify <;> exact hmay.elim
  doomed keys hphase := by
    cases verify <;> rcases hphase with hphase | hphase <;> cases hphase <;> exact h.pending_tracked
  unused keys hphase := by
    cases verify with
    | true => cases hphase
    | false =>
      cases hphase
      exact hunused rfl
  accounted key hkey := by
    have hold := (h.pending_or_deleted hopen hkey).imp_right fun hk => hg.deleted hk
    cases verify with
    | true => exact hold
    | false => exact hold.imp_right .inl

theorem SessionSound.check {keys : Finset FileKey} (h : SessionSound st sid s) (hst : StoresSound st)
    (hphase : s.phase = .checking keys) (readable : Bool) : SessionSound st sid { s with
      phase := if readable = true ∨ keys = ∅ then .purging (keys \ st.db.referenced keys) else .unconfirmed } where
  owned := h.owned
  pending_tracked := h.pending_tracked
  added := h.added
  removed := h.removed
  discarded := h.discarded
  unsaved hopen := by
    dsimp only at hopen
    split_ifs at hopen <;> exact hopen.elim
  kept hmay := by
    dsimp only at hmay
    split_ifs at hmay <;> exact hmay.elim
  doomed keys' hphase' := by
    dsimp only at hphase'
    split_ifs at hphase' with hread
    · rcases hphase' with hphase' | hphase' <;> cases hphase'
      exact Finset.sdiff_subset.trans (h.doomed keys (.inl hphase))
    · rcases hphase' with hphase' | hphase' <;> cases hphase'
  unused keys' hphase' key hkey hrefers := by
    dsimp only at hphase'
    split_ifs at hphase' with hread
    · cases hphase'
      obtain ⟨hmem, hfree⟩ := Finset.mem_sdiff.1 hkey
      exact hfree (Finset.mem_filter.2 ⟨hmem, hrefers⟩)
  accounted key hkey := by
    have hold := h.accounted key hkey
    unfold Session.Accounts at hold ⊢
    rw [hphase] at hold
    dsimp only at hold ⊢
    split_ifs with hread
    · rcases hold with hmem | hdeleted
      · by_cases hrefers : st.db.Refers key
        · exact .inr (.inr (.inr (hst.refers_saved key hrefers)))
        · exact .inl (Finset.mem_sdiff.2 ⟨hmem, fun hk => hrefers (Finset.mem_filter.1 hk).2⟩)
      · exact .inr (.inl hdeleted)
    · trivial

theorem SessionSound.discard (h : SessionSound st sid s) (hunused : key ∉ addedKeys s.changes) :
    SessionSound (st.deleteDocument key .done) sid { s with discarded := insert key s.discarded } where
  owned := h.owned
  pending_tracked := h.pending_tracked
  added key' hkey := by
    obtain ⟨hpending, hkept⟩ := h.added key' hkey
    refine ⟨hpending, fun hmem => ?_⟩
    rcases Finset.mem_insert.1 hmem with rfl | hmem
    · exact hunused hkey
    · exact hkept hmem
  removed := h.removed
  discarded := Finset.insert_subset_insert _ h.discarded
  unsaved := h.unsaved
  kept hmay key' howner hdeleted := by
    rcases Stores.of_mem_deleted hdeleted with rfl | hdeleted
    · exact Finset.mem_insert_self _ _
    · exact Finset.mem_insert_of_mem (h.kept hmay key' howner hdeleted)
  doomed := h.doomed
  unused := h.unused
  accounted key' hkey := (h.accounted key' hkey).mono (st.grows_deleteDocument key .done)

theorem SessionSound.purgeNext {keys : Finset FileKey} (h : SessionSound st sid s) (hphase : s.phase = .purging keys)
    (key : FileKey) (outcome : Deletion) :
    SessionSound (st.deleteDocument key outcome) sid { s with phase := .purging (keys.erase key) } where
  owned := h.owned
  pending_tracked := h.pending_tracked
  added := h.added
  removed := h.removed
  discarded := h.discarded.trans (st.grows_deleteDocument key outcome).deleted
  unsaved hopen := hopen.elim
  kept hmay := hmay.elim
  doomed keys' hphase' := by
    rcases hphase' with hphase' | hphase' <;> cases hphase'
    exact (Finset.erase_subset _ _).trans (h.doomed keys (.inr hphase))
  unused keys' hphase' key' hkey := by
    cases hphase'
    exact h.unused keys hphase key' (Finset.mem_of_mem_erase hkey)
  accounted key' hkey := by
    have hold := (h.accounted key' hkey).mono (st.grows_deleteDocument key outcome)
    unfold Session.Accounts at hold ⊢
    rw [hphase] at hold
    dsimp only at hold ⊢
    by_cases heq : key' = key
    · subst heq
      exact .inr ((st.mem_deleteDocument key' outcome).imp_right .inl)
    · exact hold.imp_left fun hmem => Finset.mem_erase.2 ⟨heq, hmem⟩

/-! ## What others do to a request, and to a worker -/

theorem SessionSound.deleteDocument (h : SessionSound st sid s) {outcome : Deletion}
    (hsafe : s.phase.MayCommit → st.uploadedBy key = some (.request sid) → False) :
    SessionSound (st.deleteDocument key outcome) sid s := by
  refine h.mono (st.grows_deleteDocument key outcome) h.unsaved (fun hmay key' howner hdeleted => ?_) h.unused
  rcases Stores.of_mem_deleted hdeleted with rfl | hdeleted
  · exact (hsafe hmay howner).elim
  · exact h.kept hmay key' howner hdeleted

theorem CleanerSound.deleteDocument {c : Cleaner} (h : CleanerSound st c) (key : FileKey) (outcome : Deletion) :
    CleanerSound (st.deleteDocument key outcome) c := by
  refine h.mono (st.grows_deleteDocument key outcome) ?_
  rintro id job rfl
  exact h.2

theorem SessionSound.commit (h : SessionSound st sid s) {other : Nat} (hne : other ≠ sid)
    (hadded : ∀ key ∈ addedKeys changes, st.uploadedBy key = some (.request other)) :
    SessionSound (st.commit changes) sid s := by
  have hforeign : ∀ key, st.uploadedBy key = some (.request sid) → key ∉ addedKeys changes := by
    intro key howner hkey
    rw [hadded key hkey] at howner
    cases howner
    exact hne rfl
  refine h.mono (st.grows_commit changes) (fun hopen key howner hsaved => ?_) h.kept
    fun keys hphase key hkey hrefers => ?_
  · rcases Finset.mem_union.1 hsaved with hsaved | hsaved
    · exact h.unsaved hopen key howner hsaved
    · exact hforeign key howner hsaved
  · rcases Database.refers_applyAll hrefers with hrefers | hmem
    · exact h.unused keys hphase key hkey hrefers
    · exact hforeign key (h.owned key (h.doomed keys (.inr hphase) hkey)) hmem

theorem CleanerSound.commit {c : Cleaner} (h : CleanerSound st c) (hadded : ∀ key ∈ addedKeys changes, key ∉ st.saved) :
    CleanerSound (st.commit changes) c := by
  refine h.mono (st.grows_commit changes) ?_
  rintro id job rfl hrefers
  rcases Database.refers_applyAll hrefers with hrefers | hmem
  · exact h.2 hrefers
  · exact hadded _ hmem h.1.1

theorem SessionSound.commits (h : SessionSound st sid s) (hmay : s.phase.MayCommit) :
    ∀ key ∈ addedKeys s.changes, st.uploadedBy key = some (.request sid) ∧ key ∉ st.saved ∧ key ∉ st.deleted := by
  intro key hkey
  obtain ⟨hpending, hkept⟩ := h.added key hkey
  have howner := h.owned key (h.pending_tracked hpending)
  exact ⟨howner, h.unsaved hmay.isOpen key howner, fun hdeleted => hkept (h.kept hmay key howner hdeleted)⟩

theorem SessionSound.committed (h : SessionSound st sid s) (hg : st.Grows st') (s' : Session)
    (hphase : s'.phase = .committed) (hchanges : s'.changes = []) (hpending : s'.pending ⊆ s.pending)
    (htracked : s'.tracked = s.tracked) (hdiscarded : s'.discarded = s.discarded) : SessionSound st' sid s' where
  owned key hkey := hg.uploadedBy key _ (h.owned key (htracked ▸ hkey))
  pending_tracked := htracked ▸ hpending.trans h.pending_tracked
  added key hkey := by
    obtain ⟨row, hrow, -⟩ := mem_addedKeys.1 hkey
    rw [hchanges] at hrow
    cases hrow
  removed row id envelopeId queuedAt hmem := by
    rw [hchanges] at hmem
    cases hmem
  discarded := hdiscarded ▸ h.discarded.trans hg.deleted
  unsaved hopen := by rw [hphase] at hopen; exact hopen.elim
  kept hmay := by rw [hphase] at hmay; exact hmay.elim
  doomed keys hkeys := by rw [hphase] at hkeys; rcases hkeys with hkeys | hkeys <;> cases hkeys
  unused keys hkeys := by rw [hphase] at hkeys; cases hkeys
  accounted key hkey := by
    unfold Session.Accounts
    rw [hphase]
    trivial

/-! ## Runs -/

theorem Sound.put {st : Stores} {s : Session} (hst : StoresSound st) (hs : SessionSound st sid s)
    (hothers : ∀ sid', sid' ≠ sid → SessionSound st sid' (w.sessions sid'))
    (hcleaners : ∀ cid, CleanerSound st (w.cleaners cid)) : Sound { w.put sid s with toStores := st } where
  stores := hst
  sessions sid' := by
    by_cases hsid : sid' = sid
    · subst hsid
      simpa [World.put] using hs
    · simpa [World.put, hsid] using hothers sid' hsid
  cleaners := hcleaners

theorem Sound.edit {s : Session} (h : Sound w) (hs : SessionSound w.toStores sid s) : Sound (w.put sid s) :=
  Sound.put h.stores hs (fun sid' _ => h.sessions sid') h.cleaners

theorem Sound.putCleaner {st : Stores} {cid : Nat} {c : Cleaner} (hst : StoresSound st)
    (hsessions : ∀ sid, SessionSound st sid (w.sessions sid)) (hc : CleanerSound st c)
    (hothers : ∀ cid, CleanerSound st (w.cleaners cid)) : Sound { w.putCleaner cid c with toStores := st } where
  stores := hst
  sessions := hsessions
  cleaners cid' := by
    by_cases hcid : cid' = cid
    · subst hcid
      simpa [World.putCleaner] using hc
    · simpa [World.putCleaner, hcid] using hothers cid'

theorem Sound.deleteDocument_stores {outcome : Deletion} (h : Sound w) (howner : w.uploadedBy key = some (.request sid))
    (hs : SessionSound w.toStores sid s) (hopen : s.phase.Open) : StoresSound (w.toStores.deleteDocument key outcome) :=
  h.stores.deleteDocument (howner ▸ Option.some_ne_none _)
    (fun hrefers => hs.unsaved hopen key howner (h.stores.refers_saved key hrefers)) outcome

theorem Sound.commit_stores (h : Sound w) (hs : SessionSound w.toStores sid s) (hmay : s.phase.MayCommit) :
    StoresSound (w.toStores.commit s.changes) := by
  refine h.stores.commit (fun key hkey => ?_) hs.removed
  obtain ⟨howner, -, hkept⟩ := hs.commits hmay key hkey
  exact ⟨howner ▸ Option.some_ne_none _, hkept⟩

theorem Step.sound (h : Sound w) (hstep : Step w w') : Sound w' := by
  have hmine : ∀ sid, SessionSound w.toStores sid (w.sessions sid) := h.sessions
  cases hstep with
  | upload sid key hphase hnew =>
    have hg := Stores.grows_upload hnew (.request sid)
    refine ⟨h.stores.upload hnew _, fun sid' => ?_, fun cid => (h.cleaners cid).mono hg ?_⟩
    · refine (hmine sid').mono hg (fun hopen key' howner hsaved => ?_) (fun hmay key' howner hdeleted => ?_)
        (hmine sid').unused
      · have hne : key' ≠ key := fun heq => h.stores.saved_stored key' hsaved (heq ▸ hnew)
        exact (hmine sid').unsaved hopen key' ((Function.update_of_ne hne _ _).symm.trans howner) hsaved
      · have hne : key' ≠ key := fun heq => h.stores.deleted_stored key' hdeleted (heq ▸ hnew)
        exact (hmine sid').kept hmay key' ((Function.update_of_ne hne _ _).symm.trans howner) hdeleted
    · intro id job heq
      have hold := h.cleaners cid
      rw [heq] at hold
      exact hold.2
  | track sid key hphase howner hnew => exact h.edit ((hmine sid).trackUpload (hphase ▸ trivial) howner)
  | add sid row hphase hpending hkept =>
    refine h.edit ((hmine sid).record (hphase ▸ trivial) ?_ ?_)
    · rintro row' heq
      cases heq
      exact ⟨hpending, hkept⟩
    · rintro row' id envelopeId queuedAt heq
      cases heq
  | remove sid row id envelopeId queuedAt hphase hrow htable hid =>
    have hg := Stores.grows_queue hid row.fileKey
    have hothers : ∀ sid', SessionSound { w.toStores with jobKey := Function.update w.jobKey id (some row.fileKey) }
      sid'
        (w.sessions sid') := fun sid' => (hmine sid').mono hg (hmine sid').unsaved (hmine sid').kept (hmine sid').unused
    refine Sound.put (h.stores.queue hid _) ((hothers sid).record (hphase ▸ trivial) ?_ ?_)
      (fun sid' _ => hothers sid') fun cid => ?_
    · rintro row' heq
      cases heq
    · rintro row' id' envelopeId' queuedAt' heq
      cases heq
      exact ⟨h.stores.refers_saved _ ⟨row, hrow, rfl⟩, Function.update_self _ _ _⟩
    · refine (h.cleaners cid).mono hg fun id' job heq => ?_
      have hold := h.cleaners cid
      rw [heq] at hold
      exact hold.2
  | beginNested sid hphase =>
    refine h.edit ((hmine sid).regroup (hphase ▸ trivial) ⟨rfl, rfl, rfl, rfl⟩ fun change hmem => ?_)
    simpa [Session.beginNested, Session.changes] using hmem
  | commitNested sid hphase hnested =>
    obtain ⟨hchanges, hrest⟩ := Session.commitNested_rest hnested
    exact h.edit ((hmine sid).regroup (hphase ▸ trivial) hrest fun change hmem => (hchanges change).1 hmem)
  | rollbackNested sid hphase =>
    exact h.edit ((hmine sid).regroup (hphase ▸ trivial) ⟨rfl, rfl, rfl, rfl⟩ fun change =>
      Session.mem_changes_rollbackNested)
  | discard sid key outcome hphase hpending hunused =>
    have hopen : (w.sessions sid).phase.Open := hphase ▸ trivial
    have howner := (hmine sid).owned key ((hmine sid).pending_tracked hpending)
    have hothers : ∀ sid', sid' ≠ sid → SessionSound (w.toStores.deleteDocument key outcome) sid' (w.sessions sid') :=
      fun sid' hne => (hmine sid').deleteDocument fun _ howner' => hne (Uploader.request.inj (Option.some.inj
        (howner'.symm.trans howner)))
    refine Sound.put (h.deleteDocument_stores howner (hmine sid) hopen) ?_ hothers
      fun cid => (h.cleaners cid).deleteDocument _ _
    split_ifs with hdone
    · rw [hdone]
      exact (hmine sid).discard hunused
    · exact ((hmine sid).turn .failing hopen trivial fun hmay => hmay.elim).deleteDocument
        fun hmay => hmay.elim
  | release sid key hphase hdone => exact h.edit ((hmine sid).releaseUpload (hphase ▸ trivial) hdone)
  | fail sid hphase => exact h.edit ((hmine sid).turn .failing (hphase ▸ trivial) trivial fun hmay => hmay.elim)
  | purge sid key outcome hphase hpending =>
    have howner := (hmine sid).owned key ((hmine sid).pending_tracked hpending)
    refine ⟨h.deleteDocument_stores howner (hmine sid) (hphase ▸ trivial), fun sid' => ?_,
      fun cid => (h.cleaners cid).deleteDocument _ _⟩
    refine (hmine sid').deleteDocument fun hmay howner' => ?_
    obtain rfl : sid' = sid := Uploader.request.inj (Option.some.inj (howner'.symm.trans howner))
    rw [hphase] at hmay
    exact hmay
  | unwind sid hphase =>
    have hopen : (w.sessions sid).phase.Open := by rcases hphase with hphase | hphase <;> rw [hphase] <;> trivial
    refine h.edit ((hmine sid).rollbackWithUploadCleanup hopen (.refl _) fun _ key hkey hrefers => ?_)
    have howner := (hmine sid).owned key ((hmine sid).pending_tracked hkey)
    exact (hmine sid).unsaved hopen key howner (h.stores.refers_saved key hrefers)
  | commit sid hphase hnested =>
    have hcommits := (hmine sid).commits (hphase ▸ trivial)
    have hs := (hmine sid).committed (w.toStores.grows_commit (w.sessions sid).changes)
      { (w.sessions sid).clearPendingUploads.rollback with phase := .committed } rfl rfl ?_ ?_ ?_
    · exact Sound.put (h.commit_stores (hmine sid) (hphase ▸ trivial)) hs
        (fun sid' hne => (hmine sid').commit hne.symm fun key hkey => (hcommits key hkey).1)
        fun cid => (h.cleaners cid).commit fun key hkey => (hcommits key hkey).2.1
    all_goals
      unfold Session.clearPendingUploads
      rw [if_neg (by rw [hnested]; decide)]
    · exact Finset.empty_subset _
    · rfl
    · rfl
  | commitLost sid hphase hnested => exact h.edit ((hmine sid).turn .undecided (hphase ▸ trivial) trivial fun _ =>
      hphase ▸ trivial)
  | settle sid applied hphase =>
    have hopen : (w.sessions sid).phase.Open := hphase ▸ trivial
    cases applied with
    | false => exact h.edit ((hmine sid).rollbackWithUploadCleanup hopen (.refl _) fun heq => absurd heq (by decide))
    | true =>
      have hcommits := (hmine sid).commits (hphase ▸ trivial)
      exact Sound.put (h.commit_stores (hmine sid) (hphase ▸ trivial))
        ((hmine sid).rollbackWithUploadCleanup hopen (w.toStores.grows_commit _) fun heq => absurd heq (by decide))
        (fun sid' hne => (hmine sid').commit hne.symm fun key hkey => (hcommits key hkey).1)
        fun cid => (h.cleaners cid).commit fun key hkey => (hcommits key hkey).2.1
  | check sid keys readable hphase => exact h.edit ((hmine sid).check h.stores hphase readable)
  | purgeNext sid keys key outcome hphase hkey =>
    have howner := (hmine sid).owned key ((hmine sid).doomed keys (.inr hphase) hkey)
    have hunused := (hmine sid).unused keys hphase key hkey
    refine Sound.put (h.stores.deleteDocument (howner ▸ Option.some_ne_none _) hunused outcome)
      ((hmine sid).purgeNext hphase key outcome) (fun sid' hne => (hmine sid').deleteDocument fun _ howner' => ?_)
      fun cid => (h.cleaners cid).deleteDocument _ _
    exact hne (Uploader.request.inj (Option.some.inj (howner'.symm.trans howner)))
  | take cid id job now hidle hjob hdue =>
    exact Sound.putCleaner h.stores hmine (h.stores.queue_saved _ hjob) h.cleaners
  | look cid id job now htaken =>
    have hjob : CleanerSound w.toStores (.taken id job) := htaken ▸ h.cleaners cid
    refine Sound.putCleaner h.stores hmine ?_ h.cleaners
    split_ifs with hrefers
    · exact ⟨hjob, rfl⟩
    · exact ⟨hjob, hrefers⟩
  | delete cid id job outcome error now hdeleting =>
    have hjob : CleanerSound w.toStores (.deleting id job) := hdeleting ▸ h.cleaners cid
    refine Sound.putCleaner (h.stores.deleteDocument (h.stores.saved_stored _ hjob.1.1) hjob.2 outcome)
      (fun sid => (hmine sid).deleteDocument fun hmay howner => ?_) ⟨hjob.1, ?_⟩
      fun cid => (h.cleaners cid).deleteDocument _ _
    · exact (hmine sid).unsaved hmay.isOpen _ howner hjob.1.1
    · cases outcome with
      | done => exact Finset.mem_insert_self _ _
      | refused | unreported => rfl
  | finish cid id job left applied hending =>
    have hjob : CleanerSound w.toStores (.ending id job left) := hending ▸ h.cleaners cid
    cases applied with
    | false => exact Sound.putCleaner h.stores hmine trivial h.cleaners
    | true =>
      have hg := w.toStores.grows_db (w.db.dequeue id left)
      refine Sound.putCleaner (h.stores.dequeue hjob)
        (fun sid => (hmine sid).mono hg (hmine sid).unsaved (hmine sid).kept (hmine sid).unused) trivial fun cid => ?_
      refine (h.cleaners cid).mono hg fun id' job' heq => ?_
      have hold := h.cleaners cid
      rw [heq] at hold
      exact hold.2
  | crash cid => exact Sound.putCleaner h.stores hmine trivial h.cleaners

theorem World.knows_of_mem_start (h : key ∈ (World.start db).saved) : db.Knows key := by
  rcases List.mem_append.1 (List.mem_toFinset.1 h) with h | h
  · obtain ⟨row, hrow, hkey⟩ := List.mem_map.1 h
    exact .inl ⟨row, hrow, hkey⟩
  · obtain ⟨p, hp, hkey⟩ := List.mem_map.1 h
    exact .inr ⟨p, hp, hkey⟩

theorem World.jobKey_start (hids : (db.queue.map Prod.fst).Nodup) {p : Nat × StorageDeletion} (hp : p ∈ db.queue) :
    (World.start db).jobKey p.1 = some p.2.fileKey := by
  unfold start
  dsimp only
  cases hfind : db.queue.find? fun q => decide (q.1 = p.1) with
  | none => exact absurd (List.find?_eq_none.1 hfind p hp) (by simp)
  | some q =>
    have hq := List.mem_of_find?_eq_some hfind
    have hid : q.1 = p.1 := by simpa using List.find?_some hfind
    rw [List.inj_on_of_nodup_map hids hq hp hid]
    rfl

theorem World.start_unowned (key : FileKey) : (World.start db).uploadedBy key ≠ some (.request sid) := by
  unfold start
  dsimp only
  split_ifs <;> intro heq <;> cases heq

theorem World.start_sound (hids : (db.queue.map Prod.fst).Nodup) : Sound (.start db) where
  stores := {
    deleted_stored := fun key hkey => absurd hkey (Finset.notMem_empty key)
    saved_stored := fun key hkey => by
      rw [show (World.start db).uploadedBy key = some .earlier from if_pos (knows_of_mem_start hkey)]
      exact Option.some_ne_none _
    refers_saved := by
      rintro key ⟨row, hrow, rfl⟩
      exact List.mem_toFinset.2 (List.mem_append_left _ (List.mem_map_of_mem hrow))
    refers_kept := fun key _ => Finset.notMem_empty key
    queue_saved := fun p hp =>
      ⟨List.mem_toFinset.2 (List.mem_append_right _ (List.mem_map.2 ⟨p, hp, rfl⟩)), jobKey_start hids hp⟩
    accounted := fun key hkey => .inl (knows_of_mem_start hkey) }
  sessions sid := {
    owned := fun key hkey => absurd hkey (Finset.notMem_empty key)
    pending_tracked := Finset.empty_subset _
    added := fun key hkey => absurd hkey (Finset.notMem_empty key)
    removed := fun row id envelopeId queuedAt hmem => absurd hmem List.not_mem_nil
    discarded := Finset.empty_subset _
    unsaved := fun _ key howner => absurd howner (start_unowned key)
    kept := fun _ key howner => absurd howner (start_unowned key)
    doomed := fun keys hphase => by rcases hphase with hphase | hphase <;> cases hphase
    unused := fun keys hphase => by cases hphase
    accounted := fun key hkey => absurd hkey (Finset.notMem_empty key) }
  cleaners _ := trivial

theorem Steps.sound (h : Sound w) (hsteps : Steps w w') : Sound w' := by
  induction hsteps with
  | refl => exact h
  | tail _ hstep ih => exact hstep.sound ih

theorem Step.grows (hstep : Step w w') : w.toStores.Grows w'.toStores := by
  cases hstep with
  | upload sid key hphase hnew => exact Stores.grows_upload hnew _
  | remove sid row id envelopeId queuedAt hphase hrow htable hid => exact Stores.grows_queue hid _
  | discard | purge | purgeNext | delete => exact Stores.grows_deleteDocument _ _ _
  | commit => exact Stores.grows_commit _ _
  | settle sid applied hphase =>
    cases applied with
    | false => exact .refl _
    | true => exact Stores.grows_commit _ _
  | finish => exact Stores.grows_db _ _
  | _ => exact .refl _

theorem Steps.grows (hsteps : Steps w w') : w.toStores.Grows w'.toStores := by
  induction hsteps with
  | refl => exact .refl _
  | tail _ hstep ih => exact ih.trans hstep.grows

theorem Step.queued (h : Sound w) (hstep : Step w w') {p : Nat × StorageDeletion} (hp : p ∈ w.db.queue) :
    (∃ p' ∈ w'.db.queue, p'.1 = p.1) ∨ p.2.fileKey ∈ w'.deleted := by
  cases hstep with
  | commit => exact .inl ⟨p, Database.queue_applyAll.2 (.inl hp), rfl⟩
  | settle sid applied hphase =>
    cases applied with
    | false => exact .inl ⟨p, hp, rfl⟩
    | true => exact .inl ⟨p, Database.queue_applyAll.2 (.inl hp), rfl⟩
  | finish cid id job left applied hending =>
    have hjob : CleanerSound w.toStores (.ending id job left) := hending ▸ h.cleaners cid
    cases applied with
    | false => exact .inl ⟨p, hp, rfl⟩
    | true =>
      rcases Database.queue_dequeue id left hp with ⟨p', hp', hid, -⟩ | ⟨hid, hleft⟩
      · exact .inl ⟨p', hp', hid⟩
      · subst hid hleft
        have hkey := Option.some.inj ((h.stores.queue_saved p hp).2.symm.trans hjob.1.2)
        exact .inr (hkey ▸ hjob.2)
  | _ => exact .inl ⟨p, hp, rfl⟩

theorem Steps.queued (h : Sound w) (hsteps : Steps w w') {p : Nat × StorageDeletion} (hp : p ∈ w.db.queue) :
    (∃ p' ∈ w'.db.queue, p'.1 = p.1) ∨ p.2.fileKey ∈ w'.deleted := by
  induction hsteps with
  | refl => exact .inl ⟨p, hp, rfl⟩
  | @tail w₁ w₂ hbefore hstep ih =>
    have hsound := Steps.sound h hbefore
    rcases ih with ⟨p', hp', hid⟩ | hdeleted
    · rcases hstep.queued hsound hp' with ⟨p'', hp'', hid'⟩ | hdeleted
      · exact .inl ⟨p'', hp'', hid'.trans hid⟩
      · have hjob : w₁.jobKey p.1 = some p.2.fileKey := (Steps.grows hbefore).jobKey _ _ (h.stores.queue_saved p hp).2
        have hjob' := (hsound.stores.queue_saved p' hp').2
        rw [hid, hjob] at hjob'
        exact .inr (Option.some.inj hjob' ▸ hdeleted)
    · exact .inr (hstep.grows.deleted hdeleted)

/-! ## The law -/

/-- **Stored objects follow the database.** However requests and workers interleave, fail, are cancelled or crash: no
committed row refers to an object that was deleted; when a request is over, what it tracked is referred to, or queued
since, or gone, unless a deletion failed, its commit could not be confirmed, or it committed without a row for it; and a
job leaves the queue only after its object was deleted. -/
theorem Steps.objects_kept (hids : (db.queue.map Prod.fst).Nodup) (h : Steps (.start db) w) :
    (∀ row ∈ w.db.rows, row.fileKey ∉ w.deleted) ∧
    (∀ sid, (w.sessions sid).phase.Ended → ∀ key ∈ (w.sessions sid).tracked,
      w.db.Refers key ∨ key ∈ w.saved ∧ w.db.Queued key ∨ key ∈ w.deleted ∨ key ∈ w.failed ∨
        (w.sessions sid).phase = .unconfirmed ∨ (w.sessions sid).phase = .committed ∧ key ∉ w.saved) ∧
    ∀ w', Steps w w' → ∀ p ∈ w.db.queue, (∃ p' ∈ w'.db.queue, p'.1 = p.1) ∨ p.2.fileKey ∈ w'.deleted := by
  have hsound := h.sound (World.start_sound hids)
  refine ⟨fun row hrow => hsound.stores.refers_kept _ ⟨row, hrow, rfl⟩, fun sid hended key hkey => ?_,
    fun w' hsteps p hp => hsteps.queued hsound hp⟩
  have hsaved : key ∈ w.saved → w.db.Refers key ∨ key ∈ w.saved ∧ w.db.Queued key ∨ key ∈ w.deleted := by
    intro hsaved
    rcases hsound.stores.accounted key hsaved with (hrefers | hqueued) | hdeleted
    · exact .inl hrefers
    · exact .inr (.inl ⟨hsaved, hqueued⟩)
    · exact .inr (.inr hdeleted)
  have haccounts := (hsound.sessions sid).accounted key hkey
  unfold Session.Accounts at haccounts
  cases hphase : (w.sessions sid).phase with
  | purging keys =>
    rw [hphase] at hended haccounts
    obtain rfl : keys = ∅ := hended
    rcases haccounts with hmem | hdeleted | hfailed | hkept
    · exact absurd hmem (Finset.notMem_empty key)
    · tauto
    · tauto
    · tauto
  | committed => tauto
  | unconfirmed => tauto
  | running | failing | undecided | checking =>
    rw [hphase] at hended
    exact hended.elim

def draftKey : FileKey := .document 1 7 ".txt"

/-- A request whose handler goes on after it rolled its row back to a savepoint: the commit goes through, and the object
is neither referred to nor deleted. -/
theorem forgotten_upload : ∃ w, Steps (.start ⟨[], []⟩) w ∧ (w.sessions 0).phase = .committed ∧
    draftKey ∈ (w.sessions 0).tracked ∧ ¬ w.db.Refers draftKey ∧ ¬ w.db.Queued draftKey ∧
    draftKey ∉ w.deleted ∧ draftKey ∉ w.failed := by
  have h₁ : Steps (.start ⟨[], []⟩) _ := .single (.upload 0 draftKey rfl rfl)
  have h₂ := h₁.tail (.track 0 draftKey rfl rfl (by decide))
  have h₃ := h₂.tail (.beginNested 0 rfl)
  have h₄ := h₃.tail (.add 0 ⟨.filingDocuments, 1, draftKey⟩ rfl (by decide) (by decide))
  have h₅ := h₄.tail (.rollbackNested 0 rfl)
  have h₆ := h₅.tail (.commit 0 rfl rfl)
  exact ⟨_, h₆, rfl, by decide, by decide, by decide, by decide, by decide⟩

/-- A commit that was applied before it failed: its upload is kept, the one without a row is deleted. -/
theorem objects_kept_lost : ∃ w, Steps (.start ⟨[], []⟩) w ∧ (w.sessions 0).phase = .purging ∅ ∧
    w.db.Refers draftKey ∧ w.deleted = {.document 1 8 ".txt"} ∧ ∀ row ∈ w.db.rows, row.fileKey ∉ w.deleted := by
  have h₁ : Steps (.start ⟨[], []⟩) _ := .single (.upload 0 draftKey rfl rfl)
  have h₂ := h₁.tail (.track 0 draftKey rfl rfl (by decide))
  have h₃ := h₂.tail (.upload 0 (.document 1 8 ".txt") rfl (by decide))
  have h₄ := h₃.tail (.track 0 (.document 1 8 ".txt") rfl (by decide) (by decide))
  have h₅ := h₄.tail (.add 0 ⟨.filingDocuments, 1, draftKey⟩ rfl (by decide) (by decide))
  have h₆ := h₅.tail (.commitLost 0 rfl rfl)
  have h₇ := h₆.tail (.settle 0 true rfl)
  have h₈ := h₇.tail (.check 0 _ true rfl)
  have h₉ := h₈.tail (.purgeNext 0 _ (.document 1 8 ".txt") .done rfl (by decide))
  exact ⟨_, h₉, by decide, by decide, by decide, (Steps.objects_kept (by decide) h₉).1⟩

end Muefs.StorageIntent
