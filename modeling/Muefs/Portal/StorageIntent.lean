import Mathlib.Data.Finset.Basic
import Muefs.Portal.Publication

/-!
# Stored objects and the commit of a request

Object storage and database do not commit together. Here a request, and a worker of the deletion queue, are taken apart
into the steps between which anything else can happen.

* `Database` : the rows that refer to objects, and the queue of objects to delete; `Change` : what a transaction does;
* `Session` : a request, with the changes under each savepoint and the uploads that no commit has saved yet;
* `Cleaner` : a worker in `cleanup_next`;
* `World`, `Step` : any number of both over one database and one object store.
-/

namespace Muefs.StorageIntent

/-! ## The database -/

/-- The tables that refer to stored objects. -/
inductive FileTable where
  | filingDocuments
  | documentPublicCopies
  deriving DecidableEq

structure FileRow where
  table : FileTable
  id : Nat
  fileKey : FileKey
  deriving DecidableEq

/-- What is committed of these tables and of `storage_deletions`, its rows with their ids. -/
structure Database where
  rows : List FileRow
  queue : List (Nat × StorageDeletion)

/-- What a transaction does: it adds a row, or it deletes a document and queues its object. -/
inductive Change where
  | add (row : FileRow)
  | remove (row : FileRow) (id : Nat) (envelopeId : FilingId) (queuedAt : Instant)

/-- The row that `remove_document` queues. -/
def FileRow.deletion (row : FileRow) (envelopeId : FilingId) (queuedAt : Instant) : StorageDeletion where
  documentId := row.id
  envelopeId := envelopeId
  fileKey := row.fileKey
  nextAttemptAt := queuedAt

def Database.apply (db : Database) : Change → Database
  | .add row => { db with rows := db.rows ++ [row] }
  | .remove row id envelopeId queuedAt =>
    { rows := db.rows.filter fun r => decide (r ≠ row)
      queue := db.queue ++ [(id, row.deletion envelopeId queuedAt)] }

def Database.applyAll (db : Database) (changes : List Change) : Database := changes.foldl Database.apply db

/-- A committed row refers to the object. -/
def Database.Refers (db : Database) (key : FileKey) : Prop := ∃ row ∈ db.rows, row.fileKey = key

/-- The object is queued for deletion. -/
def Database.Queued (db : Database) (key : FileKey) : Prop := ∃ p ∈ db.queue, p.2.fileKey = key

instance (db : Database) (key : FileKey) : Decidable (db.Refers key) :=
  inferInstanceAs (Decidable (∃ row ∈ db.rows, row.fileKey = key))

instance (db : Database) (key : FileKey) : Decidable (db.Queued key) :=
  inferInstanceAs (Decidable (∃ p ∈ db.queue, p.2.fileKey = key))

/-- `_referenced`, where it can read. A row with one of these keys is added by one commit at most, and that is decided
before, so one look stands for both queries. -/
def Database.referenced (db : Database) (keys : Finset FileKey) : Finset FileKey := keys.filter db.Refers

/-! ## A request -/

/-- How far a request is in `session_scope`. -/
inductive Phase where
  /-- In the handler. -/
  | running
  /-- In an `except` block of the handler, which raises again. -/
  | failing
  /-- The commit has raised. -/
  | undecided
  /-- After the rollback, about to look for these keys. -/
  | checking (keys : Finset FileKey)
  /-- In `purge_keys`, with these keys left. -/
  | purging (keys : Finset FileKey)
  /-- The commit went through. -/
  | committed
  /-- The commit has raised, and its outcome could not be read. -/
  | unconfirmed
  deriving DecidableEq

structure Session where
  phase : Phase := .running
  /-- The changes outside savepoints. -/
  root : List Change := []
  /-- The changes under each open savepoint, the innermost first. -/
  nested : List (List Change) := []
  /-- `session.info[_PENDING]` -/
  pending : Finset FileKey := ∅
  /-- Every object that was ever tracked. -/
  tracked : Finset FileKey := ∅
  /-- The objects that the handler deleted, as a repeated upload does with its own. -/
  discarded : Finset FileKey := ∅

namespace Session

/-- `track_upload` -/
def trackUpload (s : Session) (key : FileKey) : Session :=
  { s with pending := insert key s.pending, tracked := insert key s.tracked }

/-- `release_upload` -/
def releaseUpload (s : Session) (key : FileKey) : Session := { s with pending := s.pending.erase key }

/-- `take_pending_uploads` -/
def takePendingUploads (s : Session) : Finset FileKey × Session := (s.pending, { s with pending := ∅ })

/-- Every change that is not rolled back. -/
def changes (s : Session) : List Change := s.root ++ s.nested.flatten

def record (s : Session) (change : Change) : Session :=
  match s.nested with
  | [] => { s with root := s.root ++ [change] }
  | inner :: outer => { s with nested := (inner ++ [change]) :: outer }

def beginNested (s : Session) : Session := { s with nested := [] :: s.nested }

/-- `session.in_nested_transaction()` -/
def inNestedTransaction (s : Session) : Bool := !s.nested.isEmpty

/-- `_clear_pending_uploads`, which listens to commits of either kind. -/
def clearPendingUploads (s : Session) : Session :=
  if s.inNestedTransaction = true then s else { s with pending := ∅ }

/-- A savepoint is released. The listeners come first, while the savepoint is open. -/
def commitNested (s : Session) : Session :=
  let s := s.clearPendingUploads
  match s.nested with
  | [] => s
  | [inner] => { s with root := s.root ++ inner, nested := [] }
  | inner :: outer :: rest => { s with nested := (outer ++ inner) :: rest }

def rollbackNested (s : Session) : Session := { s with nested := s.nested.tail }

/-- `session.rollback()`. Where this raises, the database has dropped the transaction. -/
def rollback (s : Session) : Session := { s with root := [], nested := [] }

/-- `rollback_with_upload_cleanup`, up to what it asks of the database and of the object store. -/
def rollbackWithUploadCleanup (s : Session) (verify : Bool) : Session :=
  let (keys, s) := s.takePendingUploads
  { s.rollback with phase := if verify = true then .checking keys else .purging keys }

end Session

/-! ## A worker -/

/-- How far a worker is in `cleanup_next`, with the job it has read and the time of that. -/
inductive Cleaner where
  | idle
  | taken (id : Nat) (job : StorageDeletion)
  /-- About to delete the object, which nothing referred to. -/
  | deleting (id : Nat) (job : StorageDeletion)
  /-- About to commit what becomes of the job: it is removed, or put off. -/
  | ending (id : Nat) (job : StorageDeletion) (left : Option StorageDeletion)
  deriving DecidableEq

end Muefs.StorageIntent

namespace Muefs

/-- The job after an error. -/
def StorageDeletion.deferred (job : StorageDeletion) (error : String) (now : Instant) : StorageDeletion :=
  { job with
    attemptCount := job.attemptCount + 1
    lastError := some error
    nextAttemptAt := now + retryDelay (job.attemptCount + 1) }

end Muefs

namespace Muefs.StorageIntent

/-- The end of `cleanup_next` for the job `id`. -/
def Database.dequeue (db : Database) (id : Nat) (left : Option StorageDeletion) : Database :=
  { db with queue := db.queue.filterMap fun p => if p.1 = id then left.map (id, ·) else some p }

/-! ## Both -/

/-- What `delete_document` does: it returns, or it raises, and then the object may be there or gone. -/
inductive Deletion where
  | done
  | refused
  | unreported
  deriving DecidableEq

/-- Who stored an object: a request, or somebody before the run. -/
inductive Uploader where
  | earlier
  | request (sid : Nat)
  deriving DecidableEq

/-- The database and the object store, with a record of what happened in them. -/
structure Stores where
  db : Database
  /-- The objects that were ever stored. -/
  uploadedBy : FileKey → Option Uploader
  /-- The object of every job that was ever queued. -/
  jobKey : Nat → Option FileKey
  /-- The objects that are gone. -/
  deleted : Finset FileKey
  /-- The objects that some deletion raised for. -/
  failed : Finset FileKey
  /-- The objects that some committed row referred to. -/
  saved : Finset FileKey

/-- `delete_document`, with this outcome. -/
def Stores.deleteDocument (st : Stores) (key : FileKey) (outcome : Deletion) : Stores :=
  { st with
    deleted := if outcome = .refused then st.deleted else insert key st.deleted
    failed := if outcome = .done then st.failed else insert key st.failed }

/-- The keys of the rows that a transaction adds. -/
def addedKeys (changes : List Change) : Finset FileKey :=
  (changes.filterMap fun | .add row => some row.fileKey | .remove .. => none).toFinset

/-- The database commits a transaction. -/
def Stores.commit (st : Stores) (changes : List Change) : Stores :=
  { st with db := st.db.applyAll changes, saved := st.saved ∪ addedKeys changes }

structure World extends Stores where
  sessions : Nat → Session
  cleaners : Nat → Cleaner

namespace World

def put (w : World) (sid : Nat) (s : Session) : World := { w with sessions := Function.update w.sessions sid s }

def putCleaner (w : World) (cid : Nat) (c : Cleaner) : World := { w with cleaners := Function.update w.cleaners cid c }

/-- Before any request: what the database has then, with every object that it knows of in the store. -/
def start (db : Database) : World where
  db := db
  uploadedBy key := if db.Refers key ∨ db.Queued key then some .earlier else none
  jobKey id := (db.queue.find? fun p => p.1 = id).map fun p => p.2.fileKey
  deleted := ∅
  failed := ∅
  saved := (db.rows.map FileRow.fileKey ++ db.queue.map fun p => p.2.fileKey).toFinset
  sessions _ := {}
  cleaners _ := .idle

end World

/-- One step of a request, or of a worker. -/
inductive Step (w : World) : World → Prop where
  /-- `upload_document` returns. Its key was drawn for it. -/
  | upload (sid : Nat) (key : FileKey) (hphase : (w.sessions sid).phase = .running) (hnew : w.uploadedBy key = none) :
    Step w { w with uploadedBy := Function.update w.uploadedBy key (some (.request sid)) }
  /-- `track_upload`, right after it -/
  | track (sid : Nat) (key : FileKey) (hphase : (w.sessions sid).phase = .running)
      (howner : w.uploadedBy key = some (.request sid)) (hnew : key ∉ (w.sessions sid).tracked) :
    Step w (w.put sid ((w.sessions sid).trackUpload key))
  /-- The row for an upload is flushed. -/
  | add (sid : Nat) (row : FileRow) (hphase : (w.sessions sid).phase = .running)
      (hpending : row.fileKey ∈ (w.sessions sid).pending) (hkept : row.fileKey ∉ (w.sessions sid).discarded) :
    Step w (w.put sid ((w.sessions sid).record (.add row)))
  /-- `remove_document` deletes a document for good. -/
  | remove (sid : Nat) (row : FileRow) (id : Nat) (envelopeId : FilingId) (queuedAt : Instant)
      (hphase : (w.sessions sid).phase = .running) (hrow : row ∈ w.db.rows) (htable : row.table = .filingDocuments)
      (hid : w.jobKey id = none) :
    Step w { w.put sid ((w.sessions sid).record (.remove row id envelopeId queuedAt)) with
      jobKey := Function.update w.jobKey id (some row.fileKey) }
  | beginNested (sid : Nat) (hphase : (w.sessions sid).phase = .running) :
    Step w (w.put sid (w.sessions sid).beginNested)
  | commitNested (sid : Nat) (hphase : (w.sessions sid).phase = .running)
      (hnested : (w.sessions sid).inNestedTransaction = true) :
    Step w (w.put sid (w.sessions sid).commitNested)
  /-- An exception leaves the block of a savepoint. Whether the handler catches it is the next step. -/
  | rollbackNested (sid : Nat) (hphase : (w.sessions sid).phase = .running) :
    Step w (w.put sid (w.sessions sid).rollbackNested)
  /-- The handler deletes the object of an upload that it has no row for. -/
  | discard (sid : Nat) (key : FileKey) (outcome : Deletion) (hphase : (w.sessions sid).phase = .running)
      (hpending : key ∈ (w.sessions sid).pending) (hunused : key ∉ addedKeys (w.sessions sid).changes) :
    Step w { w.put sid (if outcome = .done then
        { w.sessions sid with discarded := insert key (w.sessions sid).discarded }
      else { w.sessions sid with phase := .failing }) with toStores := w.toStores.deleteDocument key outcome }
  /-- `release_upload`, after it was deleted -/
  | release (sid : Nat) (key : FileKey) (hphase : (w.sessions sid).phase = .running)
      (hdone : key ∈ (w.sessions sid).discarded) :
    Step w (w.put sid ((w.sessions sid).releaseUpload key))
  /-- An exception reaches an `except` block of the handler. -/
  | fail (sid : Nat) (hphase : (w.sessions sid).phase = .running) :
    Step w (w.put sid { w.sessions sid with phase := .failing })
  /-- `purge_keys` in that block -/
  | purge (sid : Nat) (key : FileKey) (outcome : Deletion) (hphase : (w.sessions sid).phase = .failing)
      (hpending : key ∈ (w.sessions sid).pending) :
    Step w { w with toStores := w.toStores.deleteDocument key outcome }
  /-- The handler has raised, or was cancelled. -/
  | unwind (sid : Nat) (hphase : (w.sessions sid).phase = .running ∨ (w.sessions sid).phase = .failing) :
    Step w (w.put sid ((w.sessions sid).rollbackWithUploadCleanup false))
  /-- The commit goes through, and its listeners run. What it raises after that changes nothing here. -/
  | commit (sid : Nat) (hphase : (w.sessions sid).phase = .running)
      (hnested : (w.sessions sid).inNestedTransaction = false) :
    Step w { w.put sid { (w.sessions sid).clearPendingUploads.rollback with phase := .committed } with
      toStores := w.toStores.commit (w.sessions sid).changes }
  /-- The commit raises, or is cancelled. -/
  | commitLost (sid : Nat) (hphase : (w.sessions sid).phase = .running)
      (hnested : (w.sessions sid).inNestedTransaction = false) :
    Step w (w.put sid { w.sessions sid with phase := .undecided })
  /-- The database has applied that commit, or not. -/
  | settle (sid : Nat) (applied : Bool) (hphase : (w.sessions sid).phase = .undecided) :
    Step w { w.put sid ((w.sessions sid).rollbackWithUploadCleanup true) with
      toStores := if applied = true then w.toStores.commit (w.sessions sid).changes else w.toStores }
  /-- `_referenced` reads the database, or cannot. -/
  | check (sid : Nat) (keys : Finset FileKey) (readable : Bool) (hphase : (w.sessions sid).phase = .checking keys) :
    Step w (w.put sid { w.sessions sid with
      phase := if readable = true ∨ keys = ∅ then .purging (keys \ w.db.referenced keys) else .unconfirmed })
  /-- One round of `purge_keys` -/
  | purgeNext (sid : Nat) (keys : Finset FileKey) (key : FileKey) (outcome : Deletion)
      (hphase : (w.sessions sid).phase = .purging keys) (hkey : key ∈ keys) :
    Step w { w.put sid { w.sessions sid with phase := .purging (keys.erase key) } with
      toStores := w.toStores.deleteDocument key outcome }
  /-- The query of `cleanup_next` picks a job that is due. That it skips locked jobs is not used. -/
  | take (cid id : Nat) (job : StorageDeletion) (now : Instant) (hidle : w.cleaners cid = .idle)
      (hjob : (id, job) ∈ w.db.queue) (hdue : job.nextAttemptAt ≤ now) :
    Step w (w.putCleaner cid (.taken id job))
  /-- Whether anything still refers to the object. -/
  | look (cid id : Nat) (job : StorageDeletion) (now : Instant) (htaken : w.cleaners cid = .taken id job) :
    Step w (w.putCleaner cid (if w.db.Refers job.fileKey then
        .ending id job (some (job.deferred "Object is still referenced by a filing document or public copy" now))
      else .deleting id job))
  /-- The worker deletes the object. -/
  | delete (cid id : Nat) (job : StorageDeletion) (outcome : Deletion) (error : String) (now : Instant)
      (hdeleting : w.cleaners cid = .deleting id job) :
    Step w { w.putCleaner cid (.ending id job (if outcome = .done then none
        else some (job.deferred ("Storage deletion failed (" ++ error ++ ")") now))) with
      toStores := w.toStores.deleteDocument job.fileKey outcome }
  /-- The transaction of the worker ends: the database has applied it, or not. -/
  | finish (cid id : Nat) (job : StorageDeletion) (left : Option StorageDeletion) (applied : Bool)
      (hending : w.cleaners cid = .ending id job left) :
    Step w { w.putCleaner cid .idle with db := if applied = true then w.db.dequeue id left else w.db }
  /-- A worker crashes. -/
  | crash (cid : Nat) : Step w (w.putCleaner cid .idle)

abbrev Steps : World → World → Prop := Relation.ReflTransGen Step

end Muefs.StorageIntent
