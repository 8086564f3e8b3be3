import Muefs.Formats.Json
import Muefs.Formats.Sha256
import Muefs.Model.Values

/-!
# Private case archives

* `Archive` : the entries of a ZIP file in order, with their uncompressed bytes;
* `verifyArchive` : `verify_archive`, the check that needs neither database nor storage;
* `Snapshot` : what the read-only transaction shows; `Snapshot.selected` : the exported rows, a query for each table;
* `ObjectStream` : a stored object as it is read, in chunks, until it ends or fails;
* `writeArchive` : the entries in the order they are written, then the manifest;
* `exportCase` : `export_case` on a directory.
-/

namespace Muefs
open Formats

abbrev Archive := List (String × Content)

/-- A `CaseExportError`, or an exception that is none. -/
inductive ArchiveError where
  | caseExport (message : String)
  | raised (exception : String)
  deriving DecidableEq, Repr

/-- `raise CaseExportError(message)` unless the condition holds. -/
def demand (condition : Prop) [Decidable condition] (message : String) : Except ArchiveError Unit :=
  if condition then .ok () else .error (.caseExport message)

/-- The value, or an exception where there is none. -/
def present {α : Type} (value : Option α) (exception : String) : Except ArchiveError α :=
  match value with
  | some a => .ok a
  | none => .error (.raised exception)

/-- `_MAX_MANIFEST_BYTES` -/
def maxManifestBytes : Nat := 32 * 1024 * 1024

def manifestName : String := "manifest.json"

def readmeName : String := "README.txt"

/-- `f"objects/{fingerprint}"` -/
def objectPath (fingerprint : String) : String := "objects/" ++ fingerprint

/-- `f"records/{table.name}.jsonl"` -/
def recordsPath (table : String) : String := "records/" ++ table ++ ".jsonl"

/-! ## Verification -/

/-- `records/[a-z_]+\.jsonl` -/
def isRecordsName (name : List Char) : Bool :=
  match afterWord "records/".toList name with
  | some rest =>
    let table := rest.take (rest.length - 6)
    rest.drop (rest.length - 6) == ".jsonl".toList && table != [] &&
      table.all fun c => ('a' ≤ c && c ≤ 'z') || c == '_'
  | none => false

/-- `objects/[0-9a-f]{64}` -/
def isObjectName (name : List Char) : Bool :=
  match afterWord "objects/".toList name with
  | some fingerprint => isHexdigest fingerprint
  | none => false

/-- The names that an entry may have. -/
def isEntryName (name : String) : Bool :=
  name == readmeName || isRecordsName name.toList || isObjectName name.toList

/-- `isinstance(value, dict)` -/
def fieldsOf : Json → Option (List (String × Json))
  | .object fields => some fields
  | _ => none

/-- The size and the fingerprint that the manifest states for an entry, where they are of their types. -/
def statedSize (expected : Json) : Option Nat :=
  match expected.get? "size_bytes" with
  | some (.int size) => if 0 ≤ size then some size.toNat else none
  | _ => none

def statedSha256 (expected : Json) : Option String :=
  match expected.get? "sha256" with
  | some (.string sha256) => if isHexdigest sha256.toList then some sha256 else none
  | _ => none

/-- One entry of the manifest, against the archive. -/
def checkEntry (archive : Archive) (name : String) (expected : Json) : Except ArchiveError Unit := do
  demand (isEntryName name ∧ (fieldsOf expected).isSome) "The archive contains an invalid entry"
  let content ← present (getKey archive name) "KeyError"
  demand (statedSize expected = some content.length ∧ (statedSha256 expected).isSome)
    "An archive entry has an invalid size or fingerprint"
  demand (statedSha256 expected = some (hexdigest content))
    "An archive entry does not match its recorded fingerprint or size"

/-- What a verification reports. -/
structure VerifiedArchive where
  caseId : Json
  entries : Nat
  manifestSha256 : String
  expectedFingerprintChecked : Bool

/-- The format and its version. -/
def isArchiveManifest (manifest : Json) : Bool :=
  (fieldsOf manifest).isSome &&
  (match manifest.get? "format" with
    | some (.string format) => format == "muefs-case-archive"
    | _ => false) &&
  (match manifest.get? "format_version" with
    | some version => version.isOne
    | none => false)

/-- `set(names) == {*entries, "manifest.json"}`, the manifest being one of the names. -/
def sameNames (names keys : List String) : Bool :=
  names.all (fun name => name == manifestName || keys.contains name) && keys.all names.contains

/-- `verify_archive` -/
def verifyArchive (archive : Archive) (manifestSha256 : Option String) : Except ArchiveError VerifiedArchive := do
  let names := archive.map (·.1)
  demand (names.Nodup ∧ manifestName ∈ names) "The archive has duplicate entries or no manifest"
  let manifestEntry ← present (getKey archive manifestName) "KeyError"
  let manifestBytes := manifestEntry.take (maxManifestBytes + 1)
  demand (manifestBytes.length ≤ maxManifestBytes) "The manifest exceeds the archive format's size limit"
  let fingerprint := hexdigest manifestBytes
  demand (manifestSha256 = none ∨ manifestSha256 = some fingerprint)
    "The manifest does not match the separately retained fingerprint"
  let manifest ← present (loads manifestBytes) "JSONDecodeError"
  demand (isArchiveManifest manifest) "Unsupported archive format"
  let stated ← present (manifest.get? "entries") "KeyError"
  demand ((fieldsOf stated).any fun entries => sameNames names (entries.map (·.1)))
    "The archive contents do not match the manifest"
  let entries ← present (fieldsOf stated) "TypeError"
  entries.forM fun entry => checkEntry archive entry.1 entry.2
  let caseId ← present (manifest.get? "case_id") "KeyError"
  return { caseId, entries := entries.length, manifestSha256 := fingerprint,
           expectedFingerprintChecked := manifestSha256.isSome }

/-! ## The exported records -/

/-- The tables that are exported, in their order. -/
inductive RecordTable where
  | courts
  | cases
  | caseTypes
  | filingEnvelopes
  | filingDocuments
  | documentPublicCopies
  | filingTransactions
  | caseParticipants
  | payments
  | serviceContacts
  | servicePackets
  | serviceRecipients
  | serviceEvents
  | notifications
  | notificationDeliveryEvents
  | courtCalendars
  | auditLog
  | users
  deriving DecidableEq, Repr

/-- `table.name` -/
def RecordTable.name : RecordTable → String
  | .courts => "courts"
  | .cases => "cases"
  | .caseTypes => "case_types"
  | .filingEnvelopes => "filing_envelopes"
  | .filingDocuments => "filing_documents"
  | .documentPublicCopies => "document_public_copies"
  | .filingTransactions => "filing_transactions"
  | .caseParticipants => "case_participants"
  | .payments => "payments"
  | .serviceContacts => "service_contacts"
  | .servicePackets => "service_packets"
  | .serviceRecipients => "service_recipients"
  | .serviceEvents => "service_events"
  | .notifications => "notifications"
  | .notificationDeliveryEvents => "notification_delivery_events"
  | .courtCalendars => "court_calendars"
  | .auditLog => "audit_log"
  | .users => "users"

/-- The tables whose rows do not depend on the others' actors. -/
def recordTables : List RecordTable :=
  [.courts, .cases, .caseTypes, .filingEnvelopes, .filingDocuments, .documentPublicCopies, .filingTransactions,
   .caseParticipants, .payments, .serviceContacts, .servicePackets, .serviceRecipients, .serviceEvents, .notifications,
   .notificationDeliveryEvents, .courtCalendars, .auditLog]

/-- A row: its columns, as `_json` writes them. -/
abbrev Record := List (String × Json)

/-- `record[column]`, where there is such a column. -/
def Record.value (record : Record) (column : String) : Json := (getKey record column).getD .null

/-- An integer column. -/
def Record.int? (record : Record) (column : String) : Option Int :=
  match record.value column with
  | .int n => some n
  | _ => none

/-- Equality of SQL: nothing is equal to `NULL`. -/
def sqlEq : Json → Json → Bool
  | .int m, .int n => m == n
  | .string s, .string t => s == t
  | _, _ => false

/-- `column IN (values)` -/
def Record.isIn (record : Record) (column : String) (values : List Json) : Bool :=
  values.any (sqlEq (record.value column))

/-- `_ACTOR_FIELDS` -/
def actorFields : List String :=
  ["actor_id", "filer_id", "reviewer_id", "user_id", "recipient_id", "created_by", "published_by",
    "payer_id", "judge_id"]

/-- The columns of an exported user. -/
def userColumns : List String :=
  ["id", "first_name", "last_name", "email", "user_type", "bar_number", "bar_number_verified", "is_active"]

/-- What the read-only transaction shows: the rows of each table by primary key, the schema's revision, and the statuses
that the two inspections of the case yield. A statement can fail, that for the rows of a table after some of them. -/
structure Snapshot where
  rows : RecordTable → List Record
  revision : Option String
  evidence : List String
  connectionFault : Bool
  streamFault : RecordTable → Option Nat

namespace Snapshot
variable (snapshot : Snapshot) (caseId : Int)

/-- `select(column).where(...)` -/
def column (table : RecordTable) (column : String) (predicate : Record → Bool) : List Json :=
  ((snapshot.rows table).filter predicate).map (·.value column)

/-- `Case.id == case_id` -/
def caseRow : Option Record := (snapshot.rows .cases).find? fun row => sqlEq (row.value "id") (.int caseId)

def ofCase (row : Record) : Bool := sqlEq (row.value "case_id") (.int caseId)

def filingIds : List Json := snapshot.column .filingEnvelopes "id" (ofCase caseId)

def documentIds : List Json :=
  snapshot.column .filingDocuments "id" fun row => row.isIn "envelope_id" (snapshot.filingIds caseId)

def copyIds : List Json :=
  snapshot.column .documentPublicCopies "id" fun row => row.isIn "document_id" (snapshot.documentIds caseId)

def paymentFilter (row : Record) : Bool :=
  row.isIn "envelope_id" (snapshot.filingIds caseId) ||
    row.isIn "id" (snapshot.column .filingEnvelopes "payment_id" (ofCase caseId))

def noticeIds : List Json :=
  snapshot.column .notifications "id" fun row => row.isIn "filing_envelope_id" (snapshot.filingIds caseId)

def packetIds : List Json := snapshot.column .servicePackets "id" (ofCase caseId)

def recipientIds : List Json :=
  snapshot.column .serviceRecipients "id" fun row => row.isIn "packet_id" (snapshot.packetIds caseId)

/-- A filing of the case that refers to the payment of a filing outside it. -/
def outsidePayment : Bool :=
  (snapshot.rows .payments).any fun payment =>
    payment.isIn "id" (snapshot.column .filingEnvelopes "payment_id" (ofCase caseId)) &&
      sqlEq (payment.value "envelope_id") (payment.value "envelope_id") &&
      !payment.isIn "envelope_id" (snapshot.filingIds caseId)

/-- The audit events of the case and of its filings, documents, copies, payments and notices. -/
def auditFilter (row : Record) : Bool :=
  let about := fun (entity : String) (ids : List Json) =>
    sqlEq (row.value "entity_type") (.string entity) && row.isIn "entity_id" ids
  about "case" [.int caseId] || about "filing_envelope" (snapshot.filingIds caseId) ||
    about "filing_document" (snapshot.documentIds caseId) || about "document_public_copy" (snapshot.copyIds caseId) ||
    about "payment" (snapshot.column .payments "id" (snapshot.paymentFilter caseId)) ||
    about "notification" (snapshot.noticeIds caseId)

/-- The predicates of the queries, the users' apart. -/
def predicate (courtId : Int) : RecordTable → Record → Bool
  | .courts, row => sqlEq (row.value "id") (.int courtId)
  | .cases, row => sqlEq (row.value "id") (.int caseId)
  | .caseTypes, row => row.isIn "id"
      (snapshot.column .cases "case_type_id" (fun row => sqlEq (row.value "id") (.int caseId)) ++
        snapshot.column .filingEnvelopes "case_type_id" (ofCase caseId))
  | .filingEnvelopes, row => row.isIn "id" (snapshot.filingIds caseId)
  | .filingDocuments, row => row.isIn "id" (snapshot.documentIds caseId)
  | .documentPublicCopies, row => row.isIn "id" (snapshot.copyIds caseId)
  | .filingTransactions, row => row.isIn "filing_id" (snapshot.filingIds caseId)
  | .caseParticipants, row => ofCase caseId row
  | .payments, row => snapshot.paymentFilter caseId row
  | .serviceContacts, row => ofCase caseId row
  | .servicePackets, row => row.isIn "id" (snapshot.packetIds caseId)
  | .serviceRecipients, row => row.isIn "id" (snapshot.recipientIds caseId)
  | .serviceEvents, row => row.isIn "service_recipient_id" (snapshot.recipientIds caseId)
  | .notifications, row => row.isIn "id" (snapshot.noticeIds caseId)
  | .notificationDeliveryEvents, row => row.isIn "notification_id" (snapshot.noticeIds caseId)
  | .courtCalendars, row => sqlEq (row.value "court_id") (.int courtId)
  | .auditLog, row => snapshot.auditFilter caseId row
  | .users, _ => false

/-- The actors that the selected rows name. -/
def actorIds (courtId : Int) : List Json :=
  recordTables.flatMap fun table =>
    ((snapshot.rows table).filter (snapshot.predicate caseId courtId table)).flatMap fun row =>
      actorFields.filterMap (getKey row)

/-- The rows that are exported of a table. -/
def selected (courtId : Int) (table : RecordTable) : List Record :=
  match table with
  | .users => ((snapshot.rows .users).filter fun row => row.isIn "id" (snapshot.actorIds caseId courtId)).map fun row =>
      row.filter fun field => userColumns.contains field.1
  | table => (snapshot.rows table).filter (snapshot.predicate caseId courtId table)

end Snapshot

/-! ## Writing -/

/-- A stored object as `read` returns it: chunks, and whether a read after them fails. -/
structure ObjectStream where
  chunks : List Content
  fault : Bool

/-- `while chunk := source.read(_CHUNK)` : an empty chunk is the end. -/
def ObjectStream.readAll (source : ObjectStream) : Except ArchiveError Content :=
  if source.fault ∧ [] ∉ source.chunks then .error (.raised "BotoCoreError")
  else .ok (source.chunks.takeWhile (· ≠ [])).flatten

/-- `download_document(key)`, read to its end. -/
def readObject (store : String → Option ObjectStream) (key : String) : Except ArchiveError Content := do
  (← present (store key) "FileNotFoundError").readAll

abbrev Measured := String × Nat

/-- The entries so far, what the manifest will say of them, the counts, and the objects by their keys. -/
structure Writing where
  archive : Archive
  entries : List (String × Measured)
  counts : List (String × Nat)
  objects : List (String × Measured)

/-- `_json` -/
def jsonLine (value : Json) : Except ArchiveError Content := do
  return utf8Encode ((← present (dumps value) "ValueError") ++ ['\n'])

/-- The retained fingerprint and size of a document or a copy. -/
def recordMeasure (record : Record) : Option Measured :=
  match record.value "sha256_hash", record.value "file_size_bytes" with
  | .string fingerprint, .int length =>
    if isHexdigest fingerprint.toList ∧ 0 ≤ length then some (fingerprint, length.toNat) else none
  | _, _ => none

/-- `record["file_key"]`, a text that is never `NULL`. -/
def recordKey (record : Record) : Option String :=
  match record.value "file_key" with
  | .string key => some key
  | _ => none

/-- The tables whose rows have stored bytes. -/
def RecordTable.hasObjects (table : RecordTable) : Bool := table == .filingDocuments || table == .documentPublicCopies

/-- One row: the objects with its own, and its line. -/
def writeRecord (courtId : Int) (table : RecordTable) (objects : List (String × Measured)) (record : Record) :
    Except ArchiveError (List (String × Measured) × Content) := do
  demand (table ≠ .filingEnvelopes ∨ record.int? "court_id" = some courtId)
    "A filing's court does not match the selected case"
  if table.hasObjects then
    demand (recordMeasure record).isSome "A document has an invalid fingerprint or size"
    let measured ← present (recordMeasure record) "TypeError"
    let key ← present (recordKey record) "TypeError"
    demand ((getKey objects key).all (· = measured)) "Conflicting metadata refers to one stored object"
    let line ← jsonLine (.object (setKey record "object_path" (.string (objectPath measured.1))))
    return (setKey objects key measured, line)
  else
    return (objects, ← jsonLine (.object record))

/-- The rows of a table, one line each. -/
def writeRecords (courtId : Int) (table : RecordTable) (objects : List (String × Measured)) :
    List Record → Except ArchiveError (List (String × Measured) × Content)
  | [] => .ok (objects, [])
  | record :: records => do
    let (objects, line) ← writeRecord courtId table objects record
    let (objects, lines) ← writeRecords courtId table objects records
    return (objects, line ++ lines)

/-- The file of a table. -/
def writeTable (snapshot : Snapshot) (caseId courtId : Int) (w : Writing) (table : RecordTable) :
    Except ArchiveError Writing := do
  let records := snapshot.selected caseId courtId table
  let streamed := match snapshot.streamFault table with
    | some n => records.take n
    | none => records
  let (objects, content) ← writeRecords courtId table w.objects streamed
  if (snapshot.streamFault table).isSome then throw (.raised "SQLAlchemyError")
  let path := recordsPath table.name
  return { archive := w.archive ++ [(path, content)], entries := setKey w.entries path (hexdigest content,
    content.length),
           counts := setKey w.counts table.name records.length, objects }

/-- The object under a key. Its bytes are stored once for each fingerprint, and read each time. -/
def writeObject (store : String → Option ObjectStream) (w : Writing) (object : String × Measured) :
    Except ArchiveError Writing := do
  let path := objectPath object.2.1
  let content ← readObject store object.1
  demand (hexdigest content = object.2.1 ∧ content.length = object.2.2)
    "Stored bytes do not match a document's retained fingerprint or size"
  return { w with
    archive := if (getKey w.entries path).isNone then w.archive ++ [(path, content)] else w.archive,
    entries := setKey w.entries path (object.2.1, content.length) }

/-- The bytes of a literal. -/
def textBytes (text : String) : Content := text.toByteArray.data.toList

/-- The lines of `_README`. -/
def readmeLines : List String := [
  "PRIVATE MUEFS CASE ARCHIVE - FORMAT 1",
  "",
  "This archive contains nonpublic case records and personal information.",
  "Keep it in storage approved for those records.",
  "",
  "manifest.json lists every archive entry, its SHA-256 fingerprint and uncompressed",
  "size, along with record counts, source schema revision and export times.",
  "records/<table>.jsonl contains UTF-8 JSON, one source record per line. Source IDs",
  "are preserved, timestamps use UTC, and monetary amounts are recorded in cents.",
  "User records contain limited profile information, not identity-provider state.",
  "",
  "objects/<sha256> contains exact stored document bytes. Each document/copy record",
  "identifies its object_path and MIME type. Original, superseded, confidential and",
  "prepared public copies are included when linked to the selected case. Objects",
  "with identical fingerprints share one archive entry; source records remain separate.",
  "",
  "The archive is a records-transfer package, not an automatic restore or certified",
  "court copy. Checksums establish consistency, not authenticity. Retain the reported",
  "manifest SHA-256 separately, and compare it when verifying the received archive.",
  "Verification does not extract or execute any document."]

/-- `_README` -/
def readme : Content := readmeLines.flatMap fun line => textBytes line ++ [0x0A]

/-- An entry of the manifest. -/
def entryJson (measured : Measured) : Json :=
  .object [("sha256", .string measured.1), ("size_bytes", .int measured.2)]

/-- The times of an export, in ISO format. -/
structure ExportTimes where
  started : String
  finished : String

def manifestJson (caseId courtId : Int) (revision : String) (times : ExportTimes) (w : Writing) : Json :=
  .object [
    ("format", .string "muefs-case-archive"),
    ("format_version", .int 1),
    ("case_id", .int caseId),
    ("court_id", .int courtId),
    ("schema_revision", .string revision),
    ("export_started_at", .string times.started),
    ("finished_at", .string times.finished),
    ("counts", .object (w.counts.map fun count => (count.1, .int count.2))),
    ("entries", .object (w.entries.map fun entry => (entry.1, entryJson entry.2))),
    ("classification", .string "private; includes nonpublic records")]

/-- The archive, its manifest's bytes and the counts. -/
def writeArchive (snapshot : Snapshot) (store : String → Option ObjectStream) (times : ExportTimes) (caseId : Int)
    (courtId : Int) (revision : String) : Except ArchiveError (Archive × Content × List (String × Nat)) := do
  let w ← (recordTables ++ [RecordTable.users]).foldlM (writeTable snapshot caseId courtId) ⟨[], [], [], []⟩
  let w ← w.objects.foldlM (writeObject store) w
  let w := { w with
    archive := w.archive ++ [(readmeName, readme)],
    entries := setKey w.entries readmeName (hexdigest readme, readme.length) }
  let manifest ← jsonLine (manifestJson caseId courtId revision times w)
  demand (manifest.length ≤ maxManifestBytes) "The case exceeds the archive format's manifest size limit"
  return (w.archive ++ [(manifestName, manifest)], manifest, w.counts)

/-! ## Exports -/

/-- The completed archives of a directory, and the temporary file of a running export. -/
abbrev Directory := String → Option Archive

/-- What an export reports. -/
structure Exported where
  caseId : Int
  counts : List (String × Nat)
  manifestSha256 : String

/-- What is read before the temporary file is made: the case's court and the schema's revision. -/
def prepareExport (snapshot : Snapshot) (caseId : Int) : Except ArchiveError (Int × String) := do
  if snapshot.connectionFault then throw (.raised "SQLAlchemyError")
  demand (snapshot.caseRow caseId).isSome "The selected case does not exist"
  let row ← present (snapshot.caseRow caseId) "TypeError"
  demand (snapshot.revision.any (· ≠ "")) "The database has no recorded schema revision"
  let revision ← present snapshot.revision "TypeError"
  demand (∀ status ∈ snapshot.evidence, status = "metadata_consistent")
    "The case has missing or inconsistent retained document or delivery evidence"
  demand (snapshot.outsidePayment caseId = false) "A legacy payment reference points outside the selected case"
  return (← present (row.int? "court_id") "TypeError", revision)

/-- `export_case`, with the name of its temporary file. -/
def exportCase (snapshot : Snapshot) (store : String → Option ObjectStream) (times : ExportTimes) (caseId : Int)
    (output temporary : String) (directory : Directory) : Except ArchiveError Exported × Directory :=
  if caseId ≤ 0 then (.error (.caseExport "The case ID must be positive"), directory)
  else if (directory output).isSome then
    (.error (.caseExport "The output already exists; choose a new archive path"), directory)
  else match prepareExport snapshot caseId with
    | .error e => (.error e, directory)
    | .ok (courtId, revision) =>
      let opened := fun archive => Function.update directory temporary (some archive)
      let unlinked := fun directory : Directory => Function.update directory temporary none
      match writeArchive snapshot store times caseId courtId revision with
      | .error e => (.error e, unlinked (opened []))
      | .ok (archive, manifest, counts) =>
        -- `os.link` never replaces a file
        if (opened archive output).isSome then (.error (.raised "FileExistsError"), unlinked (opened archive))
        else (.ok ⟨caseId, counts, hexdigest manifest⟩, unlinked (Function.update (opened archive) output
          (some archive)))

end Muefs
