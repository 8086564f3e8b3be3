import Muefs.Formats.Lengths
import Muefs.Portal.Archive

/-!
# Laws of the case archive

* `verifyArchive_eq_ok` : what an accepted archive is (`ListsArchive`, `AcceptsArchive`), and `checkEntry_eq_ok` for one
  entry;
* `contents_addressed` : the bytes under `objects/<h>` hash to `h` exactly where the manifest states so;
* `Written` : what holds of the entries and the manifest while an export writes; each step keeps it;
* `Snapshot.IsDocument`, `Snapshot.IsCopy` : the rows of the case that have stored bytes;
* `exportCase_sound` : a completed export verifies, unless stored objects collide (`Collides`), its manifest pins every
  byte of it, and every stored object of the case was read and matched; one that fails leaves the directory as it was.
-/

namespace Muefs
open Formats

/-! ## Guards -/

variable {α β : Type}

theorem demand_bind {c : Prop} [Decidable c] {message : String} {f : Unit → Except ArchiveError β} {b : β} :
    (demand c message >>= f) = .ok b ↔ c ∧ f () = .ok b := by
  unfold demand
  split_ifs with h
  · exact ⟨fun hf => ⟨h, hf⟩, fun hf => hf.2⟩
  · exact ⟨nofun, fun hf => absurd hf.1 h⟩

theorem demand_eq_ok {c : Prop} [Decidable c] {message : String} : demand c message = .ok () ↔ c := by
  unfold demand
  split_ifs with h
  · exact ⟨fun _ => h, fun _ => rfl⟩
  · exact ⟨nofun, fun hc => absurd hc h⟩

theorem present_bind {value : Option α} {exception : String} {f : α → Except ArchiveError β} {b : β} :
    (present value exception >>= f) = .ok b ↔ ∃ a, value = some a ∧ f a = .ok b := by
  cases value with
  | none => exact ⟨nofun, fun ⟨_, h, _⟩ => nomatch h⟩
  | some a => exact ⟨fun h => ⟨a, rfl, h⟩, fun ⟨_, h, hf⟩ => by cases h; exact hf⟩

theorem Except.bind_eq_ok {x : Except ArchiveError α} {f : α → Except ArchiveError β} {b : β} :
    (x >>= f) = .ok b ↔ ∃ a, x = .ok a ∧ f a = .ok b := by
  cases x with
  | error e => exact ⟨nofun, fun ⟨_, h, _⟩ => nomatch h⟩
  | ok a => exact ⟨fun h => ⟨a, rfl, h⟩, fun ⟨_, h, hf⟩ => by cases h; exact hf⟩

theorem pure_eq_ok {a b : α} : (pure a : Except ArchiveError α) = .ok b ↔ a = b :=
  ⟨fun h => by cases h; rfl, fun h => by rw [h]; rfl⟩

theorem forM_eq_ok {xs : List α} {f : α → Except ArchiveError Unit} :
    xs.forM f = .ok () ↔ ∀ x ∈ xs, f x = .ok () := by
  induction xs with
  | nil => exact ⟨fun _ _ hx => (nomatch hx), fun _ => rfl⟩
  | cons x xs ih =>
    show (f x >>= fun _ => xs.forM f) = .ok () ↔ _
    rw [Except.bind_eq_ok, List.forall_mem_cons, ← ih]
    exact ⟨fun ⟨_, hx, hxs⟩ => ⟨hx, hxs⟩, fun ⟨hx, hxs⟩ => ⟨(), hx, hxs⟩⟩

/-! ## Verification -/

/-- An entry that the manifest describes as it is. -/
structure EntryMatches (name : String) (expected : Json) (content : Content) : Prop where
  named : isEntryName name = true
  fields : (fieldsOf expected).isSome
  size : statedSize expected = some content.length
  sha256 : statedSha256 expected = some (hexdigest content)

theorem checkEntry_eq_ok {archive : Archive} {name : String} {expected : Json} :
    checkEntry archive name expected = .ok () ↔
      ∃ content, getKey archive name = some content ∧ EntryMatches name expected content := by
  unfold checkEntry
  simp only [demand_bind, present_bind, demand_eq_ok]
  constructor
  · rintro ⟨⟨hname, hfields⟩, content, hfound, ⟨hsize, -⟩, hsha⟩
    exact ⟨content, hfound, hname, hfields, hsize, hsha⟩
  · rintro ⟨content, hfound, h⟩
    exact ⟨⟨h.named, h.fields⟩, content, hfound, ⟨h.size, by rw [h.sha256]; rfl⟩, h.sha256⟩

/-- An archive that its manifest lists: the manifest's bytes, the entries these state and the case. -/
structure ListsArchive (archive : Archive) (pin : Option String) (bytes : Content) (manifest : Json)
    (entries : List (String × Json)) (caseId : Json) : Prop where
  unique : (archive.map (·.1)).Nodup
  found : getKey archive manifestName = some bytes
  short : bytes.length ≤ maxManifestBytes
  pinned : pin = none ∨ pin = some (hexdigest bytes)
  loaded : loads bytes = some manifest
  format : isArchiveManifest manifest = true
  listed : manifest.get? "entries" = some (.object entries)
  names : sameNames (archive.map (·.1)) (entries.map (·.1)) = true
  ofCase : manifest.get? "case_id" = some caseId

/-- What an accepted archive is: each entry is as the manifest states. -/
structure AcceptsArchive (archive : Archive) (pin : Option String) (bytes : Content) (manifest : Json)
    (entries : List (String × Json)) (caseId : Json) : Prop
    extends ListsArchive archive pin bytes manifest entries caseId where
  matched : ∀ entry ∈ entries, ∃ content, getKey archive entry.1 = some content ∧ EntryMatches entry.1 entry.2 content

/-- The fingerprints that are stated are those of the entries. -/
def StatesDigests (archive : Archive) (entries : List (String × Json)) : Prop :=
  ∀ entry ∈ entries, ∃ content, getKey archive entry.1 = some content ∧ statedSha256 entry.2 = some (hexdigest content)

theorem AcceptsArchive.states {archive : Archive} {pin : Option String} {bytes : Content} {manifest : Json}
    {entries : List (String × Json)} {caseId : Json} (h : AcceptsArchive archive pin bytes manifest entries caseId) :
    StatesDigests archive entries := fun entry hentry => by
  obtain ⟨content, hfound, hmatch⟩ := h.matched entry hentry
  exact ⟨content, hfound, hmatch.sha256⟩

theorem fieldsOf_eq_some {value : Json} {fields : List (String × Json)} :
    fieldsOf value = some fields ↔ value = .object fields := by
  cases value <;> simp [fieldsOf]

theorem verifyArchive_eq_ok {archive : Archive} {pin : Option String} {v : VerifiedArchive} :
    verifyArchive archive pin = .ok v ↔ ∃ bytes manifest entries caseId,
      AcceptsArchive archive pin bytes manifest entries caseId ∧ v = ⟨caseId, entries.length, hexdigest bytes,
      pin.isSome⟩ := by
  have htake : ∀ bytes : Content, bytes.length ≤ maxManifestBytes → bytes.take (maxManifestBytes + 1) = bytes :=
    fun bytes h => List.take_of_length_le (by omega)
  have hshort : ∀ bytes : Content, (bytes.take (maxManifestBytes + 1)).length ≤ maxManifestBytes ↔
      bytes.length ≤ maxManifestBytes := by
    intro bytes; rw [List.length_take]; omega
  unfold verifyArchive
  simp only [demand_bind, present_bind, hshort]
  constructor
  · rintro ⟨⟨hunique, -⟩, bytes, hfound, hlen, hpin, manifest, hload, hformat, stated, hstated, hnames, entries,
      hentries, h⟩
    rw [htake bytes hlen] at hpin hload h
    obtain ⟨_, hmatched, h⟩ := Except.bind_eq_ok.1 h
    obtain ⟨caseId, hcase, h⟩ := present_bind.1 h
    rw [fieldsOf_eq_some] at hentries
    subst hentries
    refine ⟨bytes, manifest, entries, caseId, ⟨⟨hunique, hfound, hlen, hpin, hload, hformat,
      hstated, by simpa [fieldsOf] using hnames, hcase⟩, fun entry hentry => ?_⟩, (pure_eq_ok.1 h).symm⟩
    exact checkEntry_eq_ok.1 (forM_eq_ok.1 hmatched entry hentry)
  · rintro ⟨bytes, manifest, entries, caseId, h, rfl⟩
    have hmem : manifestName ∈ archive.map (·.1) :=
      List.mem_map_of_mem (f := (·.1)) ((getKey_eq_some h.unique).1 h.found)
    refine ⟨⟨h.unique, hmem⟩, bytes, h.found, h.short, ?_⟩
    rw [htake bytes h.short]
    refine ⟨h.pinned, manifest, h.loaded, h.format, _, h.listed, by simpa [fieldsOf] using h.names, entries, rfl, ?_⟩
    refine Except.bind_eq_ok.2 ⟨(), forM_eq_ok.2 fun entry hentry => ?_, present_bind.2 ⟨caseId, h.ofCase, rfl⟩⟩
    exact checkEntry_eq_ok.2 (h.matched entry hentry)

theorem ListsArchive.entry {archive : Archive} {pin : Option String} {bytes : Content} {manifest : Json}
    {entries : List (String × Json)} {caseId : Json} (h : ListsArchive archive pin bytes manifest entries caseId)
    (hstates : StatesDigests archive entries) {name : String} {content : Content} (hmem : (name, content) ∈ archive)
    (hname : name ≠ manifestName) :
    ∃ expected, getKey entries name = some expected ∧ statedSha256 expected = some (hexdigest content) := by
  have hlisted : name ∈ entries.map (·.1) := by
    have hnames := h.names
    rw [sameNames, Bool.and_eq_true, List.all_eq_true] at hnames
    have hor := hnames.1 name (List.mem_map_of_mem (f := (·.1)) hmem)
    rw [Bool.or_eq_true, beq_iff_eq, List.contains_iff_mem] at hor
    exact hor.resolve_left hname
  obtain ⟨expected, hexpected⟩ := getKey_isSome hlisted
  obtain ⟨content', hfound, hsha⟩ := hstates _ (getKey_mem hexpected)
  rw [(getKey_eq_some h.unique).2 hmem] at hfound
  cases hfound
  exact ⟨expected, hexpected, hsha⟩

/-! ## Content addressing -/

/-- The bytes under `objects/<h>` hash to `h`. -/
def ContentAddressed (archive : Archive) : Prop :=
  ∀ fingerprint content, (objectPath fingerprint, content) ∈ archive → hexdigest content = fingerprint

/-- The fingerprint that the archive's manifest states for an entry. -/
def statedFor (archive : Archive) (name : String) : Option String := do
  let manifest ← (getKey archive manifestName).bind loads
  let entries ← manifest.get? "entries"
  (entries.get? name).bind statedSha256

/-- The manifest states for every entry `objects/<h>` the fingerprint `h`. -/
def ManifestAddressed (archive : Archive) : Prop :=
  ∀ fingerprint, objectPath fingerprint ∈ archive.map (·.1) → statedFor archive (objectPath fingerprint) =
    some fingerprint

theorem objectPath_ne_manifest (fingerprint : String) : objectPath fingerprint ≠ manifestName := by
  intro h
  have hhead := congrArg (fun name : String => name.toList.head?) h
  simp [objectPath, manifestName] at hhead

/-- **An accepted archive is content-addressed exactly when its manifest is.** -/
theorem contents_addressed {archive : Archive} {pin : Option String} {v : VerifiedArchive}
    (h : verifyArchive archive pin = .ok v) : ContentAddressed archive ↔ ManifestAddressed archive := by
  obtain ⟨bytes, manifest, entries, caseId, hacc, -⟩ := verifyArchive_eq_ok.1 h
  have hstated : ∀ fingerprint content, (objectPath fingerprint, content) ∈ archive →
      statedFor archive (objectPath fingerprint) = some (hexdigest content) := by
    intro fingerprint content hmem
    obtain ⟨expected, hexpected, hsha⟩ := hacc.toListsArchive.entry hacc.states hmem
      (objectPath_ne_manifest fingerprint)
    simp only [statedFor, hacc.found, Option.bind_some, hacc.loaded, hacc.listed, Option.bind_eq_bind,
      Json.get?_object, hexpected, hsha]
  constructor
  · intro haddressed fingerprint hname
    obtain ⟨⟨_, content⟩, hmem, rfl⟩ := List.mem_map.1 hname
    rw [hstated fingerprint content hmem, haddressed fingerprint content hmem]
  · intro haddressed fingerprint content hmem
    have hname := haddressed fingerprint (List.mem_map_of_mem (f := (·.1)) hmem)
    exact Option.some.inj ((hstated fingerprint content hmem).symm.trans hname)

/-- The fingerprint of the empty object, and one that is not. -/
def emptySha256 : String := "e3b0c44298fc1c149afbf4c8996fb92427ae41e4649b934ca495991b7852b855"

def zeroSha256 : String := "0000000000000000000000000000000000000000000000000000000000000000"

/-- An archive of one empty object, under the name of a fingerprint. -/
def emptyObjectArchive (fingerprint : String) : Archive :=
  [(manifestName,
    textBytes "\x7b\"format\": \"muefs-case-archive\", \"format_version\": 1, \"case_id\": 7, " ++
      textBytes "\"entries\": \x7b\"objects/" ++ textBytes fingerprint ++ textBytes "\": \x7b\"sha256\": \"" ++
      textBytes emptySha256 ++ textBytes "\", \"size_bytes\": 0\x7d\x7d\x7d\n"),
   (objectPath fingerprint, [])]

theorem accepted_of_isOk {archive : Archive} {pin : Option String} (h : (verifyArchive archive pin).isOk = true) :
    ∃ v, verifyArchive archive pin = .ok v := by
  cases hv : verifyArchive archive pin with
  | error e => rw [hv] at h; cases h
  | ok v => exact ⟨v, rfl⟩

theorem contents_addressed_empty :
    ContentAddressed (emptyObjectArchive emptySha256) ↔ ManifestAddressed (emptyObjectArchive emptySha256) := by
  obtain ⟨v, hv⟩ := accepted_of_isOk (show (verifyArchive (emptyObjectArchive emptySha256) none).isOk = true by
    decide +kernel)
  exact contents_addressed hv

/-- The empty object is accepted under any name. -/
theorem wrong_name_accepted : ∃ archive v, verifyArchive archive none = .ok v ∧ ¬ ContentAddressed archive := by
  obtain ⟨v, hv⟩ := accepted_of_isOk (show (verifyArchive (emptyObjectArchive zeroSha256) none).isOk = true by
    decide +kernel)
  refine ⟨_, v, hv, fun haddressed => ?_⟩
  have hsame := haddressed zeroSha256 [] (List.mem_cons_of_mem _ List.mem_cons_self)
  exact absurd hsame (by decide +kernel)

/-! ## Writing the records -/

def KeepsKeys (d d' : List (String × α)) : Prop := ∀ k v, getKey d k = some v → getKey d' k = some v

theorem KeepsKeys.refl (d : List (String × α)) : KeepsKeys d d := fun _ _ h => h

theorem KeepsKeys.trans {d₁ d₂ d₃ : List (String × α)} (h : KeepsKeys d₁ d₂) (h' : KeepsKeys d₂ d₃) : KeepsKeys d₁ d₃ :=
  fun k v hk => h' k v (h k v hk)

/-- A row's object is indexed under its key, with the retained fingerprint and size. -/
def Indexed (objects : List (String × Measured)) (record : Record) : Prop :=
  ∃ key measured, recordKey record = some key ∧ recordMeasure record = some measured ∧
    getKey objects key = some measured

theorem Indexed.mono {d d' : List (String × Measured)} (h : KeepsKeys d d') {record : Record} (hr : Indexed d record) :
    Indexed d' record := by
  obtain ⟨key, measured, hkey, hmeasured, hget⟩ := hr
  exact ⟨key, measured, hkey, hmeasured, h key measured hget⟩

theorem writeRecord_ok {courtId : Int} {table : RecordTable} {objects objects' : List (String × Measured)}
    {record : Record} {line : Content} (h : writeRecord courtId table objects record = .ok (objects', line)) :
    KeepsKeys objects objects' ∧ (table.hasObjects = true → Indexed objects' record) := by
  unfold writeRecord at h
  obtain ⟨-, h⟩ := demand_bind.1 h
  split_ifs at h with htable
  · obtain ⟨-, h⟩ := demand_bind.1 h
    obtain ⟨measured, hmeasured, h⟩ := present_bind.1 h
    obtain ⟨key, hkey, h⟩ := present_bind.1 h
    obtain ⟨hsame, h⟩ := demand_bind.1 h
    obtain ⟨_, -, h⟩ := Except.bind_eq_ok.1 h
    cases pure_eq_ok.1 h
    refine ⟨fun k v hk => ?_, fun _ => ⟨key, measured, hkey, hmeasured, getKey_setKey_self _ _ _⟩⟩
    by_cases hk' : k = key
    · subst hk'
      rw [hk, Option.all_some, decide_eq_true_eq] at hsame
      rw [getKey_setKey_self, hsame]
    · rw [getKey_setKey_ne _ hk', hk]
  · obtain ⟨_, -, h⟩ := Except.bind_eq_ok.1 h
    cases pure_eq_ok.1 h
    exact ⟨.refl _, fun htrue => absurd htrue htable⟩

theorem writeRecords_ok {courtId : Int} {table : RecordTable} {records : List Record} :
    ∀ {objects objects' : List (String × Measured)} {lines : Content},
      writeRecords courtId table objects records = .ok (objects', lines) →
      KeepsKeys objects objects' ∧ (table.hasObjects = true → ∀ record ∈ records, Indexed objects' record) := by
  induction records with
  | nil =>
    intro objects objects' lines h
    cases h
    exact ⟨.refl _, fun _ _ hmem => nomatch hmem⟩
  | cons record records ih =>
    intro objects objects' lines h
    obtain ⟨⟨objects₁, line⟩, hrecord, h⟩ := Except.bind_eq_ok.1 h
    obtain ⟨⟨objects₂, rest⟩, hrest, h⟩ := Except.bind_eq_ok.1 h
    cases pure_eq_ok.1 h
    obtain ⟨hkeeps, hindexed⟩ := writeRecord_ok hrecord
    obtain ⟨hkeeps', hindexed'⟩ := ih hrest
    refine ⟨hkeeps.trans hkeeps', fun htable record' hmem => ?_⟩
    rcases List.mem_cons.1 hmem with rfl | hmem
    · exact (hindexed htable).mono hkeeps'
    · exact hindexed' htable record' hmem

/-- What the manifest states of an archive's entry. -/
def measuredEntry (entry : String × Content) : String × Measured := (entry.1, hexdigest entry.2, entry.2.length)

/-- Two stored objects of different sizes have one fingerprint. -/
def Collides (store : String → Option ObjectStream) : Prop :=
  ∃ key key' content content', readObject store key = .ok content ∧ readObject store key' = .ok content' ∧
    hexdigest content = hexdigest content' ∧ content.length ≠ content'.length

/-- What a table adds to the archive. -/
structure TableWritten (snapshot : Snapshot) (caseId courtId : Int) (w w' : Writing) (table : RecordTable) : Prop where
  added : ∃ content, w'.archive = w.archive ++ [(recordsPath table.name, content)] ∧
    w'.entries = setKey w.entries (recordsPath table.name) (hexdigest content, content.length)
  counted : ∃ n, w'.counts = setKey w.counts table.name n
  keeps : KeepsKeys w.objects w'.objects
  indexed : table.hasObjects = true → ∀ record ∈ snapshot.selected caseId courtId table, Indexed w'.objects record

theorem writeTable_ok {snapshot : Snapshot} {caseId courtId : Int} {w w' : Writing} {table : RecordTable}
    (h : writeTable snapshot caseId courtId w table = .ok w') : TableWritten snapshot caseId courtId w w' table := by
  unfold writeTable at h
  obtain ⟨⟨objects, content⟩, hrecords, h⟩ := Except.bind_eq_ok.1 h
  cases hfault : snapshot.streamFault table with
  | some n => rw [hfault] at h; cases h
  | none =>
    rw [hfault] at hrecords h
    cases pure_eq_ok.1 h
    obtain ⟨hkeeps, hindexed⟩ := writeRecords_ok hrecords
    exact ⟨⟨content, rfl, rfl⟩, ⟨_, rfl⟩, hkeeps, hindexed⟩

/-- What an export keeps while it writes: the names are different and allowed, the manifest will state each entry's
fingerprint, and its size unless objects collide, and the entries of objects hold stored bytes under
their fingerprint. -/
structure Written (store : String → Option ObjectStream) (w : Writing) : Prop where
  unique : (w.archive.map (·.1)).Nodup
  digests : w.entries.map (fun entry => (entry.1, entry.2.1)) = w.archive.map fun entry => (entry.1, hexdigest entry.2)
  measured : w.entries = w.archive.map measuredEntry ∨ Collides store
  named : ∀ entry ∈ w.archive, (isRecordsName entry.1.toList || isObjectName entry.1.toList) = true
  addressed : ∀ fingerprint content, (objectPath fingerprint, content) ∈ w.archive →
    hexdigest content = fingerprint ∧ ∃ key, readObject store key = .ok content
  counted : (w.counts.map (·.1)).Nodup

theorem Written.start {store : String → Option ObjectStream} : Written store ⟨[], [], [], []⟩ :=
  ⟨List.nodup_nil, rfl, .inl rfl, fun _ hmem => (nomatch hmem), fun _ _ hmem => (nomatch hmem), List.nodup_nil⟩

theorem map_digests {w : Writing}
    (h : w.entries.map (fun entry => (entry.1, entry.2.1)) = w.archive.map fun entry => (entry.1, hexdigest entry.2)) :
    w.entries.map (·.1) = w.archive.map (·.1) := by
  have hnames := congrArg (List.map Prod.fst) h
  rwa [List.map_map, List.map_map] at hnames

theorem Written.names {store : String → Option ObjectStream} {w : Writing} (h : Written store w) :
    w.entries.map (·.1) = w.archive.map (·.1) := map_digests h.digests

theorem isRecordsName_append {table : List Char} (hne : table ≠ [])
    (h : (table.all fun c => ('a' ≤ c && c ≤ 'z') || c == '_') = true) :
    isRecordsName ("records/".toList ++ table ++ ".jsonl".toList) = true := by
  have hlength : (table ++ ".jsonl".toList).length - 6 = table.length := by
    rw [List.length_append, show ".jsonl".toList.length = 6 from rfl, Nat.add_sub_cancel]
  unfold isRecordsName
  rw [List.append_assoc, afterWord_append]
  dsimp only
  rw [hlength, List.take_left, List.drop_left, h]
  simp [hne]

theorem RecordTable.name_spelled (table : RecordTable) : table.name.toList ≠ [] ∧
    (table.name.toList.all fun c => ('a' ≤ c && c ≤ 'z') || c == '_') = true := by
  cases table <;> simp [RecordTable.name]

theorem isRecordsName_table (table : RecordTable) : isRecordsName (recordsPath table.name).toList = true := by
  obtain ⟨hne, hspelled⟩ := table.name_spelled
  rw [recordsPath, String.toList_append, String.toList_append]
  exact isRecordsName_append hne hspelled

theorem isObjectName_path {fingerprint : String} (h : isHexdigest fingerprint.toList = true) :
    isObjectName (objectPath fingerprint).toList = true := by
  unfold isObjectName objectPath
  rw [String.toList_append, afterWord_append]
  exact h

theorem recordsPath_ne_objectPath (table fingerprint : String) : recordsPath table ≠ objectPath fingerprint := by
  intro h
  have hhead := congrArg (fun name : String => name.toList.head?) h
  simp [objectPath, recordsPath] at hhead

theorem recordsPath_inj {table table' : RecordTable} (h : recordsPath table.name = recordsPath table'.name) :
    table = table' := by
  have hname : table.name.toList = table'.name.toList := by
    have hlist := congrArg String.toList h
    simp only [recordsPath, String.toList_append, List.append_assoc] at hlist
    exact List.append_cancel_right (List.append_cancel_left hlist)
  have hnames : ((recordTables ++ [RecordTable.users]).map RecordTable.name).Nodup := by decide +kernel
  have hevery : ∀ table, table ∈ recordTables ++ [RecordTable.users] := by
    intro table
    cases table <;> decide
  exact List.inj_on_of_nodup_map hnames (hevery table) (hevery table') (String.toList_inj.1 hname)

theorem setKey_fresh {w : Writing} {store : String → Option ObjectStream} (h : Written store w) {path : String}
    (hpath : path ∉ w.archive.map (·.1)) (measured : Measured) :
    setKey w.entries path measured = w.entries ++ [(path, measured)] := by
  refine setKey_new ?_
  rw [h.names]
  exact hpath

theorem Written.keys {store : String → Option ObjectStream} {w : Writing} (h : Written store w) :
    (w.entries.map (·.1)).Nodup := by
  rw [h.names]
  exact h.unique

theorem Written.measured_snoc {store : String → Option ObjectStream} {w : Writing} (h : Written store w)
    (entry : String × Content) :
    (w.entries ++ [measuredEntry entry]).map (fun entry => (entry.1, entry.2.1)) =
      (w.archive ++ [entry]).map (fun entry => (entry.1, hexdigest entry.2)) ∧
    (w.entries ++ [measuredEntry entry] = (w.archive ++ [entry]).map measuredEntry ∨ Collides store) := by
  constructor
  · rw [List.map_append, List.map_append, h.digests]
    rfl
  · refine h.measured.imp_left fun hmeasured => ?_
    rw [List.map_append, hmeasured]
    rfl

theorem Written.table {snapshot : Snapshot} {store : String → Option ObjectStream} {caseId courtId : Int}
    {w w' : Writing} {table : RecordTable} (h : Written store w)
    (hw : TableWritten snapshot caseId courtId w w' table) (hpath : recordsPath table.name ∉ w.archive.map (·.1))
    (hname : table.name ∉ w.counts.map (·.1)) : Written store w' := by
  obtain ⟨content, harchive, hentries⟩ := hw.added
  obtain ⟨n, hcounts⟩ := hw.counted
  constructor
  · rw [harchive]
    exact nodup_snoc h.unique hpath
  · rw [hentries, setKey_fresh h hpath, harchive]
    exact (h.measured_snoc (recordsPath table.name, content)).1
  · rw [hentries, setKey_fresh h hpath, harchive]
    exact (h.measured_snoc (recordsPath table.name, content)).2
  · intro entry hmem
    rw [harchive, List.mem_append, List.mem_singleton] at hmem
    rcases hmem with hmem | rfl
    · exact h.named entry hmem
    · rw [isRecordsName_table, Bool.true_or]
  · intro fingerprint content' hmem
    rw [harchive, List.mem_append, List.mem_singleton] at hmem
    rcases hmem with hmem | heq
    · exact h.addressed fingerprint content' hmem
    · exact absurd (Prod.ext_iff.1 heq).1.symm (recordsPath_ne_objectPath _ _)
  · rw [hcounts, setKey_new hname]
    exact nodup_snoc h.counted hname

theorem writeTables_ok {snapshot : Snapshot} {store : String → Option ObjectStream} {caseId courtId : Int}
    {tables : List RecordTable} : ∀ {w w' : Writing}, Written store w → tables.Nodup →
      (∀ table ∈ tables, recordsPath table.name ∉ w.archive.map (·.1) ∧ table.name ∉ w.counts.map (·.1)) →
      tables.foldlM (writeTable snapshot caseId courtId) w = .ok w' →
      Written store w' ∧ KeepsKeys w.objects w'.objects ∧ ∀ table ∈ tables, table.hasObjects = true →
        ∀ record ∈ snapshot.selected caseId courtId table, Indexed w'.objects record := by
  induction tables with
  | nil =>
    intro w w' h _ _ hfold
    cases hfold
    exact ⟨h, .refl _, fun _ hmem => nomatch hmem⟩
  | cons table tables ih =>
    intro w w' h hnodup hnew hfold
    rw [List.foldlM_cons] at hfold
    obtain ⟨w₁, htable, hfold⟩ := Except.bind_eq_ok.1 hfold
    rw [List.nodup_cons] at hnodup
    have hw := writeTable_ok htable
    have hfirst := hnew table List.mem_cons_self
    have hnew' : ∀ t ∈ tables, recordsPath t.name ∉ w₁.archive.map (·.1) ∧ t.name ∉ w₁.counts.map (·.1) := by
      intro t ht
      have hne : t ≠ table := fun heq => hnodup.1 (heq ▸ ht)
      obtain ⟨content, harchive, -⟩ := hw.added
      obtain ⟨n, hcounts⟩ := hw.counted
      have hold := hnew t (List.mem_cons_of_mem _ ht)
      rw [harchive, hcounts, setKey_new hfirst.2, List.map_append, List.map_append, List.mem_append, List.mem_append,
        List.map_singleton, List.map_singleton, List.mem_singleton, List.mem_singleton]
      refine ⟨fun hmem => hmem.elim hold.1 fun heq => hne (recordsPath_inj heq), fun hmem =>
        hmem.elim hold.2 fun heq => ?_⟩
      exact hne (recordsPath_inj (congrArg recordsPath heq))
    obtain ⟨hwritten, hkeeps, hindexed⟩ := ih (h.table hw hfirst.1 hfirst.2) hnodup.2 hnew' hfold
    refine ⟨hwritten, hw.keeps.trans hkeeps, fun t ht hobjects record hrecord => ?_⟩
    rcases List.mem_cons.1 ht with rfl | ht
    · exact (hw.indexed hobjects record hrecord).mono hkeeps
    · exact hindexed t ht hobjects record hrecord

/-! ## Writing the objects -/

/-- An object that was read, matched, and archived, once for its fingerprint. -/
structure ObjectWritten (store : String → Option ObjectStream) (archive : Archive) (object : String × Measured)
    (content : Content) : Prop where
  read : readObject store object.1 = .ok content
  sha256 : hexdigest content = object.2.1
  size : content.length = object.2.2
  archived : ∃ stored, (objectPath object.2.1, stored) ∈ archive ∧ hexdigest stored = object.2.1

theorem objectPath_inj {fingerprint fingerprint' : String} (h : objectPath fingerprint = objectPath fingerprint') :
    fingerprint = fingerprint' := by
  have hlist := congrArg String.toList h
  simp only [objectPath, String.toList_append] at hlist
  exact String.toList_inj.1 (List.append_cancel_left hlist)

theorem writeObject_ok {store : String → Option ObjectStream} {w w' : Writing} {object : String × Measured}
    (h : Written store w) (hwrite : writeObject store w object = .ok w') :
    Written store w' ∧ (∀ entry ∈ w.archive, entry ∈ w'.archive) ∧ ∃ content,
      ObjectWritten store w'.archive object content := by
  unfold writeObject at hwrite
  obtain ⟨content, hread, hwrite⟩ := Except.bind_eq_ok.1 hwrite
  obtain ⟨⟨hdigest, hsize⟩, hwrite⟩ := demand_bind.1 hwrite
  cases pure_eq_ok.1 hwrite
  cases hfound : getKey w.entries (objectPath object.2.1) with
  | some measured =>
    have hmem : (objectPath object.2.1, measured.1) ∈ w.entries.map fun entry => (entry.1, entry.2.1) :=
      List.mem_map_of_mem (f := fun entry : String × Measured => (entry.1, entry.2.1)) (getKey_mem hfound)
    rw [h.digests] at hmem
    obtain ⟨⟨path, stored⟩, hentry, heq⟩ := List.mem_map.1 hmem
    obtain ⟨rfl, hstated⟩ := Prod.ext_iff.1 heq
    obtain ⟨hstored, key, hread'⟩ := h.addressed _ _ hentry
    have hkeeps : object.2.1 = measured.1 := hstored.symm.trans hstated
    simp only [Option.isNone_some, Bool.false_eq_true, if_false]
    refine ⟨⟨h.unique, ?_, ?_, h.named, h.addressed, h.counted⟩, fun _ hmem => hmem, content, hread, hdigest, hsize,
      stored, hentry, hstored⟩
    · refine Eq.trans ?_ h.digests
      have hkept : ((object.2.1, content.length) : Measured).1 = measured.1 := hkeeps
      exact map_setKey h.keys hfound hkept
    · by_cases hlength : stored.length = content.length
      · refine h.measured.imp_left fun hmeasured => (setKey_same h.keys ?_).trans hmeasured
        refine (getKey_eq_some h.keys).2 ?_
        rw [hmeasured, ← hlength]
        exact List.mem_map.2 ⟨_, hentry, by rw [measuredEntry, hstored]⟩
      · exact .inr ⟨key, object.1, stored, content, hread', hread, hstored.trans hdigest.symm, hlength⟩
  | none =>
    have hfresh : objectPath object.2.1 ∉ w.archive.map (·.1) := by
      intro hmem
      rw [← h.names] at hmem
      obtain ⟨v, hv⟩ := getKey_isSome hmem
      rw [hfound] at hv
      cases hv
    have hhex : isHexdigest object.2.1.toList = true := hdigest ▸ isHexdigest_hexdigest content
    have hmeasured := h.measured_snoc (objectPath object.2.1, content)
    rw [measuredEntry, hdigest] at hmeasured
    simp only [Option.isNone_none, if_true, setKey_fresh h hfresh]
    refine ⟨⟨nodup_snoc h.unique hfresh, hmeasured.1, hmeasured.2, fun entry hmem => ?_,
      fun fingerprint stored hmem => ?_, h.counted⟩, fun _ hmem => List.mem_append_left _ hmem, content, hread, hdigest,
      hsize, content, by simp, hdigest⟩
    · rcases List.mem_append.1 hmem with hmem | hmem
      · exact h.named entry hmem
      · rw [List.mem_singleton.1 hmem, isObjectName_path hhex, Bool.or_true]
    · rcases List.mem_append.1 hmem with hmem | hmem
      · exact h.addressed fingerprint stored hmem
      · obtain ⟨hpath, hcontent⟩ := Prod.ext_iff.1 (List.mem_singleton.1 hmem)
        obtain rfl := objectPath_inj hpath
        cases hcontent
        exact ⟨hdigest, object.1, hread⟩

theorem writeObjects_ok {store : String → Option ObjectStream} {objects : List (String × Measured)} :
    ∀ {w w' : Writing}, Written store w → objects.foldlM (writeObject store) w = .ok w' →
      Written store w' ∧ (∀ entry ∈ w.archive, entry ∈ w'.archive) ∧
        ∀ object ∈ objects, ∃ content, ObjectWritten store w'.archive object content := by
  induction objects with
  | nil =>
    intro w w' h hfold
    cases hfold
    exact ⟨h, fun _ hmem => hmem, fun _ hmem => nomatch hmem⟩
  | cons object objects ih =>
    intro w w' h hfold
    rw [List.foldlM_cons] at hfold
    obtain ⟨w₁, hobject, hfold⟩ := Except.bind_eq_ok.1 hfold
    obtain ⟨h₁, hgrows, content, hcontent⟩ := writeObject_ok h hobject
    obtain ⟨h', hgrows', hrest⟩ := ih h₁ hfold
    refine ⟨h', fun entry hmem => hgrows' entry (hgrows entry hmem), fun object' hmem => ?_⟩
    rcases List.mem_cons.1 hmem with rfl | hmem
    · obtain ⟨stored, hstored, hsha⟩ := hcontent.archived
      exact ⟨content, { hcontent with archived := ⟨stored, hgrows' _ hstored, hsha⟩ }⟩
    · exact hrest object' hmem

/-! ## The manifest -/

theorem plainFields_map {xs : List (String × α)} {f : α → Json} (h : ∀ a, (f a).Plain) :
    PlainFields (xs.map fun x => (x.1, f x.2)) := by
  refine plainFields_iff.2 fun p hp => ?_
  obtain ⟨x, -, rfl⟩ := List.mem_map.1 hp
  exact h x.2

theorem entryJson_plain (measured : Measured) : (entryJson measured).Plain := ⟨by simp, trivial, trivial, trivial⟩

theorem manifestJson_plain {caseId courtId : Int} {revision : String} {times : ExportTimes} {w : Writing}
    (hentries : (w.entries.map (·.1)).Nodup) (hcounts : (w.counts.map (·.1)).Nodup) :
    (manifestJson caseId courtId revision times w).Plain := by
  refine ⟨by simp, trivial, trivial, trivial, trivial, trivial, trivial, trivial, ⟨?_, ?_⟩, ⟨?_, ?_⟩, trivial, trivial⟩
  · rw [List.map_map]; exact hcounts
  · exact plainFields_map (f := fun n : Nat => Json.int n) fun _ => trivial
  · rw [List.map_map]; exact hentries
  · exact plainFields_map entryJson_plain

theorem statedSize_sortKeys (measured : Measured) : statedSize (entryJson measured).sortKeys = some measured.2 := by
  have hkeys : ([("sha256", Json.string measured.1), ("size_bytes", .int measured.2)].map (·.1)).Nodup := by
    simp
  unfold statedSize entryJson
  rw [Json.get?_sortKeys hkeys "size_bytes"]
  show (if 0 ≤ (measured.2 : Int) then some (measured.2 : Int).toNat else none) = some measured.2
  rw [if_pos (by omega), Int.toNat_natCast]

theorem statedSha256_sortKeys {measured : Measured} (h : isHexdigest measured.1.toList = true) :
    statedSha256 (entryJson measured).sortKeys = some measured.1 := by
  have hkeys : ([("sha256", Json.string measured.1), ("size_bytes", .int measured.2)].map (·.1)).Nodup := by
    simp
  unfold statedSha256 entryJson
  rw [Json.get?_sortKeys hkeys "sha256"]
  show (if isHexdigest measured.1.toList then some measured.1 else none) = some measured.1
  rw [if_pos h]

/-- The entries of the manifest as it is read: in the order of their names. -/
def sortedEntries (entries : List (String × Measured)) : List (String × Json) :=
  (sortFields (entries.map fun entry => (entry.1, entryJson entry.2))).insertionSort (keyLe · ·)

theorem perm_sortedEntries (entries : List (String × Measured)) :
    (sortedEntries entries).Perm (entries.map fun entry => (entry.1, (entryJson entry.2).sortKeys)) := by
  refine (List.perm_insertionSort _ _).trans (List.Perm.of_eq ?_)
  rw [sortFields_eq, List.map_map]; rfl

theorem jsonLine_eq_ok {value : Json} {line : Content} (h : jsonLine value = .ok line) :
    ∃ text, dumps value = some text ∧ line = utf8Encode (text ++ ['\n']) := by
  unfold jsonLine at h
  obtain ⟨text, htext, h⟩ := present_bind.1 h
  exact ⟨text, htext, (pure_eq_ok.1 h).symm⟩

/-- **An archive is listed by the manifest that was written for it,** with the fingerprints of its entries. -/
theorem manifest_lists {caseId courtId : Int} {revision : String} {times : ExportTimes} {w : Writing}
    {manifest : Content} (hunique : (w.archive.map (·.1)).Nodup)
    (hdigests : w.entries.map (fun entry => (entry.1, entry.2.1)) = w.archive.map fun entry =>
      (entry.1, hexdigest entry.2))
    (hnamed : ∀ entry ∈ w.archive, isEntryName entry.1 = true) (hcounted : (w.counts.map (·.1)).Nodup)
    (hmanifest : jsonLine (manifestJson caseId courtId revision times w) = .ok manifest)
    (hshort : manifest.length ≤ maxManifestBytes) :
    ListsArchive (w.archive ++ [(manifestName, manifest)]) (some (hexdigest manifest)) manifest
      (manifestJson caseId courtId revision times w).sortKeys (sortedEntries w.entries) (.int caseId) ∧
    StatesDigests (w.archive ++ [(manifestName, manifest)]) (sortedEntries w.entries) := by
  have hsame : w.entries.map (·.1) = w.archive.map (·.1) := map_digests hdigests
  have hkeys : (w.entries.map (·.1)).Nodup := by rwa [hsame]
  have hplain : (manifestJson caseId courtId revision times w).Plain := manifestJson_plain hkeys hcounted
  obtain ⟨text, htext, rfl⟩ := jsonLine_eq_ok hmanifest
  have hget : ∀ key value, (manifestJson caseId courtId revision times w).get? key = some value →
      (manifestJson caseId courtId revision times w).sortKeys.get? key = some value.sortKeys := by
    intro key value hvalue
    unfold manifestJson at hvalue hplain ⊢
    rw [Json.get?_sortKeys hplain.1, ← Json.get?_object, hvalue]; rfl
  have hfresh : manifestName ∉ w.archive.map (·.1) := by
    intro hmem
    obtain ⟨entry, hentry, hname⟩ := List.mem_map.1 hmem
    have hno := hnamed entry hentry
    rw [hname] at hno
    exact absurd hno (by decide +kernel)
  have hunique' := nodup_snoc (p := (manifestName, utf8Encode (text ++ ['\n']))) hunique hfresh
  have hperm := (perm_sortedEntries w.entries).map (·.1)
  rw [List.map_map] at hperm
  have hnames : ∀ name, name ∈ (sortedEntries w.entries).map (·.1) ↔ name ∈ w.archive.map (·.1) := by
    intro name
    rw [hperm.mem_iff, ← hsame]
    rfl
  refine ⟨⟨hunique', (getKey_eq_some hunique').2 (by simp), hshort, .inr rfl, loads_dumps hplain htext, ?_, ?_, ?_, ?_⟩,
    ?_⟩
  · have hformat := hget "format" _ rfl
    have hversion := hget "format_version" _ rfl
    unfold isArchiveManifest
    rw [hformat, hversion]; rfl
  · exact hget "entries" _ rfl
  · rw [sameNames, Bool.and_eq_true, List.all_eq_true, List.all_eq_true]
    constructor
    · intro name hmem
      rw [List.map_append, List.mem_append, List.map_singleton, List.mem_singleton] at hmem
      rw [Bool.or_eq_true, List.contains_iff_mem, beq_iff_eq, hnames]
      exact hmem.symm
    · intro name hmem
      rw [List.contains_iff_mem, List.map_append, List.mem_append]
      exact .inl ((hnames name).1 hmem)
  · exact hget "case_id" _ rfl
  · intro entry hmem
    rw [(perm_sortedEntries w.entries).mem_iff] at hmem
    obtain ⟨⟨name, measured⟩, hentry, rfl⟩ := List.mem_map.1 hmem
    have hdigest : (name, measured.1) ∈ w.entries.map fun entry => (entry.1, entry.2.1) :=
      List.mem_map_of_mem (f := fun entry : String × Measured => (entry.1, entry.2.1)) hentry
    rw [hdigests] at hdigest
    obtain ⟨⟨_, content⟩, hin, heq⟩ := List.mem_map.1 hdigest
    obtain ⟨rfl, hsha⟩ := Prod.ext_iff.1 heq
    refine ⟨content, (getKey_eq_some hunique').2 (List.mem_append_left _ hin), ?_⟩
    dsimp only at hsha ⊢
    rw [statedSha256_sortKeys (hsha ▸ isHexdigest_hexdigest content), hsha]

theorem manifest_accepted {caseId courtId : Int} {revision : String} {times : ExportTimes} {w : Writing}
    {manifest : Content} (hmeasured : w.entries = w.archive.map measuredEntry)
    (hnamed : ∀ entry ∈ w.archive, isEntryName entry.1 = true)
    (hlists : ListsArchive (w.archive ++ [(manifestName, manifest)]) (some (hexdigest manifest)) manifest
      (manifestJson caseId courtId revision times w).sortKeys (sortedEntries w.entries) (.int caseId)) :
    AcceptsArchive (w.archive ++ [(manifestName, manifest)]) (some (hexdigest manifest)) manifest
      (manifestJson caseId courtId revision times w).sortKeys (sortedEntries w.entries) (.int caseId) := by
  refine ⟨hlists, fun entry hmem => ?_⟩
  rw [(perm_sortedEntries w.entries).mem_iff, hmeasured, List.map_map] at hmem
  obtain ⟨⟨name, content⟩, hin, rfl⟩ := List.mem_map.1 hmem
  refine ⟨content, (getKey_eq_some hlists.unique).2 (List.mem_append_left _ hin), hnamed _ hin, rfl, ?_, ?_⟩
  · exact statedSize_sortKeys _
  · exact statedSha256_sortKeys (isHexdigest_hexdigest content)

/-- A bound of the length of the manifest's text that reads no fingerprint. -/
def manifestBound (revision : String) (times : ExportTimes) (w : Writing) : Nat :=
  20000 + 6 * (revision.utf8ByteSize + times.started.utf8ByteSize + times.finished.utf8ByteSize) +
    (w.counts.map fun count => 6 * count.1.utf8ByteSize + 4307).sum +
    (w.entries.map fun entry => 6 * entry.1.utf8ByteSize + 4803).sum

theorem widthFields_map {xs : List (String × α)} {f : α → Json} {n : Nat} (h : ∀ x ∈ xs, (f x.2).width + 6 ≤ n) :
    widthFields (xs.map fun x => (x.1, f x.2)) ≤ 2 + (xs.map fun x => 6 * x.1.utf8ByteSize + n).sum := by
  induction xs with
  | nil => exact Nat.le_refl 2
  | cons x xs ih =>
    have hx := h x List.mem_cons_self
    have hname := length_toList_le x.1
    have hxs := ih fun y hy => h y (List.mem_cons_of_mem x hy)
    rw [List.map_cons, widthFields, List.map_cons, List.sum_cons]
    omega

theorem width_entryJson {measured : Measured} (h : isHexdigest measured.1.toList = true) :
    (entryJson measured).width + 6 = 4803 := by
  have hlength : measured.1.toList.length = 64 := by
    rw [isHexdigest, Bool.and_eq_true, beq_iff_eq] at h
    exact h.1
  have hdigits : maxDigits = 4300 := rfl
  simp only [entryJson, Json.width, widthFields, String.reduceToList, List.length_cons, List.length_nil]
  omega

theorem width_manifestJson {caseId courtId : Int} {revision : String} {times : ExportTimes} {w : Writing}
    (h : ∀ entry ∈ w.entries, isHexdigest entry.2.1.toList = true) :
    (manifestJson caseId courtId revision times w).width ≤ manifestBound revision times w := by
  have hcounts : widthFields (w.counts.map fun count => (count.1, Json.int count.2)) ≤
      2 + (w.counts.map fun count => 6 * count.1.utf8ByteSize + 4307).sum :=
    widthFields_map (f := fun n : Nat => Json.int n) fun _ _ => Nat.le_refl 4307
  have hentries : widthFields (w.entries.map fun entry => (entry.1, entryJson entry.2)) ≤
      2 + (w.entries.map fun entry => 6 * entry.1.utf8ByteSize + 4803).sum :=
    widthFields_map fun entry hmem => (width_entryJson (h entry hmem)).le
  have hdigits : maxDigits = 4300 := rfl
  have hrevision := length_toList_le revision
  have hstarted := length_toList_le times.started
  have hfinished := length_toList_le times.finished
  unfold manifestJson manifestBound
  simp only [Json.width, widthFields, String.reduceToList, List.length_cons, List.length_nil]
  omega

theorem ListsArchive.same_entries {a b : Archive} {pin pin' : Option String} {bytes : Content}
    {manifest manifest' : Json}
    {entries entries' : List (String × Json)} {caseId caseId' : Json}
    (ha : ListsArchive a pin bytes manifest entries caseId)
    (hstates : StatesDigests a entries) (hb : ListsArchive b pin' bytes manifest' entries' caseId')
    (hstates' : StatesDigests b entries')
    (hsha : ∀ name x y, (name, x) ∈ a → (name, y) ∈ b → hexdigest x = hexdigest y → x = y) {name : String}
    {content : Content} (hmem : (name, content) ∈ a) : (name, content) ∈ b := by
  by_cases hname : name = manifestName
  · subst hname
    have hbytes := (getKey_eq_some ha.unique).2 hmem
    rw [ha.found] at hbytes
    cases hbytes
    exact getKey_mem hb.found
  · have hmanifest : manifest = manifest' := Option.some.inj (ha.loaded.symm.trans hb.loaded)
    have hentries : entries = entries' := by
      have hlisted := ha.listed
      rw [hmanifest, hb.listed] at hlisted
      exact (Json.object.inj (Option.some.inj hlisted)).symm
    obtain ⟨expected, hexpected, hstated⟩ := ha.entry hstates hmem hname
    obtain ⟨content', hfound, hstated'⟩ := hstates' _ (getKey_mem (hentries ▸ hexpected))
    have hmem' := getKey_mem hfound
    have hdigest : hexdigest content = hexdigest content' := Option.some.inj (hstated.symm.trans hstated')
    exact hsha name content content' hmem hmem' hdigest ▸ hmem'

/-! ## Exports -/

def Snapshot.HasRow (snapshot : Snapshot) (table : RecordTable) (id : Int) (record : Record) : Prop :=
  record ∈ snapshot.rows table ∧ record.value "id" = .int id

/-- A document of the case: its envelope is a filing of the case. -/
def Snapshot.IsDocument (snapshot : Snapshot) (caseId id : Int) (record : Record) : Prop :=
  snapshot.HasRow .filingDocuments id record ∧ ∃ filingId filing, snapshot.HasRow .filingEnvelopes filingId filing ∧
    filing.value "case_id" = .int caseId ∧ record.value "envelope_id" = .int filingId

def Snapshot.IsCopy (snapshot : Snapshot) (caseId id : Int) (record : Record) : Prop :=
  snapshot.HasRow .documentPublicCopies id record ∧ ∃ documentId document,
    snapshot.IsDocument caseId documentId document ∧ record.value "document_id" = .int documentId

/-- What a completed export promises of its archive. It verifies, or two stored objects collide: the size of the one
that is read last is then stated of the other's bytes. -/
structure Exports (snapshot : Snapshot) (store : String → Option ObjectStream) (caseId : Int) (archive : Archive)
    (report : Exported) : Prop where
  reported : report.caseId = caseId
  once : (archive.map (·.1)).Nodup
  verifies : (∃ v, verifyArchive archive (some report.manifestSha256) = .ok v ∧ v.caseId = .int caseId ∧
    v.entries + 1 = archive.length) ∨ Collides store
  pins : ∀ other v, verifyArchive other (some report.manifestSha256) = .ok v →
    (∀ name a b, (name, a) ∈ archive → (name, b) ∈ other → hexdigest a = hexdigest b → a = b) →
    ∀ name content, (name, content) ∈ other ↔ (name, content) ∈ archive
  objects : ∀ id record, snapshot.IsDocument caseId id record ∨ snapshot.IsCopy caseId id record →
    ∃ key measured content, recordKey record = some key ∧ recordMeasure record = some measured ∧
      ObjectWritten store archive (key, measured) content

theorem isIn_of_mem {record : Record} {name : String} {id : Int} {values : List Json}
    (hrecord : record.value name = .int id)
    (hmem : Json.int id ∈ values) : record.isIn name values = true := by
  refine List.any_eq_true.2 ⟨.int id, hmem, ?_⟩
  rw [hrecord]
  exact beq_self_eq_true id

theorem mem_column {snapshot : Snapshot} {table : RecordTable} {id : Int} {record : Record} {predicate : Record → Bool}
    (h : snapshot.HasRow table id record) (hpredicate : predicate record = true) :
    Json.int id ∈ snapshot.column table "id" predicate :=
  List.mem_map.2 ⟨record, List.mem_filter.2 ⟨h.1, hpredicate⟩, h.2⟩

theorem Snapshot.IsDocument.listed {snapshot : Snapshot} {caseId id : Int} {record : Record}
    (h : snapshot.IsDocument caseId id record) : Json.int id ∈ snapshot.documentIds caseId := by
  obtain ⟨hrow, filingId, filing, hfiling, hcase, henvelope⟩ := h
  refine mem_column hrow (isIn_of_mem henvelope (mem_column hfiling ?_))
  rw [Snapshot.ofCase, hcase]
  exact beq_self_eq_true caseId

theorem Snapshot.IsDocument.selected {snapshot : Snapshot} {caseId courtId id : Int} {record : Record}
    (h : snapshot.IsDocument caseId id record) : record ∈ snapshot.selected caseId courtId .filingDocuments :=
  List.mem_filter.2 ⟨h.1.1, isIn_of_mem h.1.2 h.listed⟩

theorem Snapshot.IsCopy.selected {snapshot : Snapshot} {caseId courtId id : Int} {record : Record}
    (h : snapshot.IsCopy caseId id record) : record ∈ snapshot.selected caseId courtId .documentPublicCopies := by
  obtain ⟨hrow, documentId, document, hdocument, hof⟩ := h
  exact List.mem_filter.2 ⟨hrow.1, isIn_of_mem hrow.2 (mem_column hrow (isIn_of_mem hof hdocument.listed))⟩

theorem Written.readme_new {store : String → Option ObjectStream} {w : Writing} (h : Written store w) :
    readmeName ∉ w.archive.map (·.1) := by
  intro hmem
  obtain ⟨entry, hentry, hname⟩ := List.mem_map.1 hmem
  have hno := h.named entry hentry
  rw [hname] at hno
  exact absurd hno (by decide +kernel)

theorem writeArchive_ok {snapshot : Snapshot} {store : String → Option ObjectStream} {times : ExportTimes}
    {caseId courtId : Int} {revision : String} {archive : Archive} {manifest : Content} {counts : List (String × Nat)}
    (h : writeArchive snapshot store times caseId courtId revision = .ok (archive, manifest, counts)) :
    Exports snapshot store caseId archive ⟨caseId, counts, hexdigest manifest⟩ := by
  unfold writeArchive at h
  obtain ⟨w₁, htables, h⟩ := Except.bind_eq_ok.1 h
  obtain ⟨w₂, hobjects, h⟩ := Except.bind_eq_ok.1 h
  obtain ⟨line, hline, h⟩ := Except.bind_eq_ok.1 h
  obtain ⟨hshort, h⟩ := demand_bind.1 h
  cases pure_eq_ok.1 h
  obtain ⟨hw₁, -, hindexed⟩ := writeTables_ok Written.start (by decide) (fun _ _ => ⟨List.not_mem_nil,
    List.not_mem_nil⟩) htables
  obtain ⟨hw₂, -, hread⟩ := writeObjects_ok hw₁ hobjects
  have hreadme := hw₂.readme_new
  have hunique := nodup_snoc (p := (readmeName, readme)) hw₂.unique hreadme
  obtain ⟨hdigests, hmeasured⟩ := hw₂.measured_snoc (readmeName, readme)
  have hentries : setKey w₂.entries readmeName (hexdigest readme, readme.length) =
      w₂.entries ++ [measuredEntry (readmeName, readme)] := setKey_fresh hw₂ hreadme _
  rw [hentries] at hline
  have hnamed : ∀ entry ∈ w₂.archive ++ [(readmeName, readme)], isEntryName entry.1 = true := by
    intro entry hmem
    rcases List.mem_append.1 hmem with hmem | hmem
    · have hname := hw₂.named entry hmem
      rw [isEntryName, Bool.or_assoc, hname, Bool.or_true]
    · rw [List.mem_singleton.1 hmem]; rfl
  obtain ⟨hlists, hstates⟩ := manifest_lists (w := { w₂ with
      archive := w₂.archive ++ [(readmeName, readme)],
      entries := w₂.entries ++ [measuredEntry (readmeName, readme)] }) hunique hdigests hnamed hw₂.counted hline hshort
  refine ⟨rfl, hlists.unique, hmeasured.imp_left fun hmeasured => ?_, ?_, ?_⟩
  · have haccepted := manifest_accepted hmeasured hnamed hlists
    refine ⟨_, verifyArchive_eq_ok.2 ⟨_, _, _, _, haccepted, rfl⟩, rfl, ?_⟩
    show (sortedEntries (w₂.entries ++ [measuredEntry (readmeName, readme)])).length + 1 = _
    rw [(perm_sortedEntries _).length_eq, hmeasured]
    simp
  · intro other v hv hcollide name content
    obtain ⟨bytes, manifest', entries', caseId', hother, -⟩ := verifyArchive_eq_ok.1 hv
    have hbytes : manifest = bytes := by
      have hpin := hother.pinned.resolve_left (by simp)
      exact hcollide manifestName manifest bytes (getKey_mem hlists.found) (getKey_mem hother.found)
        (Option.some.inj hpin)
    subst hbytes
    exact ⟨hother.toListsArchive.same_entries hother.states hlists hstates fun name x y hx hy heq =>
        (hcollide name y x hy hx heq.symm).symm,
      hlists.same_entries hstates hother.toListsArchive hother.states hcollide⟩
  · intro id record hof
    have hin : Indexed w₁.objects record := by
      rcases hof with hdocument | hcopy
      · exact hindexed .filingDocuments (by decide) rfl record hdocument.selected
      · exact hindexed .documentPublicCopies (by decide) rfl record hcopy.selected
    obtain ⟨key, measured, hkey, hmeasured, hget⟩ := hin
    obtain ⟨content, hcontent⟩ := hread (key, measured) (getKey_mem hget)
    obtain ⟨stored, hstored, hsha⟩ := hcontent.archived
    refine ⟨key, measured, content, hkey, hmeasured, { hcontent with archived := ⟨stored, ?_, hsha⟩ }⟩
    exact List.mem_append_left _ (List.mem_append_left _ hstored)

def writeEntries (snapshot : Snapshot) (store : String → Option ObjectStream) (caseId courtId : Int) :
    Except ArchiveError Writing := do
  let w ← (recordTables ++ [RecordTable.users]).foldlM (writeTable snapshot caseId courtId) ⟨[], [], [], []⟩
  w.objects.foldlM (writeObject store) w

theorem printable_int {n : Nat} (h : n < 10 ^ maxDigits) : (Json.int n).printable = true :=
  decide_eq_true ((Nat.length_toDigits_le_iff (by decide) (by decide)).2 h)

theorem printable_entryJson {measured : Measured} (h : measured.2 < 10 ^ maxDigits) :
    (entryJson measured).printable = true := by
  have hsize := printable_int h
  unfold entryJson
  rw [Json.printable, printableFields, printableFields, hsize]
  rfl

theorem printable_manifestJson {caseId courtId : Int} {revision : String} {times : ExportTimes} {w : Writing}
    (hcase : (Json.int caseId).printable = true) (hcourt : (Json.int courtId).printable = true)
    (hcounts : ∀ count ∈ w.counts, count.2 < 10 ^ maxDigits)
    (hentries : ∀ entry ∈ w.entries, entry.2.2 < 10 ^ maxDigits) :
    (manifestJson caseId courtId revision times w).printable = true := by
  have hversion : (Json.int 1).printable = true := by decide +kernel
  have hcounts' : (Json.object (w.counts.map fun count => (count.1, Json.int count.2))).printable = true := by
    refine printableFields_iff.2 fun field hmem => ?_
    obtain ⟨count, hcount, rfl⟩ := List.mem_map.1 hmem
    exact printable_int (hcounts count hcount)
  have hentries' : (Json.object (w.entries.map fun entry => (entry.1, entryJson entry.2))).printable = true := by
    refine printableFields_iff.2 fun field hmem => ?_
    obtain ⟨entry, hentry, rfl⟩ := List.mem_map.1 hmem
    exact printable_entryJson (hentries entry hentry)
  refine printableFields_iff.2 fun field hmem => ?_
  simp only [List.mem_cons, List.not_mem_nil, or_false] at hmem
  rcases hmem with rfl | rfl | rfl | rfl | rfl | rfl | rfl | rfl | rfl | rfl
  all_goals first | rfl | assumption

theorem length_readme : readme.length < 10 ^ maxDigits := by decide +kernel

/-- **A case is archived** once its rows and objects are written, if no number is too long and the manifest is short. -/
theorem writeArchive_complete {snapshot : Snapshot} {store : String → Option ObjectStream} {times : ExportTimes}
    {caseId courtId : Int} {revision : String} {w : Writing} (hw : writeEntries snapshot store caseId courtId = .ok w)
    (hcase : (Json.int caseId).printable = true) (hcourt : (Json.int courtId).printable = true)
    (hcounts : ∀ count ∈ w.counts, count.2 < 10 ^ maxDigits) (hsizes : ∀ entry ∈ w.entries, entry.2.2 < 10 ^ maxDigits)
    (hbound : 4 * manifestBound revision times w + 20000 ≤ maxManifestBytes) :
    ∃ archive manifest, writeArchive snapshot store times caseId courtId revision = .ok (archive, manifest, w.counts) ∧
      ∀ entry ∈ w.archive, entry ∈ archive := by
  obtain ⟨w₁, htables, hobjects⟩ := Except.bind_eq_ok.1 hw
  obtain ⟨hw₁, -⟩ := writeTables_ok Written.start (by decide)
    (fun _ _ => ⟨List.not_mem_nil, List.not_mem_nil⟩) htables
  obtain ⟨hw₂, -⟩ := writeObjects_ok hw₁ hobjects
  have hreadme : setKey w.entries readmeName (hexdigest readme, readme.length) =
      w.entries ++ [measuredEntry (readmeName, readme)] := setKey_fresh hw₂ hw₂.readme_new _
  obtain ⟨w₃, hw₃⟩ : ∃ w₃ : Writing, w₃ = { w with
      archive := w.archive ++ [(readmeName, readme)],
      entries := setKey w.entries readmeName (hexdigest readme, readme.length) } := ⟨_, rfl⟩
  have hentries : w₃.entries = w.entries ++ [measuredEntry (readmeName, readme)] := by rw [hw₃, ← hreadme]
  have hhex : ∀ entry ∈ w₃.entries, isHexdigest entry.2.1.toList = true := by
    intro entry hmem
    have hdigest : (entry.1, entry.2.1) ∈ w₃.entries.map fun entry => (entry.1, entry.2.1) :=
      List.mem_map_of_mem (f := fun entry : String × Measured => (entry.1, entry.2.1)) hmem
    rw [hentries, (hw₂.measured_snoc (readmeName, readme)).1] at hdigest
    obtain ⟨stored, -, heq⟩ := List.mem_map.1 hdigest
    have hsha : hexdigest stored.2 = entry.2.1 := (Prod.ext_iff.1 heq).2
    exact hsha ▸ isHexdigest_hexdigest stored.2
  have hprint : (manifestJson caseId courtId revision times w₃).printable = true := by
    refine printable_manifestJson hcase hcourt (by rw [hw₃]; exact hcounts) fun entry hmem => ?_
    rw [hentries, List.mem_append, List.mem_singleton] at hmem
    rcases hmem with hmem | rfl
    · exact hsizes entry hmem
    · exact length_readme
  have hname : readmeName.utf8ByteSize = 10 := by decide +kernel
  have hbound₃ : manifestBound revision times w₃ =
      manifestBound revision times w + (6 * readmeName.utf8ByteSize + 4803) := by
    have hcounts₃ : w₃.counts = w.counts := by rw [hw₃]
    have hsum : (w₃.entries.map fun entry => 6 * entry.1.utf8ByteSize + 4803).sum =
        (w.entries.map fun entry => 6 * entry.1.utf8ByteSize + 4803).sum + (6 * readmeName.utf8ByteSize + 4803) := by
      rw [hentries, List.map_append, List.sum_append]
      rfl
    unfold manifestBound
    rw [hsum, hcounts₃, ← Nat.add_assoc]
  obtain ⟨text, htext⟩ : ∃ text, dumps (manifestJson caseId courtId revision times w₃) = some text := ⟨_, if_pos hprint⟩
  have hshort : (utf8Encode (text ++ ['\n'])).length ≤ maxManifestBytes := by
    have hwidth := (length_dumps htext).trans (width_manifestJson hhex)
    have hbytes := length_utf8Encode (text ++ ['\n'])
    rw [List.length_append, List.length_singleton] at hbytes
    rw [hname] at hbound₃
    omega
  have hline : jsonLine (manifestJson caseId courtId revision times w₃) = .ok (utf8Encode (text ++ ['\n'])) :=
    present_bind.2 ⟨text, htext, rfl⟩
  subst hw₃
  refine ⟨w.archive ++ [(readmeName, readme)] ++ [(manifestName, utf8Encode (text ++ ['\n']))],
    utf8Encode (text ++ ['\n']), ?_, fun entry hmem => List.mem_append_left _ (List.mem_append_left _ hmem)⟩
  refine Except.bind_eq_ok.2 ⟨w₁, htables, Except.bind_eq_ok.2 ⟨w, hobjects, ?_⟩⟩
  exact Except.bind_eq_ok.2 ⟨_, hline, demand_bind.2 ⟨hshort, rfl⟩⟩

/-- A failed export leaves the directory as it was; a completed one adds its archive. -/
structure ExportSound (snapshot : Snapshot) (store : String → Option ObjectStream) (caseId : Int) (output : String)
    (directory : Directory) (result : Except ArchiveError Exported × Directory) : Prop where
  failed : ∀ e, result.1 = .error e → result.2 = directory
  completed : ∀ report, result.1 = .ok report → ∃ archive,
    result.2 = Function.update directory output (some archive) ∧ Exports snapshot store caseId archive report

section
variable {snapshot : Snapshot} {store : String → Option ObjectStream} {caseId : Int} {output temporary : String}
  {directory : Directory}

theorem ExportSound.of_error {e : ArchiveError} {after : Directory} (h : after = directory) :
    ExportSound snapshot store caseId output directory (.error e, after) := ⟨fun _ _ => h, nofun⟩

theorem ExportSound.of_ok {report : Exported} {archive : Archive} (h : Exports snapshot store caseId archive report) :
    ExportSound snapshot store caseId output directory
      (.ok report, Function.update directory output (some archive)) := by
  refine ⟨nofun, fun report' heq => ⟨archive, rfl, ?_⟩⟩
  cases heq
  exact h

theorem unlink_temporary (h : directory temporary = none) (archive : Option Archive) :
    Function.update (Function.update directory temporary archive) temporary none = directory := by
  rw [Function.update_idem, ← h, Function.update_eq_self]

/-- **What `export_case` does**, where the temporary file is a new one. -/
theorem exportCase_sound {times : ExportTimes} (hfresh : directory temporary = none) :
    ExportSound snapshot store caseId output directory
      (exportCase snapshot store times caseId output temporary directory) := by
  unfold exportCase
  split_ifs with hpositive hexists
  · exact .of_error rfl
  · exact .of_error rfl
  · cases prepareExport snapshot caseId with
    | error e => exact .of_error rfl
    | ok prepared =>
      obtain ⟨courtId, revision⟩ := prepared
      dsimp only
      cases hwrite : writeArchive snapshot store times caseId courtId revision with
      | error e => exact .of_error (unlink_temporary hfresh _)
      | ok written =>
        obtain ⟨archive, manifest, counts⟩ := written
        dsimp only
        split_ifs with htaken
        · exact .of_error (unlink_temporary hfresh _)
        · have hne : output ≠ temporary := by
            rintro rfl
            rw [Function.update_self] at htaken
            exact htaken rfl
          rw [Function.update_comm hne, unlink_temporary hfresh]
          exact .of_ok (writeArchive_ok hwrite)

theorem exportCase_complete {times : ExportTimes} {courtId : Int} {revision : String} {archive : Archive}
    {manifest : Content}
    {counts : List (String × Nat)} (hpositive : 0 < caseId) (hfree : directory output = none)
    (hfresh : directory temporary = none) (hne : output ≠ temporary)
    (hprepared : prepareExport snapshot caseId = .ok (courtId, revision))
    (hwrite : writeArchive snapshot store times caseId courtId revision = .ok (archive, manifest, counts)) :
    exportCase snapshot store times caseId output temporary directory =
      (.ok ⟨caseId, counts, hexdigest manifest⟩, Function.update directory output (some archive)) := by
  have hunlinked : Function.update (Function.update (Function.update directory temporary (some archive)) output
      (some archive)) temporary none = Function.update directory output (some archive) := by
    rw [Function.update_comm hne, unlink_temporary hfresh]
  unfold exportCase
  rw [if_neg (by omega), if_neg (by simp [hfree]), hprepared]
  dsimp only
  rw [hwrite]
  dsimp only
  rw [if_neg (by simp [Function.update_of_ne hne, hfree]), hunlinked]

end

/-- The fingerprint of `%PDF`. -/
def pdfSha256 : String := "315d429b7714cedb6ad04ac31240145257692630457f3c88253c5beceac76027"

/-- A case with one filing, whose document has a public copy of the same bytes. -/
def sharedSnapshot : Snapshot where
  rows
    | .cases => [[("id", .int 7), ("court_id", .int 2), ("case_type_id", .int 3)]]
    | .filingEnvelopes => [[("id", .int 10), ("case_id", .int 7), ("court_id", .int 2)]]
    | .filingDocuments => [[("id", .int 11), ("envelope_id", .int 10), ("file_key", .string "original"),
        ("file_size_bytes", .int 4), ("sha256_hash", .string pdfSha256)]]
    | .documentPublicCopies => [[("id", .int 12), ("document_id", .int 11), ("file_key", .string "copy"),
        ("file_size_bytes", .int 4), ("sha256_hash", .string pdfSha256)]]
    | _ => []
  revision := some "0001"
  evidence := ["metadata_consistent"]
  connectionFault := false
  streamFault _ := none

/-- Both objects are `%PDF`. -/
def sharedStore (key : String) : Option ObjectStream :=
  if key = "original" ∨ key = "copy" then some ⟨[[37, 80, 68, 70]], false⟩ else none

def sharedTimes : ExportTimes := ⟨"2026-01-05T12:00:00+00:00", "2026-01-05T12:00:01+00:00"⟩

def sharedExport : Except ArchiveError Exported × Directory :=
  exportCase sharedSnapshot sharedStore sharedTimes 7 "case-7.zip" ".case-export-a1b2c3d4" (fun _ => none)

theorem sharedSnapshot_written : (writeEntries sharedSnapshot sharedStore 7 2).toOption.any (fun w =>
    w.archive.contains (objectPath pdfSha256, [37, 80, 68, 70]) &&
      w.counts.all (fun count => decide (count.2 < 10 ^ maxDigits)) &&
      w.entries.all (fun entry => decide (entry.2.2 < 10 ^ maxDigits)) &&
      decide (4 * manifestBound "0001" sharedTimes w + 20000 ≤ maxManifestBytes)) = true := by decide +kernel

/-- The export succeeds, and its archive holds the two objects under one name. -/
theorem exportCase_sound_shared : ∃ archive report,
    sharedExport = (.ok report, Function.update (fun _ => none) "case-7.zip" (some archive)) ∧
    Exports sharedSnapshot sharedStore 7 archive report ∧ (objectPath pdfSha256, [37, 80, 68, 70]) ∈ archive := by
  have hsound : ExportSound sharedSnapshot sharedStore 7 "case-7.zip" (fun _ => none) sharedExport :=
    exportCase_sound rfl
  have hwritten := sharedSnapshot_written
  cases hw : writeEntries sharedSnapshot sharedStore 7 2 with
  | error e =>
    rw [hw] at hwritten
    cases hwritten
  | ok w =>
    simp only [hw, Except.toOption, Option.any_some, Bool.and_eq_true, decide_eq_true_eq, List.contains_iff_mem,
      List.all_eq_true] at hwritten
    obtain ⟨⟨⟨hmem, hcounts⟩, hsizes⟩, hbound⟩ := hwritten
    obtain ⟨archive, manifest, hwrite, hkept⟩ :=
      writeArchive_complete hw (by decide +kernel) (by decide +kernel) hcounts hsizes hbound
    have hresult : sharedExport = _ := exportCase_complete (by decide) rfl rfl (by decide) rfl hwrite
    obtain ⟨archive', hafter, hexports⟩ := hsound.completed _ (congrArg Prod.fst hresult)
    have hsame : Function.update (fun _ : String => none) "case-7.zip" (some archive) =
        Function.update (fun _ => none) "case-7.zip" (some archive') := (congrArg Prod.snd hresult).symm.trans hafter
    have harchive := congrFun hsame "case-7.zip"
    rw [Function.update_self, Function.update_self] at harchive
    cases harchive
    exact ⟨archive, _, hresult, hexports, hkept _ hmem⟩

end Muefs
