import Muefs.Steps.Persistence
import Muefs.Steps.Replays

/-!
# One filing for each creation key

* `CreatedAs`, `Run.creation_indexed` : the key of a filer leads to the filing that carries it, and to no other;
* `Run.created_as_kept` : it does so for ever, with the payload it was made of;
* `Run.creation_committed`, `Run.creation_failed` : what a request with the key was answered, and why it was refused;
* `Run.created_once` : the law.
-/

namespace Muefs
open RowLocks

variable {cfg : Settings} {w₀ w w' : PortalWorld} {userId : UserId} {key : Uuid} {f : FilingId}

/-! ## The entry of a key -/

/-- The key of this filer leads to this filing. -/
structure CreatedAs (db : Store) (userId : UserId) (key : Uuid) (f : FilingId) (stored : FilingFile) : Prop where
  entry : db (.creationKey userId key) = some f
  filing : db (.envelope f) = some stored
  filer : stored.filing.filerId = userId
  key_eq : stored.filing.creationKey = some key

/-- Every entry leads to the filing that carries its key, and every filing has its entry. -/
structure CreationsIndexed (db : Store) : Prop where
  found : ∀ userId key f, db (.creationKey userId key) = some f → ∃ stored, CreatedAs db userId key f stored
  entered : ∀ f file, db (.envelope f) = some file →
    ∃ key, file.filing.creationKey = some key ∧ db (.creationKey file.filing.filerId key) = some f

theorem Run.commit_creation (h : Run cfg w₀ w) {sid : Nat} {s : Session View Failure Response Request} {a : Response}
    (hc : Commits (portal cfg) w sid s a) {data : FilingEnvelopeCreate}
    (hr : s.request = .createFiling userId data key) :
    CreationEnd w.db s.trace userId data key a := by
  have hprogram : (portal cfg).program s.request = createFiling userId data key := by rw [hr]; rfl
  exact createFiling_meets _ _ (hprogram ▸ hc.ends) (h.guarded.current _ _ hc.found hc.running)

theorem Run.created_entry (h : Run cfg w₀ w) {sid : Nat} {s : Session View Failure Response Request} {a : Response}
    (hc : Commits (portal cfg) w sid s a) {data : FilingEnvelopeCreate} {file' : FilingFile}
    (hnew : Created s.request w.db s.trace f userId data key file')
    (hfile' : commit s.trace w.db (.envelope f) = some file') :
    commit s.trace w.db (.creationKey userId key) = some f := by
  have hnone := h.created_none hc hnew
  cases h.commit_creation hc hnew.request with
  | replayed g file hkey hread hsame =>
    rw [hsame, hnone] at hfile'
    cases hfile'
  | inserted g file hcreated hdb =>
    by_cases hg : g = f
    · rw [hdb, Function.update_self, hg]
    · rw [hdb, Function.update_of_ne (by simp), Function.update_of_ne (by simpa using Ne.symm hg), hnone] at hfile'
      cases hfile'

theorem Run.entry_kept (h : Run cfg w₀ w) (hs : Steps (portal cfg) w w')
    (hf : w.db (.creationKey userId key) = some f) :
    w'.db (.creationKey userId key) = some f := by
  refine h.row_since (g := .creationKey userId key) rfl (I := fun v => v = some f) hf ?_ hs
  rintro w₁ sid s a _ _ _ hv ⟨g, data, file', hg, hcreated, _⟩
  rw [hcreated.unrecorded] at hv
  cases hv

/-- **The key leads to its filing for ever, with the payload it was made of.** -/
theorem Run.created_as_kept (h : Run cfg w₀ w) (hs : Steps (portal cfg) w w') {stored : FilingFile}
    (hf : CreatedAs w.db userId key f stored) : ∃ stored', CreatedAs w'.db userId key f stored' ∧
      stored'.filing.creationSha256 = stored.filing.creationSha256 := by
  obtain ⟨file', hfile', hgrew⟩ := h.grew hs hf.filing
  refine ⟨file', ⟨h.entry_kept hs hf.entry, hfile', ?_, ?_⟩, hgrew.fixed.creationSha256⟩
  · rw [hgrew.fixed.filerId, hf.filer]
  · rw [hgrew.fixed.creationKey, hf.key_eq]

theorem Run.creation_indexed (h : Run cfg w₀ w) : CreationsIndexed w.db := by
  refine Run.store_since (w := w₀) ⟨h.start, .refl⟩ ⟨?_, ?_⟩ ?_ ?_ h.steps
  · intro userId key f hf
    rw [h.start.creationKey] at hf
    cases hf
  · intro f file hf
    rw [h.start.envelope] at hf
    cases hf
  · intro db db' hrows hI
    constructor
    · intro userId key f hf
      obtain ⟨stored, hstored⟩ := hI.found userId key f (by rw [← hrows _ rfl]; exact hf)
      exact ⟨stored, hf, by rw [hrows _ rfl]; exact hstored.filing, hstored.filer, hstored.key_eq⟩
    · intro f file hf
      obtain ⟨key, hkey, hentry⟩ := hI.entered f file (by rw [← hrows _ rfl]; exact hf)
      exact ⟨key, hkey, by rw [hrows _ rfl]; exact hentry⟩
  · intro w₁ sid s a h₁ _ hc hI hch
    have hstep : Steps (portal cfg) w₁ (w₁.committed sid s a) := .tail .refl (.commit sid s a hc)
    constructor
    · intro userId key f hf
      rcases hch (.creationKey userId key) with hsame | ⟨g, data, file', hg, hcreated, hfile'⟩
      · obtain ⟨stored, hstored⟩ := hI.found userId key f (hsame ▸ hf)
        obtain ⟨stored', hstored', _⟩ := h₁.created_as_kept hstep hstored
        exact ⟨stored', hstored'⟩
      · cases hf.symm.trans hg
        refine ⟨file', hf, hfile', ?_, ?_⟩ <;> rw [hcreated.file_eq] <;> rfl
    · intro f file hf
      rcases hch (.envelope f) with hsame | ⟨file', hfile', ⟨userId, data, key, hnew⟩ | ⟨file₁, hfile₁, hfs⟩⟩
      · obtain ⟨key, hkey, hentry⟩ := hI.entered f file (hsame ▸ hf)
        exact ⟨key, hkey, h₁.entry_kept hstep hentry⟩
      · cases hf.symm.trans hfile'
        have hentry := h₁.created_entry hc hnew hfile'
        rw [hnew.file_eq]
        exact ⟨key, rfl, hentry⟩
      · cases hf.symm.trans hfile'
        obtain ⟨key, hkey, hentry⟩ := hI.entered f file₁ hfile₁
        have hfixed := hfs.grows.fixed
        exact ⟨key, hfixed.creationKey ▸ hkey, hfixed.filerId ▸ h₁.entry_kept hstep hentry⟩

theorem CreationsIndexed.unique {db : Store} (h : CreationsIndexed db) {g : FilingId} {file file' : FilingFile}
    (hf : db (.envelope f) = some file) (hg : db (.envelope g) = some file')
    (hfiler : file.filing.filerId = file'.filing.filerId) (hkey : file.filing.creationKey = file'.filing.creationKey) :
    f = g := by
  obtain ⟨k, hk, hentry⟩ := h.entered f file hf
  obtain ⟨k', hk', hentry'⟩ := h.entered g file' hg
  rw [hkey, hk'] at hk
  cases hk
  rw [hfiler, hentry'] at hentry
  exact (Option.some.inj hentry).symm

/-! ## Answers -/

theorem Run.read_fixed (h : Run cfg w₀ w) {sid : Nat} {s : Session View Failure Response Request}
    (hs : w.sessions sid = some s) {file stored : FilingFile} (hread : Read s.trace f file)
    (hstored : w.db (.envelope f) = some stored) :
    file.filing.id = f ∧ file.filing.creationSha256 = stored.filing.creationSha256 := by
  obtain ⟨rows, hseen, heq⟩ := hread.envelope
  have hfixed := (h.seen_grew hs hseen hstored).fixed
  rw [← heq]
  exact ⟨hfixed.id.symm.trans (h.wellFormed f stored hstored).id_eq, hfixed.creationSha256.symm⟩

/-- **A creation that was answered, was answered by the filing of its key.** -/
theorem Run.creation_committed (h : Run cfg w₀ w) {sid : Nat} {s : Session View Failure Response Request} {a : Response}
    {data : FilingEnvelopeCreate} (hs : w.sessions sid = some s) (hr : s.request = .createFiling userId data key)
    (ha : s.status = .committed a) :
    ∃ f stored, CreatedAs w.db userId key f stored ∧ Replays f stored.filing.creationSha256 data a := by
  obtain ⟨w₁, s₁, h₁, hc, h₂, hreq, _⟩ := h.steps.committed_at (h.start.idle sid) hs ha
  have hrun₁ : Run cfg w₀ w₁ := ⟨h.start, h₁⟩
  have hrun₂ := hrun₁.tail (.commit sid s₁ a hc)
  suffices ∃ f stored, CreatedAs (w₁.committed sid s₁ a).db userId key f stored ∧
      Replays f stored.filing.creationSha256 data a by
    obtain ⟨f, stored, hstored, hreplays⟩ := this
    obtain ⟨stored', hstored', hsha⟩ := hrun₂.created_as_kept h₂ hstored
    exact ⟨f, stored', hstored', hsha ▸ hreplays⟩
  cases hrun₁.commit_creation hc (hreq.trans hr) with
  | replayed f file hkey hread hsame =>
    obtain ⟨w₃, h₃, h₃₁, hlook⟩ := h₁.looked_at h.start.idle hc.found hkey
    have hrun₃ : Run cfg w₀ w₃ := ⟨h.start, h₃⟩
    obtain ⟨stored₁, hstored₁⟩ := hrun₁.creation_indexed.found userId key f (hrun₃.entry_kept h₃₁ hlook.symm)
    obtain ⟨hid, hsha⟩ := hrun₁.read_fixed hc.found hread hstored₁.filing
    refine ⟨f, stored₁, ?_, replayCreation_replays hid hsha⟩
    change CreatedAs (commit s₁.trace w₁.db) userId key f stored₁
    rwa [hsame]
  | inserted f file hcreated hdb =>
    have hentry : (w₁.committed sid s₁ (.filing file)).db (.creationKey userId key) = some f := by
      change commit s₁.trace w₁.db _ = _
      rw [hdb, Function.update_self]
    have hfile : (w₁.committed sid s₁ (.filing file)).db (.envelope f) = some file := by
      change commit s₁.trace w₁.db _ = _
      rw [hdb, Function.update_of_ne (by simp), Function.update_self]
    refine ⟨f, file, ⟨hentry, hfile, ?_, ?_⟩, .inl ⟨?_, file, rfl, ?_⟩⟩ <;> rw [hcreated.file_eq] <;> rfl

theorem Run.creation_reads (h : Run cfg w₀ w) {sid : Nat} {sha : Option (Digest CreationFields)}
    (haccount : ∀ w₁, Steps (portal cfg) w w₁ → Steps (portal cfg) w₁ w' → ∃ account, ActiveFiler w₁.db userId account)
    (hentry : w'.db (.creationKey userId key) = none ∨
      ∃ stored, CreatedAs w'.db userId key f stored ∧ stored.filing.creationSha256 = sha)
    {w₁ : PortalWorld} {tr : Trace} {e : Entry View} (hs₁ : Steps (portal cfg) w w₁) (hs₁' : Steps (portal cfg) w₁ w')
    (hsince : AskedSince (portal cfg) sid w w₁ tr) (ha : w₁.Admits (portal cfg) sid e) :
    CreationRead (w.db (.creationKey userId key) = none) userId key f
      (fun file => file.filing.id = f ∧ file.filing.creationSha256 = sha) tr e := by
  have hrun₁ := h.trans hs₁
  have honly : ∀ {w₂}, Run cfg w₀ w₂ → Steps (portal cfg) w₂ w' → ∀ g, w₂.db (.creationKey userId key) = some g →
    g = f := by
    intro w₂ hrun₂ hs₂ g hg
    have hlater := hrun₂.entry_kept hs₂ hg
    rcases hentry with hnone | ⟨stored, hstored, _⟩
    · rw [hnone] at hlater
      cases hlater
    · exact Option.some.inj (hlater.symm.trans hstored.entry)
  have hknown : Known userId key f tr → w₁.db (.creationKey userId key) = some f := by
    rintro (hlook | ⟨m, hlock⟩)
    · obtain ⟨w₂, hs₂, hs₂₁, ha₂⟩ := hsince _ hlook
      exact (h.trans hs₂).entry_kept hs₂₁ (show some f = w₂.db (.creationKey userId key) from ha₂).symm
    · obtain ⟨w₂, hs₂, hs₂₁, ha₂⟩ := hsince _ hlock
      exact (h.trans hs₂).entry_kept hs₂₁ ha₂.2.1.symm
  refine ⟨ha.reads ?_, ha.reads ?_, fun hk => ha.reads ?_, fun hk => ha.reads ?_⟩
  · intro g
    cases g with
    | user id =>
      rintro rfl
      obtain ⟨account, hactive⟩ := haccount w₁ hs₁ hs₁'
      exact ⟨account, hactive.stored, hactive.active, hactive.notPublic⟩
    | _ => trivial
  · intro g
    cases g with
    | creationKey id k =>
      rintro rfl rfl
      cases hv : w₁.db (.creationKey id k) with
      | some g => exact .inr (by rw [honly hrun₁ hs₁' g hv])
      | none =>
        refine .inl ⟨rfl, ?_⟩
        cases hw : w.db (.creationKey id k) with
        | none => rfl
        | some g => exact absurd (hv.symm.trans (h.entry_kept hs₁ hw)) (by simp)
    | _ => trivial
  · intro g
    cases g with
    | creationKey id k =>
      rintro rfl rfl
      exact .inr (hknown hk)
    | _ => trivial
  · intro g
    cases g with
    | envelope g =>
      rintro rfl
      obtain ⟨file, hfile⟩ := hrun₁.creation_indexed.found userId key g (hknown hk)
      refine ⟨file, hfile.filing, (hrun₁.wellFormed g file hfile.filing).id_eq, ?_⟩
      obtain ⟨stored', hstored', hsha⟩ := hrun₁.created_as_kept hs₁' hfile
      rcases hentry with hnone | ⟨stored, hstored, hsha'⟩
      · exact absurd (hnone.symm.trans hstored'.entry) (by simp)
      · cases hstored'.filing.symm.trans hstored.filing
        exact hsha.symm.trans hsha'
    | _ => trivial

/-- **A creation that failed, by an account that could file all the while, was refused for its destination, and the last
that it read was that its key led nowhere.** -/
theorem Run.creation_failed (h : Run cfg w₀ w) (hs : Steps (portal cfg) w w') {sid : Nat}
    {s : Session View Failure Response Request} {data : FilingEnvelopeCreate} {x : Failure}
    (hnew : w.sessions sid = none) (hs' : w'.sessions sid = some s) (hr : s.request = .createFiling userId data key)
    (haccount : ∀ w₁, Steps (portal cfg) w w₁ → Steps (portal cfg) w₁ w' → ∃ account, ActiveFiler w₁.db userId account)
    (hx : s.status = .failed x) :
    w.db (.creationKey userId key) = none ∧ x.IsDestination ∧
      ∃ tr, s.trace = tr ++ [⟨.look (.creationKey userId key), none⟩] := by
  have hrun' := h.trans hs
  obtain ⟨f, sha, hentry⟩ : ∃ f sha, w'.db (.creationKey userId key) = none ∨
      ∃ stored, CreatedAs w'.db userId key f stored ∧ stored.filing.creationSha256 = sha := by
    cases hv : w'.db (.creationKey userId key) with
    | none => exact ⟨0, none, .inl rfl⟩
    | some f =>
      obtain ⟨stored, hstored⟩ := hrun'.creation_indexed.found userId key f hv
      exact ⟨f, _, .inr ⟨stored, hstored, rfl⟩⟩
  have hyields := hs.yielded hrun'.guarded hnew hs' (fun w₁ tr e => h.creation_reads haccount hentry)
    (by rw [hr]; exact createFiling_yields)
  exact hyields.1 x hx

theorem Run.creation_still (h : Run cfg w₀ w) (hs : Step (portal cfg) w w')
    (hf : w.db (.creationKey userId key) = some f)
    {sid : Nat} {s : Session View Failure Response Request} {data : FilingEnvelopeCreate}
    (hs' : w'.sessions sid = some s) (hmoved : w'.sessions sid ≠ w.sessions sid)
    (hr : s.request = .createFiling userId data key) : w'.db = w.db := by
  have hstill : ((portal cfg).program s.request).Asks Op.Still := hr ▸ createFiling_still userId data key
  rcases hs.still hs' hmoved hstill with hdb | ⟨s₀, a, hc, rfl, hreq⟩
  · exact hdb
  · cases h.commit_creation hc (hreq.trans hr) with
    | replayed g file hkey hread hsame => exact hsame
    | inserted g file hcreated hdb =>
      rw [hcreated.unrecorded] at hf
      cases hf

/-! ## The law -/

/-- What creations with one key of one filer come to. -/
structure CreatedOnce (cfg : Settings) (w : PortalWorld) (userId : UserId) (key : Uuid) : Prop where
  unique : ∀ f file g file', w.db (.envelope f) = some file → w.db (.envelope g) = some file' →
    file.filing.filerId = userId → file.filing.creationKey = some key →
    file'.filing.filerId = userId → file'.filing.creationKey = some key → f = g
  answered : ∀ sid s data a, w.sessions sid = some s → s.request = .createFiling userId data key →
    s.status = .committed a → ∃ f stored, CreatedAs w.db userId key f stored ∧
      Replays f stored.filing.creationSha256 data a
  kept : ∀ w' f stored, Steps (portal cfg) w w' → CreatedAs w.db userId key f stored →
    ∃ stored', CreatedAs w'.db userId key f stored' ∧ stored'.filing.creationSha256 = stored.filing.creationSha256
  still : ∀ w' f sid s data, Step (portal cfg) w w' → w.db (.creationKey userId key) = some f →
    w'.sessions sid = some s → w'.sessions sid ≠ w.sessions sid → s.request = .createFiling userId data key →
    w'.db = w.db
  refused : ∀ w' sid s data x, Steps (portal cfg) w w' → w.sessions sid = none → w'.sessions sid = some s →
    s.request = .createFiling userId data key →
    (∀ w₁, Steps (portal cfg) w w₁ → Steps (portal cfg) w₁ w' → ∃ account, ActiveFiler w₁.db userId account) →
    s.status = .failed x → w.db (.creationKey userId key) = none ∧ x.IsDestination ∧
      ∃ tr, s.trace = tr ++ [⟨.look (.creationKey userId key), none⟩]

/-- **One filing for each creation key.** Whatever runs beside them, creations of a filer with one key make one filing;
each that is answered is answered with it, or with its number where the payload is another one; and once it is there
they change nothing, and none of them is refused as long as the account may file. -/
theorem Run.created_once (h : Run cfg w₀ w) (userId : UserId) (key : Uuid) : CreatedOnce cfg w userId key where
  unique _ _ _ _ hf hg hfiler hkey hfiler' hkey' :=
    h.creation_indexed.unique hf hg (hfiler.trans hfiler'.symm) (hkey.trans hkey'.symm)
  answered _ _ _ _ hs hr ha := h.creation_committed hs hr ha
  kept _ _ _ hs hf := h.created_as_kept hs hf
  still _ _ _ _ _ hs hf hs' hmoved hr := h.creation_still hs hf hs' hmoved hr
  refused _ _ _ _ _ hs hnew hs' hr haccount hx := h.creation_failed hs hnew hs' hr haccount hx

/-- The portal after a creation that its court was not found for, and then one, its replay and one with
another payload. -/
def recreatedWorld : PortalWorld :=
  smallWorld.serveAll (portal .demo) 0 [(1000, .createFiling 1 { smallDraft with courtId := 2 } 7),
    (2000, .createFiling 1 smallDraft 7), (3000, .createFiling 1 smallDraft 7),
    (4000, .createFiling 1 { smallDraft with caseTitle := some "C v E" } 7)]

theorem recreatedWorld_run : Run .demo smallWorld recreatedWorld := Run.serveAll smallWorld_initial (by decide +kernel)

/-- The key leads to the filing of the second request, the replay was answered with it and the last request with 409. -/
theorem Run.created_once_created : CreatedOnce .demo recreatedWorld 1 7 ∧
    recreatedWorld.db (.creationKey 1 7) = some 10 ∧ ((recreatedWorld.sessions 2).any fun s => match s.status with
      | .committed (.filing file) => file.filing.id == 10
      | _ => false) = true ∧
    ((recreatedWorld.sessions 3).any fun s => match s.status with
      | .committed (.creationConflict f) => f == 10
      | _ => false) = true :=
  ⟨Run.created_once recreatedWorld_run 1 7, by decide +kernel, by decide +kernel, by decide +kernel⟩

/-- A creation with another payload is not always answered with 409: it may have been refused for its own destination
before there was a filing. -/
theorem creation_elsewhere : ¬ ∀ (w₀ w : PortalWorld) (userId : UserId) (key : Uuid) (f : FilingId)
    (stored : FilingFile)
    (data : FilingEnvelopeCreate) (sid : Nat) (s : Session View Failure Response Request), Run .demo w₀ w →
    CreatedAs w.db userId key f stored → stored.filing.creationSha256 ≠ some (creationFingerprint data) →
    w.sessions sid = some s → s.request = .createFiling userId data key →
    ∀ x, s.status = .failed x → x.httpStatus = 409 := by
  intro hall
  have hstored : (recreatedWorld.db (.envelope 10)).any (fun file => file.filing.filerId == 1 &&
      file.filing.creationKey == some 7 && file.filing.creationSha256 == some
      (creationFingerprint smallDraft)) = true := by
    decide +kernel
  obtain ⟨stored, hfile, hfields⟩ := (Option.any_eq_true _ _).1 hstored
  simp only [Bool.and_eq_true, beq_iff_eq] at hfields
  have hother : stored.filing.creationSha256 ≠ some (creationFingerprint { smallDraft with courtId := 2 }) := by
    rw [hfields.2]
    decide
  have hfailed : (recreatedWorld.sessions 0).any (fun s => match s.status with
      | .failed x => x.httpStatus == 404
      | _ => false) = true := by decide +kernel
  obtain ⟨s, hs, hstatus⟩ := (Option.any_eq_true _ _).1 hfailed
  have hreq : s.request = .createFiling 1 { smallDraft with courtId := 2 } 7 := by
    have hsession : (recreatedWorld.sessions 0).map Session.request =
        some (.createFiling 1 { smallDraft with courtId := 2 } 7) := rfl
    rw [hs] at hsession
    exact Option.some.inj hsession
  have hentry : recreatedWorld.db (.creationKey 1 7) = some 10 := by decide +kernel
  cases hx : s.status with
  | failed x =>
    have hstatus409 := hall smallWorld recreatedWorld 1 7 10 stored _ 0 s recreatedWorld_run
      ⟨hentry, hfile, hfields.1.1, hfields.1.2⟩ hother hs hreq x hx
    rw [hx, beq_iff_eq] at hstatus
    omega
  | _ => simp [hx] at hstatus

end Muefs
