import Muefs.Portal.Requests

/-!
# What the parts of a request ask of the database

* `Mild`, `recordTransaction_mild` and the lemmas before it : parts that neither lock nor act nor read an object;
* `validateFilingDestination_asks` : the locks of a destination;
* `createFiling_still`, `submitFiling_still`, `reviewFiling_still`, `batchReviewFilings_still` : requests that change
  nothing before their commit.
-/

namespace Muefs
open RowLocks Txn

variable {cfg : Settings} {P : Op View → Prop}

/-! ## Parts -/

/-- Neither a lock nor an act, nor a read of a stored object. -/
def Mild : Op View → Prop
  | .look (.object _) => False
  | .clock | .fresh | .look _ | .write _ _ => True
  | _ => False

theorem Mild.plain {o : Op View} (h : Mild o) : o.Plain := by
  cases o <;> simp_all [Mild, Op.Plain]

theorem mild_plain {α : Type} {p : Portal α} (h : p.Asks Mild) : p.Asks Op.Plain := h.mono fun _ => Mild.plain

def Blind : Op View → Prop
  | .look (.object _) => False
  | _ => True

theorem Mild.blind {o : Op View} (h : Mild o) : Blind o := by
  cases o with
  | look g => cases g <;> exact h
  | _ => trivial

theorem mild_blind {α : Type} {p : Portal α} (h : p.Asks Mild) : p.Asks Blind := h.mono fun _ => Mild.blind

theorem meets_blind {db : Store} {α : Type} {p : Portal α} {Q : Trace → α → Prop} (h : Meets db p Q)
    (hp : p.Asks Blind) : Meets db p fun tr a => Q tr a ∧ ReadsOnly tr [] :=
  h.both ((meets_of_asks hp).mono fun _ _ hall _ _ hv => (hall _ hv).elim)

theorem lookCase_mild (id : Option CaseId) : (lookCase id).Asks Mild := by
  cases id <;> simp [lookCase, Mild]

theorem receiptDetails_mild (file : FilingFile) (court : Option Court) :
    (receiptDetails cfg file court).Asks Mild := by
  refine (lookCase_mild _).bind fun case => ?_
  exact Asks.bind (by simp [Mild]) fun _ => by simp

theorem eventDetails_mild (file : FilingFile) (event : EventType) (court : Option Court) (time : Instant)
    (details : Details) : (eventDetails cfg file event court time details).Asks Mild := by
  unfold eventDetails
  refine .ite ((receiptDetails_mild _ _).bind fun _ => by simp) (.ite ?_ ?_) <;> simp

theorem notifyFilingStatusChange_mild (filing : FilingEnvelope) (event : EventType) :
    (notifyFilingStatusChange cfg filing event).Asks Mild := by
  refine Asks.bind (by simp [Mild]) fun noticeId => .bind (by simp [Mild]) fun user => ?_
  refine Asks.bind (by simp [Mild]) fun time => .bind (by simp [Mild]) fun messageId => ?_
  exact Asks.bind (by simp) fun notice => by simp [Mild]

/-- **Recording a transaction neither locks nor acts.** -/
theorem recordTransaction_mild (file : FilingFile) (event : EventType) (actorId : UserId) (reason : Option String)
    (key : Option Uuid) (details : Details) :
    (recordTransaction cfg file event actorId reason key details).Asks Mild := by
  refine Asks.bind (by simp [Mild]) fun actor => .bind (by simp [Mild]) fun court => ?_
  refine Asks.bind (by simp [Mild]) fun time => (eventDetails_mild _ _ _ _ _).bind fun d => ?_
  refine Asks.bind (by simp) fun _ => .bind (by simp [Mild]) fun id => .ite (by simp) ?_
  exact (notifyFilingStatusChange_mild _ _).bind fun _ => by simp

theorem getCurrentUser_mild (userId : UserId) : (getCurrentUser userId).Asks Mild := by
  refine Asks.bind (by simp [Mild]) fun row => .bind (by simp) fun account => ?_
  exact Asks.bind (by simp) fun _ => by simp

theorem signedInFiler_mild (userId : UserId) : (signedInFiler userId).Asks Mild :=
  (getCurrentUser_mild userId).bind fun _ => by simp [requireUserMayManageEfilings]

theorem getFiling_mild (filingId : FilingId) : (getFiling filingId).Asks Mild := by
  refine Asks.bind (by simp [Mild]) fun envelope => .bind (by simp [Mild]) fun related => ?_
  cases envelope <;> cases related <;> simp

theorem ownedFiling_mild (file : Option FilingFile) (userId : UserId) (refusal : String) :
    (ownedFiling file userId refusal).Asks Mild :=
  Asks.bind (by simp) fun file => .bind (by simp) fun _ => by simp

theorem relatedRows_mild (locked : Bool) (file : FilingFile) : (relatedRows locked file).Asks Mild := by
  refine .ite (by simp) ?_
  exact Asks.bind (by simp [Mild]) fun later => by simp

theorem checkSubmission_mild (locked : Bool) (file : FilingFile) (token : SubmissionToken) (key : Option Uuid) :
    (checkSubmission cfg locked file token key).Asks Mild := by
  refine (relatedRows_mild _ _).bind fun recorded => .ite (by simp) ?_
  refine Asks.bind (by simp) fun _ => .bind (by simp) fun _ => (relatedRows_mild _ _).bind fun charged => ?_
  refine Asks.bind (by simp [Mild]) fun caseType => .bind (by simp) fun _ => ?_
  exact Asks.bind (by simp [Mild]) fun requirements => .bind (by simp) fun _ => by simp

theorem verifyDocuments_plain (docs : List FilingDocument) : (verifyDocuments docs).Asks Op.Plain := by
  induction docs with
  | nil => simp [verifyDocuments]
  | cons doc docs ih =>
    refine Asks.bind (by simp [Op.Plain]) fun stored => .bind (by simp) fun content => ?_
    exact Asks.bind (by simp) fun _ => ih

theorem verifyFilingDocuments_plain (file : FilingFile) (order : Option FilingDocument) :
    (verifyFilingDocuments file order).Asks Op.Plain := Asks.bind (by simp) fun _ => verifyDocuments_plain _

theorem submittedDate_mild (filing : FilingEnvelope) (filedAt : Instant) :
    (submittedDate cfg filing filedAt).Asks Mild := by
  refine .ite ?_ (by simp)
  exact Asks.bind (by simp [Mild]) fun calendars => .bind (by simp) fun _ => by simp

theorem saveFiling_mild (filingId : FilingId) (file : FilingFile) : (saveFiling filingId file).Asks Mild := by
  simp [saveFiling, Mild]

theorem recordSubmission_mild (filingId : FilingId) (file : FilingFile) (key : Option Uuid) :
    (recordSubmission cfg filingId file key).Asks Mild := by
  refine Asks.bind (by simp [Mild]) fun time => (submittedDate_mild _ _).bind fun date => ?_
  refine (recordTransaction_mild _ _ _ _ _ _).bind fun saved => ?_
  exact (saveFiling_mild _ _).bind fun _ => by simp

/-! ## Locks -/

theorem validateFilingDestination_asks (hmild : ∀ o, Mild o → P o) (dest : Destination) (filer : Option Viewer)
    (hcourt : P (.lock .share (.court dest.courtId))) (htype : P (.lock .share (.caseType dest.caseTypeId)))
    (hcase : ∀ id, dest.caseId = some id → P (.lock .share (.case id))) (lock : Bool) :
    (validateFilingDestination dest filer lock).Asks P := by
  have hrow : ∀ g, Mild (.look g) → P (.lock .share g) → (readRow lock g).Asks P := by
    intro g hg hlock
    refine .ite (by simpa using hlock) ?_
    simpa using hmild (.look g) hg
  have hvalid : (validateCase dest filer lock).Asks P := by
    unfold validateCase
    split
    · simp
    · rename_i id hid
      refine (hrow _ (by trivial) (hcase id hid)).bind fun row => .bind (by simp) fun case => ?_
      exact Asks.bind (by simp) fun _ => .bind (by simp) fun _ => .bind (by simp) fun _ => by simp
  refine Asks.bind (by simp) fun _ => .bind (by simp) fun _ => .bind (by simp) fun _ => ?_
  refine (hrow _ (by trivial) hcourt).bind fun court => (hrow _ (by trivial) htype).bind fun caseType => ?_
  refine Asks.bind (by simp) fun _ => .bind (by simp) fun _ => .bind (by simp) fun _ => ?_
  exact Asks.bind (by simp) fun _ => .bind (by simp) fun _ => hvalid

theorem lockCurrentUser_asks {userId : UserId} (hlock : P (.lock .share (.user userId))) :
    (lockCurrentUser userId).Asks P :=
  Asks.bind (by simpa using hlock) fun row => .bind (by simp) fun account => .bind (by simp) fun _ => by simp

theorem lockFiler_asks {userId : UserId} (hlock : P (.lock .share (.user userId))) :
    (lockFiler userId).Asks P :=
  (lockCurrentUser_asks hlock).bind fun account => .bind (by simp [requireUserMayManageEfilings]) fun _ => by simp

/-! ## Creation -/

/-- What a creation locks, under a savepoint: its filer, its destination and its key. -/
structure CreateLocks (P : Op View → Prop) (userId : UserId) (data : FilingEnvelopeCreate) (key : Uuid) : Prop where
  mild : ∀ o, Mild o → P o
  user : P (.lock .share (.user userId))
  court : P (.lock .share (.court data.courtId))
  caseType : P (.lock .share (.caseType data.caseTypeId))
  case : ∀ id, data.caseId = some id → P (.lock .share (.case id))
  creationKey : P (.lock .update (.creationKey userId key))
  tryLock : ∀ m g, P (.lock m g) → P (.tryLock m g)
  keep : ∀ m g v, P (.lock m g) → P (.keep m g v)
  letGo : P .letGo

theorem findCreated_mild (userId : UserId) (key : Uuid) : (findCreated userId key).Asks Mild := by
  refine Asks.bind (by simp [Mild]) fun entry => ?_
  cases entry with
  | none => simp
  | some id => exact getFiling_mild id

theorem createFiling_asks {userId : UserId} {data : FilingEnvelopeCreate} {key : Uuid}
    (h : CreateLocks P userId data key) : (createFiling userId data key).Asks P := by
  have hmild : ∀ {α} {p : Portal α}, p.Asks Mild → p.Asks P := fun hp => hp.mono h.mild
  have hinsert : ∀ account, (insertFiling ⟨userId, account⟩ data key).Asks P := by
    intro account
    refine (validateFilingDestination_asks h.mild _ _ h.court h.caseType h.case _).bind fun case => ?_
    refine Asks.bind (by simpa using h.mild .fresh trivial) fun id => .bind (by simpa using h.creationKey)
      fun taken => ?_
    refine Asks.bind (by simp) fun _ => (hmild (saveFiling_mild _ _)).bind fun _ => ?_
    exact Asks.bind (by simpa using h.mild _ (by trivial)) fun _ => by simp
  refine (hmild (signedInFiler_mild _)).bind fun _ => (lockFiler_asks h.user).bind fun account => ?_
  refine (hmild (findCreated_mild _ _)).bind fun existing => ?_
  cases existing with
  | some file => simp
  | none =>
    refine ((hinsert account).savepoint h.tryLock h.keep h.letGo).bind fun made => ?_
    cases made with
    | ok file => simp
    | error e =>
      exact .ite ((hmild (findCreated_mild _ _)).bind fun existing => .bind (by simp) fun file => by simp) (by simp)

/-- **A creation changes nothing before its commit.** -/
theorem createFiling_still (userId : UserId) (data : FilingEnvelopeCreate) (key : Uuid) :
    (createFiling userId data key).Asks Op.Still :=
  createFiling_asks ⟨fun _ h => h.plain.still, trivial, trivial, trivial, fun _ _ => trivial, trivial,
    fun _ _ _ => trivial, fun _ _ _ _ => trivial, trivial⟩

/-! ## Submission -/

/-- What a submission locks: its filer, its filing and destinations. -/
structure SubmitLocks (P : Op View → Prop) (userId : UserId) (filingId : FilingId) : Prop where
  mild : ∀ o, Mild o → P o
  user : P (.lock .share (.user userId))
  filing : P (.lock .update (.envelope filingId))
  court : ∀ id, P (.lock .share (.court id))
  caseType : ∀ id, P (.lock .share (.caseType id))
  case : ∀ id, P (.lock .share (.case id))

section Submit

variable {userId : UserId} {filingId : FilingId}

theorem SubmitLocks.destination (h : SubmitLocks P userId filingId) (dest : Destination) (filer : Option Viewer)
    (lock : Bool) : (validateFilingDestination dest filer lock).Asks P :=
  validateFilingDestination_asks h.mild dest filer (h.court _) (h.caseType _) (fun id _ => h.case id) lock

theorem submitLocked_asks (h : SubmitLocks P userId filingId) (account : Account) (key : Option Uuid)
    (token : SubmissionToken) (fingerprints : List Fingerprint) :
    (submitLocked cfg account filingId key token fingerprints).Asks P := by
  refine Asks.bind (by simpa [lockFiling] using h.filing) fun row => ?_
  cases row with
  | none => simp
  | some file =>
    refine ((checkSubmission_mild _ _ _ _).mono h.mild).bind fun recorded => .ite (by simp) (.ite ?_ (by simp))
    refine (h.destination _ _ _).bind fun _ => .bind (by simp) fun _ => ?_
    exact ((recordSubmission_mild _ _ _).mono h.mild).bind fun _ => by simp

theorem submitFilingRequest_asks (h : SubmitLocks P userId filingId) (hplain : ∀ o, o.Plain → P o)
    (key : Option Uuid) (token : SubmissionToken) :
    (submitFilingRequest cfg userId filingId key token).Asks P := by
  have hmild : ∀ {α} {p : Portal α}, p.Asks Mild → p.Asks P := fun hp => hp.mono h.mild
  have hmain : ∀ account, (submitFiling cfg account filingId key token).Asks P := by
    intro account
    refine (hmild (getFiling_mild _)).bind fun row => ?_
    cases row with
    | none => simp
    | some probe =>
      refine (hmild (checkSubmission_mild _ _ _ _)).bind fun recorded => .ite (by simp) (.ite ?_ (by simp))
      refine (h.destination _ _ _).bind fun _ => ((verifyFilingDocuments_plain _ _).mono hplain).bind fun _ => ?_
      exact submitLocked_asks h _ _ _ _
  refine (hmild (signedInFiler_mild _)).bind fun _ => (lockFiler_asks h.user).bind fun account => ?_
  refine (hmild (getFiling_mild _)).bind fun row => (hmild (ownedFiling_mild _ _ _)).bind fun _ => ?_
  exact (hmain _).bind fun outcome => by cases outcome <;> simp

end Submit

/-- **A submission changes nothing before its commit.** -/
theorem submitFiling_still (userId : UserId) (filingId : FilingId) (key : Option Uuid) (token : SubmissionToken) :
    (submitFilingRequest cfg userId filingId key token).Asks Op.Still :=
  submitFilingRequest_asks ⟨fun _ h => h.plain.still, trivial, trivial, fun _ => trivial, fun _ => trivial,
    fun _ => trivial⟩ (fun _ h => h.still) key token

/-! ## Reviews -/

/-- What a review locks: its reviewer, the filings, their destinations and the number of a new case. -/
structure ReviewLocks (P : Op View → Prop) (userId : UserId) (filings : FilingId → Prop) : Prop where
  plain : ∀ o, o.Plain → P o
  user : P (.lock .share (.user userId))
  filing : ∀ id, filings id → P (.lock .update (.envelope id))
  court : ∀ id, P (.lock .share (.court id))
  caseType : ∀ id, P (.lock .share (.caseType id))
  case : ∀ id, P (.lock .share (.case id))
  number : ∀ courtId number, P (.lock .update (.caseNumber courtId number))

theorem reviewOrder_mild (probe : FilingFile) : (reviewOrder probe).Asks Mild := by
  refine .ite ?_ (by simp)
  refine Asks.bind (by simp [Mild]) fun rows => .bind (by simp) fun order => ?_
  exact Asks.bind (by simp) fun _ => by simp

theorem verifyReview_plain (filingId : FilingId) (action : ReviewAction) (count : Nat) :
    (verifyReview filingId action count).Asks Op.Plain := by
  refine (mild_plain (getFiling_mild _)).bind fun row => ?_
  cases row with
  | none => simp
  | some probe =>
    refine Asks.bind (by simp) fun _ => .ite ?_ (by simp)
    refine Asks.bind (.ite ?_ (by simp)) fun fingerprints => by simp
    exact (mild_plain (reviewOrder_mild _)).bind fun order => (verifyFilingDocuments_plain _ _).bind fun _ => by simp

theorem assessReviewDate_mild (file : FilingFile) (reviewerId : UserId) (ordered : Bool) (receivedAt : Instant) :
    (assessReviewDate cfg file reviewerId ordered receivedAt).Asks Mild := by
  refine .ite (by simp) ?_
  refine Asks.bind (by simp [Mild]) fun calendars => .bind (by simp) fun _ => .bind (by simp) fun _ => .ite (by simp) ?_
  exact (recordTransaction_mild _ _ _ _ _ _).bind fun saved => by simp

theorem acceptanceCase_mild (file : FilingFile) (case : Option CaseFile) (receivedAt : Instant) :
    (acceptanceCase file case receivedAt).Asks Mild := by
  cases case with
  | some case => simp [acceptanceCase]
  | none =>
    refine Asks.bind (by simp [Mild]) fun court => .bind (by simp [Mild]) fun caseType => ?_
    exact Asks.bind (by simp) fun _ => .bind (by simp) fun _ => by simp

theorem openCase_asks (hmild : ∀ o, Mild o → P o)
    (hnumber : ∀ courtId number, P (.lock .update (.caseNumber courtId number))) (filing : FilingEnvelope)
    (case : Case) : (openCase filing case).Asks P := by
  unfold openCase
  split
  · simp
  · refine Asks.bind (by simpa using hmild .fresh trivial) fun id => ?_
    refine Asks.bind (by simpa using hnumber _ _) fun taken => .bind (by simp) fun _ => ?_
    refine Asks.bind (by simpa using hmild (.write _ _) trivial) fun _ => ?_
    exact Asks.bind (by simpa using hmild (.write _ _) trivial) fun _ => by simp

theorem acceptFiling_asks (hmild : ∀ o, Mild o → P o)
    (hnumber : ∀ courtId number, P (.lock .update (.caseNumber courtId number))) (cms : Cms) (filingId : FilingId)
    (file : FilingFile) (case : Option CaseFile) (reviewerId : UserId) (reason : Option String) (ordered : Bool) :
    (acceptFiling cfg cms filingId file case reviewerId reason ordered).Asks P := by
  have hmono : ∀ {α} {p : Portal α}, p.Asks Mild → p.Asks P := fun hp => hp.mono hmild
  refine Asks.bind (by simpa using hmild .clock trivial) fun time => .bind (by simp) fun receivedAt => ?_
  refine (hmono (assessReviewDate_mild _ _ _ _)).bind fun dated => ?_
  refine (hmono (acceptanceCase_mild _ _ _)).bind fun case => .ite ?_ ?_
  · refine (openCase_asks hmild hnumber _ _).bind fun caseId => ?_
    refine (hmono (recordTransaction_mild _ _ _ _ _ _)).bind fun saved => ?_
    exact (hmono (saveFiling_mild _ _)).bind fun _ => by simp
  · refine (hmono (recordTransaction_mild _ _ _ _ _ _)).bind fun saved => ?_
    exact (hmono (saveFiling_mild _ _)).bind fun _ => by simp

theorem declineFiling_mild (filingId : FilingId) (file : FilingFile) (reviewerId : UserId) (status : FilingStatus)
    (event : EventType) (reason : Option String) :
    (declineFiling cfg filingId file reviewerId status event reason).Asks Mild := by
  refine Asks.bind (by simp [Mild]) fun time => (recordTransaction_mild _ _ _ _ _ _).bind fun saved => ?_
  exact (saveFiling_mild _ _).bind fun _ => by simp

variable {userId : UserId} {filings : FilingId → Prop}

theorem recordReview_asks (h : ReviewLocks P userId filings) {filingId : FilingId} (hf : filings filingId) (cms : Cms)
    (action : ReviewAction) (reason : Option String) (count : Nat) (evidence : ReviewEvidence) :
    (recordReview cfg cms filingId userId action reason count evidence).Asks P := by
  have hmild : ∀ o, Mild o → P o := fun o ho => h.plain o ho.plain
  refine Asks.bind (by simpa [lockFiling] using h.filing _ hf) fun row => ?_
  cases row with
  | none => simp
  | some file =>
    refine Asks.bind (by simp) fun _ => .ite ?_ (by simp)
    cases action with
    | accept =>
      refine Asks.bind (by simp) fun _ => ?_
      refine (validateFilingDestination_asks hmild _ _ (h.court _) (h.caseType _) (fun id _ => h.case id) _).bind ?_
      exact fun case => .bind (by simp) fun _ => acceptFiling_asks hmild h.number _ _ _ _ _ _ _
    | reject => exact (declineFiling_mild _ _ _ _ _ _).mono hmild
    | return_ => exact (declineFiling_mild _ _ _ _ _ _).mono hmild

theorem requireIndependentReviewer_asks (account : Account) (filing : FilingEnvelope) :
    (requireIndependentReviewer userId account filing).Asks P := Asks.bind (by simp) fun _ => by simp

theorem reviewFiling_asks {filingId : FilingId} (h : ReviewLocks P userId (· = filingId)) (cms : Cms)
    (data : ClerkReviewRequest) : (reviewFiling cfg cms userId filingId data).Asks P := by
  have hmono : ∀ {α} {p : Portal α}, p.Asks Op.Plain → p.Asks P := fun hp => hp.mono h.plain
  refine Asks.bind (by simp) fun _ => (lockCurrentUser_asks h.user).bind fun account => ?_
  refine (hmono (mild_plain (getFiling_mild _))).bind fun row => .bind (by simp) fun check => ?_
  refine (requireIndependentReviewer_asks _ _).bind fun _ => (hmono (verifyReview_plain _ _ _)).bind fun evidence => ?_
  refine Asks.bind (by simp) fun evidence => (recordReview_asks h rfl _ _ _ _ _).bind fun outcome => ?_
  cases outcome <;> simp

/-- **A review changes nothing before its commit.** -/
theorem reviewFiling_still (userId : UserId) (filingId : FilingId) (cms : Cms) (data : ClerkReviewRequest) :
    (reviewFiling cfg cms userId filingId data).Asks Op.Still :=
  reviewFiling_asks ⟨fun _ h => h.still, trivial, fun _ _ => trivial, fun _ => trivial, fun _ => trivial,
    fun _ => trivial, fun _ _ => trivial⟩ cms data

/-- What a batch locks: under a savepoint it may give locks back. -/
structure BatchLocks (P : Op View → Prop) (userId : UserId) (filings : FilingId → Prop) : Prop
    extends ReviewLocks P userId filings where
  tryLock : ∀ m g, P (.lock m g) → P (.tryLock m g)
  keep : ∀ m g v, P (.lock m g) → P (.keep m g v)
  letGo : P .letGo

theorem verifyBatch_asks (h : BatchLocks P userId filings) (account : Account) (items : List BatchReviewItem)
    (verified : List (BatchReviewItem × ReviewEvidence)) (result : BatchResult) :
    (verifyBatch userId account items verified result).Asks P := by
  induction items generalizing verified result with
  | nil => simp [verifyBatch]
  | cons item items ih =>
    have hitem : (verifyBatchItem userId account item).Asks P := by
      refine ((mild_plain (getFiling_mild _)).mono h.plain).bind fun row => ?_
      cases row with
      | none => simp
      | some check =>
        exact (requireIndependentReviewer_asks _ _).bind fun _ => (verifyReview_plain _ _ _).mono h.plain
    refine (hitem.savepoint h.tryLock h.keep h.letGo).bind fun checked => ?_
    rcases checked with x | (_ | evidence) <;> exact ih _ _

theorem lockFilings_asks {ids : List FilingId} (hfiling : ∀ id ∈ ids, P (.lock .update (.envelope id))) :
    (lockFilings ids).Asks P := by
  induction ids with
  | nil => simp [lockFilings]
  | cons id ids ih =>
    refine Asks.bind (by simpa [lockFiling] using hfiling id List.mem_cons_self) fun _ => ?_
    exact ih fun id' hid' => hfiling id' (List.mem_cons_of_mem _ hid')

theorem recordBatch_asks (h : BatchLocks P userId filings) (cms : Cms)
    (items : List (BatchReviewItem × ReviewEvidence)) (hitems : ∀ v ∈ items, filings v.1.filingId)
    (result : BatchResult) : (recordBatch cfg cms userId items result).Asks P := by
  induction items generalizing result with
  | nil => simp [recordBatch]
  | cons v items ih =>
    have hreview : (recordReview cfg cms v.1.filingId userId .accept none v.1.expectedSubmissionCount v.2).Asks P :=
      recordReview_asks h.toReviewLocks (hitems v List.mem_cons_self) _ _ _ _ _
    refine (hreview.savepoint h.tryLock h.keep h.letGo).bind fun outcome => ?_
    have hrest := ih fun v' hv' => hitems v' (List.mem_cons_of_mem _ hv')
    rcases outcome with x | (_ | _ | _) <;> exact hrest _

theorem batchReviewFilings_asks (h : BatchLocks P userId fun _ => True) (cms : Cms) (data : BatchReviewRequest) :
    (batchReviewFilings cfg cms userId data).Asks P := by
  refine (lockCurrentUser_asks h.user).bind fun account => (verifyBatch_asks h _ _ _ _).bind fun verified => ?_
  refine (lockFilings_asks fun id _ => h.filing id trivial).bind fun _ => ?_
  exact (recordBatch_asks h _ _ (fun _ _ => trivial) _).bind fun result => by simp

/-- **A batch changes nothing before its commit.** -/
theorem batchReviewFilings_still (userId : UserId) (cms : Cms) (data : BatchReviewRequest) :
    (batchReviewFilings cfg cms userId data).Asks Op.Still :=
  batchReviewFilings_asks ⟨⟨fun _ h => h.still, trivial, fun _ _ => trivial, fun _ => trivial, fun _ => trivial,
    fun _ => trivial, fun _ _ => trivial⟩, fun _ _ _ => trivial, fun _ _ _ _ => trivial, trivial⟩ cms data

/-! ## The access to a case -/

theorem readUsers_mild (p : UserId → User → Bool) (ids : List UserId) : (readUsers p ids).Asks Mild := by
  induction ids with
  | nil => simp [readUsers]
  | cons id ids ih => exact Asks.bind (by simp [Mild]) fun row => ih.bind fun rest => by simp

theorem selectUsers_mild (p : UserId → User → Bool) : (selectUsers p).Asks Mild :=
  Asks.bind (by simp [Mild]) fun ids => readUsers_mild p ids

theorem requireCaseStaff_mild (account : Account) (caseId : CaseId) : (requireCaseStaff account caseId).Asks Mild :=
  Asks.bind (by simp [Mild]) fun row => .bind (by simp) fun case => by simp

theorem participantAccount_mild (data : ParticipantChange) : (participantAccount cfg data).Asks Mild := by
  unfold participantAccount
  split
  · simp
  · refine (selectUsers_mild _).bind fun matching => ?_
    split
    · simp
    · exact Asks.bind (by simp) fun _ => by simp
    · simp

theorem changedParticipant_mild (case : CaseFile) (id : Option ParticipantId) :
    (changedParticipant case id).Asks Mild := by
  cases id with
  | none => simp [changedParticipant]
  | some id => exact Asks.bind (by simp) fun p => by simp

theorem changeParticipant_asks {actorId : UserId} {caseId : CaseId} (hmild : ∀ o, Mild o → P o)
    (huser : P (.lock .update (.user actorId))) (hcase : P (.lock .update (.case caseId)))
    (participantId : Option ParticipantId) (data : ParticipantChange) :
    (changeParticipant cfg actorId caseId participantId data).Asks P := by
  have hmono : ∀ {α : Type} {p : Portal α}, p.Asks Mild → p.Asks P := fun h => h.mono hmild
  have hsave : ∀ case participants event, (saveParticipants caseId case participants event).Asks Mild :=
    fun _ _ _ => by simp [saveParticipants, Mild]
  refine Asks.bind (asks_lock.2 huser) fun actorRow => .bind (by simp) fun actor => ?_
  refine (hmono (requireCaseStaff_mild _ _)).bind fun _ => .bind (asks_lock.2 hcase) fun row => .bind (by simp)
    fun case => ?_
  refine Asks.bind (by simp) fun _ => .bind (hmono (changedParticipant_mild _ _)) fun participant => ?_
  refine (hmono (participantAccount_mild _)).bind fun account => .bind (by simp) fun _ => .bind (by simp) fun _ => ?_
  cases participant with
  | some p => exact .ite (by simp) (hmono (Asks.bind (by simp [Mild]) fun time => hsave _ _ _))
  | none => exact hmono (Asks.bind (by simp [Mild]) fun id => .bind (by simp [Mild]) fun time => hsave _ _ _)

theorem changeParticipant_still (actorId : UserId) (caseId : CaseId) (participantId : Option ParticipantId)
    (data : ParticipantChange) : (changeParticipant cfg actorId caseId participantId data).Asks Op.Still :=
  changeParticipant_asks (fun _ h => h.plain.still) trivial trivial participantId data

theorem changePublicAccess_asks {userId : UserId} {caseId : CaseId} (hmild : ∀ o, Mild o → P o)
    (huser : P (.lock .share (.user userId))) (hcase : P (.lock .update (.case caseId)))
    (data : PublicCaseAccessChange) : (changePublicAccess userId caseId data).Asks P := by
  refine (lockCurrentUser_asks huser).bind fun account => ((requireCaseStaff_mild _ _).mono hmild).bind fun _ => ?_
  refine Asks.bind (by simpa using hmild (.look (.case caseId)) trivial) fun seen => .bind (by simp) fun _ => ?_
  refine .bind (asks_lock.2 hcase) fun row => .bind (by simp) fun case => .bind (by simp) fun _ => .ite (by simp) ?_
  exact Asks.bind (by simp) fun _ => by simpa using hmild (.write _ _) trivial

theorem changePublicAccess_still (userId : UserId) (caseId : CaseId) (data : PublicCaseAccessChange) :
    (changePublicAccess userId caseId data).Asks Op.Still :=
  changePublicAccess_asks (fun _ h => h.plain.still) trivial trivial data

end Muefs
