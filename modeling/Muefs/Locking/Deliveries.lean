import Muefs.Deliveries.Tokens
import Muefs.Locking.Programs

/-!
# The order of row locks, with deliveries

* `serviceOrder` : the contacts of a case and then notices come after the rows of the portal;
* `sendDocuments_finishes` and the lemmas beside it : the requests on deliveries lock the rows of the portal first;
* `serviceProgram_obeys` : every request keeps the order, but for the creation of an account and the recovery of mail;
* `mayLock_own`, `resolveUser_obeys` : requests also keep it when the sign-in has locked a row that they do not edit.
-/

namespace Muefs
open RowLocks Txn

variable {cfg : Settings} {home : CaseTypeId → CourtId} {userId : UserId} {filingId : FilingId}

/-! ## The order -/

/-- When each row may be locked. -/
def serviceTurn (home : CaseTypeId → CourtId) : Mode → BothRow → Turn BothRow Rank
  | m, .inl g => (lockTurn home m g).left ServiceRow
  | _, .inr (.contacts _) => .ranked (rank 2 0)
  | _, .inr (.notice _) => .ranked (rank 1 0)
  | _, .inr _ => .apart

def BothAtHome (home : CaseTypeId → CourtId) : (g : BothRow) → BothView g → Prop
  | .inl g, v => AtHome home g v
  | .inr _, _ => True

def BothKeepsLists : Op BothView → Prop
  | .write (.inl (.courtCaseTypes _)) _ | .act (.inl (.courtCaseTypes _)) _ => False
  | _ => True

/-- The order of row locks, with those of deliveries. -/
def serviceOrder (home : CaseTypeId → CourtId) : LockOrder BothView Rank where
  turn := serviceTurn home
  changes := BothKeepsLists
  known := BothAtHome home

theorem serviceOrder_extends : (serviceOrder home).Extends (portalOrder home) where
  turn _ _ := rfl
  changes o ho := by
    cases o with
    | write g f | act g f =>
      cases g with
      | courtCaseTypes => exact ho.elim
      | _ => trivial
    | _ => trivial
  known _ _ h := h

theorem clears_contacts {locks : Set (Mode × BothRow)} {m : Mode} {id : CaseId} :
    Clears (serviceTurn home) locks m (.inr (.contacts id)) (rank 1 0) := by
  intro m' _
  cases m' <;> exact rank_lt.2 (by omega)

theorem clears_notice {locks : Set (Mode × BothRow)} {m : Mode} {id : NoticeId} :
    Clears (serviceTurn home) locks m (.inr (.notice id)) (rank 0 0) := by
  intro m' _
  cases m' <;> exact rank_lt.2 (by omega)

/-! ## Requests outside the order -/

/-- A read, which locks nothing. -/
def Reading : Op BothView → Prop
  | .clock | .fresh | .look _ | .snapshot => True
  | _ => False

/-- A request that waits for no row of the order, and changes no list. -/
def BothEasy : Op BothView → Prop
  | .lock _ (.inl g) => isIndex g = true
  | .lock _ (.inr (.packetKey _ _)) => True
  | .write (.inl g) _ => isWritten g = true
  | .act (.inl (.object _)) _ | .clock | .fresh | .look _ | .snapshot | .write (.inr _) _ => True
  | _ => False

theorem Reading.easy {o : Op BothView} (h : Reading o) : BothEasy o := by
  cases o with
  | lock | tryLock | keep | letGo | write | act => exact h.elim
  | _ => trivial

theorem BothEasy.order {o : Op BothView} (h : BothEasy o) : (serviceOrder home).Easy o := by
  cases o with
  | lock m g =>
    rcases g with g | g
    · have hturn : ∀ m', lockTurn home m' g = .apart := (show Easy (.lock m g) from h).order
      intro m'
      show (lockTurn home m' g).left ServiceRow = .apart
      rw [hturn m']
      rfl
    · cases g with
      | packetKey => exact fun _ => rfl
      | _ => exact h.elim
  | write g f | act g f =>
    rcases g with g | g
    · cases g with
      | courtCaseTypes => cases h
      | _ => trivial
    · trivial
  | tryLock | keep | letGo => exact h.elim
  | _ => trivial

theorem Easy.left {o : Op View} (h : Easy o) : BothEasy (o.left ServiceView) := by
  cases o with
  | act g f =>
    cases g with
    | object => trivial
    | _ => exact h.elim
  | tryLock | keep | letGo => exact h.elim
  | lock | write => exact h
  | _ => trivial

section Easy

@[simp] theorem reading_clock : Reading .clock := trivial
@[simp] theorem reading_fresh : Reading .fresh := trivial
@[simp] theorem reading_snapshot : Reading .snapshot := trivial
@[simp] theorem reading_look (g : BothRow) : Reading (.look g) := trivial
@[simp] theorem bothEasy_clock : BothEasy .clock := trivial
@[simp] theorem bothEasy_fresh : BothEasy .fresh := trivial
@[simp] theorem bothEasy_snapshot : BothEasy .snapshot := trivial
@[simp] theorem bothEasy_look (g : BothRow) : BothEasy (.look g) := trivial
@[simp] theorem bothEasy_packetKey (m : Mode) (actorId : UserId) (key : Uuid) :
    BothEasy (.lock m (.inr (.packetKey actorId key))) := trivial
@[simp] theorem bothEasy_write (g : ServiceRow) (f : ServiceView g → ServiceView g) :
    BothEasy (.write (V := BothView) (.inr g) f) := trivial

end Easy

/-! ## Parts -/

variable {α β : Type} {b b' : Rank}

theorem leads_ofPortal {p : Portal α} (h : Descends (portalOrder home) b b' p) :
    Leads (portalOrder home) (serviceOrder home) b b' (ofPortal p) := h.leads serviceOrder_extends

theorem leads_of_reading {p : Service α} (h : p.Asks Reading) : Leads (portalOrder home) (serviceOrder home) b b p := by
  refine .of_asks (h.mono fun o ho => ⟨?_, (Reading.easy ho).order⟩) le_rfl
  cases o with
  | lock | tryLock => exact ho.elim
  | _ => rfl

theorem bothDescends_of_easy {p : Service α} (h : p.Asks BothEasy) (hle : b' ≤ b) :
    Descends (serviceOrder home) b b' p := .of_easy (h.mono fun _ => BothEasy.order) hle

theorem finishes_of_easy {p : Service α} (h : p.Asks BothEasy) :
    Finishes (portalOrder home) (serviceOrder home) b p :=
      Descends.finishes serviceOrder_extends b (bothDescends_of_easy h le_rfl)

theorem ofPortal_easy {p : Portal α} (h : p.Asks Easy) : (ofPortal p).Asks BothEasy := h.left fun _ => Easy.left

theorem viewDelivery_reading (user : User) (id : DeliveryId) : (viewDelivery userId user id).Asks Reading := by
  unfold viewDelivery
  simp only [left_look]
  repeat' with_reducible first | refine Asks.bind ?_ fun _ => ?_ | dsimp only
  all_goals simp

theorem findPacket_reading (key : Uuid) : (findPacket userId key).Asks Reading :=
  Asks.bind (by simp) fun db => by simp

theorem lockNotice_descends (id : NoticeId) : Descends (serviceOrder home) (rank 1 0) (rank 0 0) (lockNotice id) :=
  .bind (.lock rfl le_rfl (by simp) fun _ => clears_notice) fun row => bothDescends_of_easy (by simp) le_rfl

/-! ## Contacts -/

theorem contactCase_descends (caseId : CaseId) :
    Descends (portalOrder home) (rank 8 0) (rank 3 0) (contactCase userId caseId) := by
  refine .bind (descends_of_easy getCurrentUser_easy le_rfl) fun _ => .bind lockUser_descends fun actorRow => ?_
  refine .bind (.lock rfl (by simp) (by simp) fun _ => clears_case_update (by simp)) fun row =>
    descends_of_easy ?_ le_rfl
  exact Asks.bind (by simp) fun actor => .bind (by simp) fun case => .bind (by simp) fun _ => by simp

theorem participantUser_easy (p : CaseParticipant) : (ofPortal (participantUser p)).Asks BothEasy := by
  refine ofPortal_easy ?_
  unfold participantUser
  split
  · simp
  · exact Asks.bind (by simp) fun _ => by simp

theorem saveServiceInstructions_finishes (caseId : CaseId) (participantId : ParticipantId) (data : ContactChange) :
    Finishes (portalOrder home) (serviceOrder home) (rank 8 0)
      (saveServiceInstructions cfg userId caseId participantId data) := by
  refine .bind (leads_ofPortal (contactCase_descends caseId)) fun r => Descends.finishes
    serviceOrder_extends (rank 1 0) ?_
  refine .bind (.lock rfl (by simp) (by simp) fun _ => clears_contacts) fun contacts => ?_
  refine bothDescends_of_easy ?_ le_rfl
  unfold saveContacts
  repeat' with_reducible first | refine Asks.bind ?_ fun _ => ?_ | refine Asks.ite ?_ ?_ | split | dsimp only
  all_goals first | exact participantUser_easy _ | simp

/-! ## Packets -/

theorem requireSender_descends (actor : Account) :
    Descends (portalOrder home) (rank 6 0) (rank 4 0) (requireSender cfg userId actor filingId) := by
  refine .bind (descends_of_easy (by simp [requireUserMayManageEfilings]) le_rfl) fun _ => ?_
  refine .bind lockFiling_first fun row => .bind (descends_of_easy (by simp) le_rfl) fun file => ?_
  refine .bind (descends_of_easy (by simp) le_rfl) fun _ => .bind (descends_of_easy (by simp) le_rfl) fun _ => ?_
  refine .bind (descends_of_easy (by simp) le_rfl) fun caseId => ?_
  refine .bind (.lock rfl (by simp) (by simp) fun _ => clears_case (by simp)) fun caseRow => descends_of_easy ?_ le_rfl
  repeat' with_reducible first | refine Asks.bind ?_ fun _ => ?_ | dsimp only
  all_goals simp

theorem checkSelected_easy (case : Case) (choices : List (ContactId × Nat)) (accounts : List UserId)
    (rows : List SelectedRecipient) :
    (ofPortal (checkSelected cfg case userId choices accounts rows)).Asks BothEasy := by
  refine ofPortal_easy ?_
  induction rows generalizing accounts with
  | nil => simp [checkSelected]
  | cons row rows ih => exact Asks.bind (by simp) fun _ => .bind (by simp) fun _ => .bind (by simp) fun _ => ih _

theorem checkDocuments_easy (manifest : List DocumentResponse) (docs : List FilingDocument) :
    (ofPortal (checkDocuments manifest docs)).Asks BothEasy := by
  refine ofPortal_easy ?_
  induction docs with
  | nil => simp [checkDocuments]
  | cons doc docs ih =>
    refine Asks.bind (by simp) fun saved => .bind (by simp) fun _ => .bind (by simp) fun stored => ?_
    exact .bind (by simp) fun content => .bind (by simp) fun _ => ih

theorem addRecipients_easy (caseId : CaseId) (rows : List SelectedRecipient) :
    (addRecipients cfg userId caseId filingId rows).Asks BothEasy := by
  induction rows with
  | nil => simp [addRecipients]
  | cons row rows ih =>
    unfold addRecipients
    repeat' with_reducible first | refine Asks.bind ?_ fun _ => ?_ | dsimp only
    all_goals first | exact ih | simp

theorem savePacket_easy (packet : ServicePacket) (recipients : List ServiceRecipient) :
    (savePacket packet recipients).Asks BothEasy := by
  induction recipients with
  | nil => exact Asks.bind (by simp) fun _ => by simp
  | cons recipient recipients ih => exact Asks.bind (by simp) fun _ => .bind (by simp) fun _ => ih

theorem replayPacket_easy (packet : ServicePacket) (fields : PacketFields) :
    (replayPacket packet fields).Asks BothEasy := Asks.bind (by simp) fun _ => by simp

theorem insertPacket_finishes (actor : Account) (data : ServicePacketCreate) (key : Uuid) :
    Finishes (portalOrder home) (serviceOrder home) (rank 6 0) (insertPacket cfg userId actor filingId data key) := by
  refine .bind (leads_of_reading (by simp)) fun _ => .bind (leads_of_reading (by simp)) fun _ => ?_
  refine .bind (leads_ofPortal (requireSender_descends actor)) fun r => Descends.finishes
    serviceOrder_extends (rank 1 0) ?_
  refine .bind (.lock rfl (by simp) (by simp) fun _ => clears_contacts) fun contacts => ?_
  refine bothDescends_of_easy ?_ le_rfl
  simp only [left_look]
  repeat' with_reducible first | refine Asks.bind ?_ fun _ => ?_ | split | dsimp only
  all_goals first
    | exact checkSelected_easy _ _ _ _
    | exact checkDocuments_easy _ _
    | exact addRecipients_easy _ _
    | exact savePacket_easy _ _
    | exact (findPacket_reading key).mono fun _ => Reading.easy
    | exact replayPacket_easy _ _
    | simp

theorem sendDocuments_finishes (key : Uuid) (data : ServicePacketCreate) :
    Finishes (portalOrder home) (serviceOrder home) (rank 8 0) (sendDocuments cfg userId filingId key data) := by
  refine .bind (leads_ofPortal (descends_of_easy getCurrentUser_easy le_rfl)) fun _ => ?_
  refine .bind (leads_ofPortal lockUser_descends) fun actorRow => .bind (leads_of_reading (by simp)) fun actor => ?_
  refine .bind (leads_of_reading (findPacket_reading key)) fun existing => ?_
  cases existing with
  | some packet => exact finishes_of_easy (replayPacket_easy _ _)
  | none => exact insertPacket_finishes actor data key

/-! ## One delivery -/

theorem downloadDeliveryDocument_finishes (id : DeliveryId) (documentId : DocumentId) :
    Finishes (portalOrder home) (serviceOrder home) (rank 8 0) (downloadDeliveryDocument userId id documentId) := by
  refine finishes_of_easy ?_
  unfold downloadDeliveryDocument
  simp only [left_look]
  repeat' with_reducible first | refine Asks.bind ?_ fun _ => ?_ | dsimp only
  all_goals first
    | exact ofPortal_easy getCurrentUser_easy
    | exact (viewDelivery_reading _ _).mono fun _ => Reading.easy
    | simp

theorem acknowledgeDelivery_finishes (id : DeliveryId) :
    Finishes (portalOrder home) (serviceOrder home) (rank 8 0) (acknowledgeDelivery userId id) := by
  refine .bind (leads_ofPortal (descends_of_easy getCurrentUser_easy le_rfl)) fun actor => ?_
  refine .bind (leads_of_reading (viewDelivery_reading _ _)) fun r => .bind (leads_of_reading (by simp)) fun staff => ?_
  refine Descends.finishes serviceOrder_extends (rank 0 0) (.bind ((lockNotice_descends _).mono (by simp) le_rfl)
    fun notice => ?_)
  refine bothDescends_of_easy ?_ le_rfl
  repeat' with_reducible first | refine Asks.bind ?_ fun _ => ?_ | refine Asks.ite ?_ ?_ | dsimp only
  all_goals simp

theorem retryDeliveryAlert_finishes (id : DeliveryId) (reason : String) :
    Finishes (portalOrder home) (serviceOrder home) (rank 8 0) (retryDeliveryAlert cfg userId id reason) := by
  refine .bind (leads_ofPortal (descends_of_easy getCurrentUser_easy le_rfl)) fun _ => ?_
  refine .bind (leads_ofPortal lockCurrentUser_descends) fun actor => ?_
  refine .bind (leads_of_reading (viewDelivery_reading _ _)) fun r => .bind (leads_of_reading (by simp)) fun staff => ?_
  refine Descends.finishes serviceOrder_extends (rank 0 0) (.bind ((lockNotice_descends _).mono (by simp) le_rfl)
    fun notice => ?_)
  refine bothDescends_of_easy ?_ le_rfl
  repeat' with_reducible first | refine Asks.bind ?_ fun _ => ?_ | dsimp only
  all_goals simp

theorem recordDeliveryFailure_finishes (id : DeliveryId) (key : Uuid) (data : ServiceFailureReport) :
    Finishes (portalOrder home) (serviceOrder home) (rank 8 0) (recordDeliveryFailure cfg userId id key data) := by
  refine .bind (leads_ofPortal (descends_of_easy getCurrentUser_easy le_rfl)) fun _ => ?_
  refine .bind (leads_ofPortal lockCurrentUser_descends) fun actor => ?_
  refine .bind (leads_of_reading (viewDelivery_reading _ _)) fun r => .bind (leads_of_reading (by simp)) fun staff => ?_
  refine Descends.finishes serviceOrder_extends (rank 0 0) (.bind ((lockNotice_descends _).mono (by simp) le_rfl)
    fun notice => ?_)
  refine bothDescends_of_easy ?_ le_rfl
  simp only [left_look]
  repeat' with_reducible first | refine Asks.bind ?_ fun _ => ?_ | refine Asks.ite ?_ ?_ | split | dsimp only
  all_goals simp

/-! ## Mail -/

theorem claimNextEmail_finishes (id : NoticeId) :
    Finishes (portalOrder home) (serviceOrder home) (rank 8 0) (claimNextEmail cfg id) := by
  refine Descends.finishes serviceOrder_extends (rank 0 0) (.bind (bothDescends_of_easy (by simp) le_rfl) fun time =>
    ?_)
  refine .bind (.lock rfl (by simp) (by simp) fun _ => clears_notice) fun row => bothDescends_of_easy ?_ le_rfl
  simp only [left_look]
  repeat' with_reducible first | refine Asks.bind ?_ fun _ => ?_ | split | dsimp only
  all_goals simp

theorem finishEmail_finishes (id : NoticeId) (attempt : Nat) (result : SendResult) :
    Finishes (portalOrder home) (serviceOrder home) (rank 8 0) (finishEmail id attempt result) := by
  refine Descends.finishes serviceOrder_extends (rank 0 0) (.bind (bothDescends_of_easy (by simp) le_rfl) fun time =>
    ?_)
  refine .bind (.lock rfl (by simp) (by simp) fun _ => clears_notice) fun row => bothDescends_of_easy ?_ le_rfl
  repeat' with_reducible first | split | dsimp only
  all_goals simp

/-! ## All requests -/

/-- The update of `recover_interrupted` locks several notices, in no order. -/
def BothOrdered : ServiceRequest → Prop
  | .portal r => Ordered r
  | .recoverEmails _ => False
  | _ => True

theorem answering_obeys {p : Service α} {answer : α → ServiceResponse}
    (h : Obeys (serviceOrder home).rules.monitor ⟨∅, ∅⟩ p fun _ _ => True) :
    Obeys (serviceOrder home).rules.monitor ⟨∅, ∅⟩ (answering p answer) fun _ _ => True := by
  simp only [answering, obeys_bind, obeys_pure]
  exact h

/-- **Every request keeps the order,** but for the creation of an account and the recovery of mail. -/
theorem serviceProgram_obeys {r : ServiceRequest} (hr : BothOrdered r) :
    Obeys (serviceOrder home).rules.monitor ⟨∅, ∅⟩ (serviceProgram cfg r) fun _ _ => True := by
  cases r with
  | portal r => exact answering_obeys (obeys_left serviceOrder_extends (program_obeys hr))
  | saveServiceInstructions userId caseId participantId data =>
    exact answering_obeys (saveServiceInstructions_finishes caseId participantId data).obeys
  | sendDocuments userId filingId key data => exact answering_obeys (sendDocuments_finishes key data).obeys
  | downloadDeliveryDocument userId id documentId =>
    exact answering_obeys (downloadDeliveryDocument_finishes id documentId).obeys
  | acknowledgeDelivery userId id => exact answering_obeys (acknowledgeDelivery_finishes id).obeys
  | retryDeliveryAlert userId id reason => exact answering_obeys (retryDeliveryAlert_finishes id reason).obeys
  | recordDeliveryFailure userId id key data => exact answering_obeys (recordDeliveryFailure_finishes id key data).obeys
  | claimNextEmail id => exact answering_obeys (claimNextEmail_finishes id).obeys
  | finishEmail id attempt result => exact answering_obeys (finishEmail_finishes id attempt result).obeys
  | recoverEmails => exact hr.elim

/-! ## Sign-ins -/

/-- An account edit, which locks two accounts. -/
def ServiceRequest.editsAccount : ServiceRequest → Bool
  | .portal (.updateAccount _ _ _) | .portal (.changeCourtRole _ _ _ _) => true
  | _ => false

theorem ServiceRequest.mayLock_own {r : ServiceRequest} (hr : BothOrdered r) (hedit : r.editsAccount = false)
    (hactor : r.actor = some userId) (id : UserId) (h : r.mayLock id) : id = userId := by
  have hsame : r.actor = some id → id = userId := fun h => Option.some.inj (h.symm.trans hactor)
  cases r with
  | portal r =>
    cases r with
    | createAccount => exact hr.elim
    | updateAccount | changeCourtRole => cases hedit
    | bootstrap | registerUser | signIn => cases hactor
    | _ => exact hsame h
  | _ => exact hsame h

/-- **Accounts come before all other rows.** -/
theorem BothOrdinary.under {o : Op BothView} (h : BothOrdinary (· = userId) o) :
    Under (serviceTurn home) (.inl (.user userId)) o := by
  have hrank : ∀ m' b', serviceTurn home m' (.inl (.user userId)) = .ranked b' → b' = rank 7 (-userId) := by
    intro m' b' hb'
    cases m' <;> exact (Turn.ranked.inj hb').symm
  intro m g hwants
  have hlower : (∀ b, serviceTurn home m g = .ranked b → b < rank 7 (-userId)) → ∀ m' b b',
      serviceTurn home m g = .ranked b → serviceTurn home m' (.inl (.user userId)) = .ranked b' → b < b' := by
    intro h m' b b' hb hb'
    rw [hrank m' b' hb']
    exact h b hb
  cases o with
  | lock m₁ g₁ | tryLock m₁ g₁ =>
    cases hwants
    rcases g with g | g
    · cases g with
      | user id => exact .inl (by rw [show id = userId from h])
      | _ =>
        refine .inr (hlower fun b hb => ?_)
        cases m <;> simp [serviceTurn, lockTurn, Turn.left] at hb <;> subst hb <;> simp
    · refine .inr (hlower fun b hb => ?_)
      cases g <;> simp [serviceTurn] at hb <;> subst hb <;> simp
  | _ => cases hwants

theorem resolveUser_obeys {claims : Claims} :
    Obeys (serviceOrder home).rules.monitor ⟨∅, ∅⟩ (ofPortal (resolveUser cfg claims)) fun l user =>
      ∃ early, l.Last early ∧ Foremost (serviceTurn home) (.inl (.user user.1)) early := by
  have hleft : Obeys (serviceOrder home).rules.straight ∅ (ofPortal (resolveUser cfg claims)) fun locks user =>
      ∃ early, locks = onLeft ServiceRow early ∧ Foremost (lockTurn home) (.user user.1) early :=
    resolveUser_foremost.onLeft serviceOrder_extends (Set.image_empty _).symm
  refine (hleft.outer ⟨rfl, Set.empty_subset _⟩).mono ?_
  rintro l user ⟨_, hlast, early, rfl, hearly⟩
  exact ⟨_, hlast, serviceOrder_extends.foremost hearly⟩

/-! ## Lists of case types -/

theorem KeepsLists.left {o : Op View} (h : KeepsLists o) : BothKeepsLists (o.left ServiceView) := by
  have hx : (serviceOrder fun _ => 0).Extends (portalOrder fun _ => 0) := serviceOrder_extends
  exact hx.changes o h

theorem recoverEmails_keepsLists (ids : List NoticeId) : (recoverEmails ids).Asks BothKeepsLists := by
  have hrows : ∀ time, (recoverRows time ids).Asks BothKeepsLists := by
    intro time
    induction ids with
    | nil => simp [recoverRows]
    | cons id ids ih =>
      refine Asks.bind (asks_lock.2 trivial) fun row => ?_
      cases row with
      | none => exact ih
      | some notice => exact Asks.bind (asks_write.2 trivial) fun _ => ih
  exact Asks.bind (asks_now.2 trivial) hrows

theorem not_bothOrdered {r : ServiceRequest} (hr : ¬ BothOrdered r) :
    (∃ actorId data, r = .portal (.createAccount actorId data)) ∨ ∃ ids, r = .recoverEmails ids := by
  cases r with
  | portal r =>
    cases r with
    | createAccount actorId data => exact .inl ⟨actorId, data, rfl⟩
    | _ => exact absurd trivial hr
  | recoverEmails ids => exact .inr ⟨ids, rfl⟩
  | _ => exact absurd trivial hr

theorem answering_keepsLists {p : Service α} {answer : α → ServiceResponse} (h : p.Asks BothKeepsLists) :
    (answering p answer).Asks BothKeepsLists := h.bind fun _ => asks_pure

theorem serviceProgram_keepsLists {r : ServiceRequest} {tr : BothTrace} {q : Service ServiceResponse}
    (hq : (serviceProgram cfg r).After tr q) (hreads : ∀ e ∈ tr, e.Reads (BothAtHome home)) {courtId : CourtId}
    {f : List CaseTypeId → List CaseTypeId} : ⟨.write (.inl (.courtCaseTypes courtId)) f, ()⟩ ∉ tr := by
  intro hf
  by_cases hr : BothOrdered r
  · have hobeys : Obeys (serviceOrder home).rules.monitor ⟨∅, ∅⟩ (serviceProgram cfg r) fun _ _ => True :=
      serviceProgram_obeys hr
    exact hobeys.changed hq hreads hf
  · rcases not_bothOrdered hr with ⟨actorId, data, rfl⟩ | ⟨ids, rfl⟩
    · have hsaved : (thenSaved (createAccount cfg actorId data)).Asks KeepsLists :=
        (createAccount_keepsLists data).bind fun _ => asks_pure
      exact (answering_keepsLists (hsaved.left fun _ => KeepsLists.left)).after hq _ hf
    · exact (answering_keepsLists (recoverEmails_keepsLists ids)).after hq _ hf

end Muefs
