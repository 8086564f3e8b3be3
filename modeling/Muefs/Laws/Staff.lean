import Muefs.Steps.Persistence

/-!
# Staff transactions

* `EventType.isStaff` : the events that only a court's staff records;
* `FilingTransaction.authorized` : the role that the operation behind a transaction requires;
* `FileStep.charged` : a step records such an event for an account that holds the role, and not for the filer;
* `Run.staffed` : the law.
-/

namespace Muefs
open RowLocks

/-! ## Events of the staff -/

def EventType.isStaff (event : EventType) : Bool :=
  event == .accepted || event == .rejected || event == .returned || event == .cmsFailed
    || event == .filingDateAssessed || event == .filingDateOrdered || event == .waiverGranted || event == .waiverDenied
    || event == .waiverReferred || event == .feeAssessed || event == .feePaymentRecorded || event == .feePaymentReversed
    || event == .publicCopyPublished || event == .documentWithheld

/-- The role that the operation requires: an administrator of the court for external payments, a judge for a judicial
waiver decision, a clerk for a clerk's grant or a referral, and any member of the staff for the rest. -/
def FilingTransaction.authorized (t : FilingTransaction) (account : Account) (court : CourtId) : Bool :=
  match t.eventType, t.details.waiverBasis with
  | .feePaymentRecorded, _ | .feePaymentReversed, _ => account.isCourtAdministrator court
  | .waiverDenied, _ | .waiverGranted, some .grantJudicial => account.hasRole court .judge
  | .waiverGranted, _ | .waiverReferred, _ => account.hasRole court .clerk
  | _, _ => account.isCourtStaff court

def EventType.isOrdinary : EventType → Bool
  | .feePaymentRecorded | .feePaymentReversed | .waiverDenied | .waiverGranted | .waiverReferred => false
  | _ => true

def WaiverAction.role : WaiverAction → CourtRole
  | .grantJudicial | .denyJudicial => .judge
  | .grantPublicAssistance | .grantLegalServices | .refer => .clerk

theorem hasRole_of_mem_waiverActions {filing : FilingEnvelope} {userId : UserId} {account : Account}
    {action : WaiverAction} (h : action ∈ waiverActions filing userId account) :
    account.hasRole filing.courtId action.role = true := by
  unfold waiverActions at h
  split at h
  · rcases List.mem_append.1 h with h | h
    · split at h
      · rename_i hjudge
        rcases List.mem_cons.1 h with rfl | h
        · exact hjudge
        · cases List.mem_singleton.1 h
          exact hjudge
      · cases h
    · split at h
      · rename_i hclerk
        have hrole : action.role = .clerk := by
          revert h
          cases action <;> simp [WaiverAction.role]
        rw [hrole]
        exact (Bool.and_eq_true_iff.1 hclerk).1
      · cases h
  · cases h

theorem FilingTransaction.authorized_waiver {t : FilingTransaction} {action : WaiverAction}
    (hevent : t.eventType = action.event) (hbasis : t.details.waiverBasis = some action) (account : Account)
    (court : CourtId) : t.authorized account court = account.hasRole court action.role := by
  unfold authorized
  rw [hevent, hbasis]
  cases action <;> rfl

/-! ## One step -/

variable {cfg : Settings} {r : Request} {db db' : Store} {tr : Trace} {f : FilingId} {file file' : FilingFile}

/-- The actor of a transaction is not the filer, and has an active account with the role it requires. -/
def Charged (db : Store) (file : FilingFile) (t : FilingTransaction) : Prop :=
  t.actorId ≠ file.filing.filerId ∧
    ∃ account, Active db t.actorId account ∧ t.authorized account file.filing.courtId = true

theorem Staff.charged {userId : UserId} {may : Account → CourtId → Bool} (h : Staff db userId may file)
    {t : FilingTransaction} (hactor : t.actorId = userId)
    (hmay : ∀ account, may account file.filing.courtId = true → t.authorized account file.filing.courtId = true) :
    Charged db file t := by
  obtain ⟨account, hactive, hrole⟩ := h.account
  rw [Charged, hactor]
  exact ⟨h.other.symm, account, hactive, hmay account hrole⟩

theorem Staff.charged_any {userId : UserId} (h : Staff db userId Account.isCourtStaff file) {t : FilingTransaction}
    {event : EventType} (hevent : t.eventType = event) (hactor : t.actorId = userId)
    (hany : event.isOrdinary = true) : Charged db file t := by
  refine h.charged hactor fun account hstaff => ?_
  subst hevent
  unfold FilingTransaction.authorized
  cases hevent : t.eventType <;> simp_all [EventType.isOrdinary]

theorem WaiverOpen.charged {userId : UserId} {action : WaiverAction} {expected : Nat}
    (h : WaiverOpen db file userId action expected) {t : FilingTransaction} (hactor : t.actorId = userId)
    (hevent : t.eventType = action.event) (hbasis : t.details.waiverBasis = some action) : Charged db file t := by
  obtain ⟨account, hactive, hmem⟩ := h.account
  rw [Charged, hactor]
  refine ⟨h.staff.other.symm, account, hactive, ?_⟩
  rw [FilingTransaction.authorized_waiver hevent hbasis]
  exact hasRole_of_mem_waiverActions hmem

/-- The filing that a reviewer was checked against, by an unlocked read or under the lock. -/
def ChargedFor (db : Store) (tr : Trace) (f : FilingId) (file : FilingFile) (t : FilingTransaction) : Prop :=
  ∃ seen, (seen = file ∨ Seen tr f seen) ∧ Charged db seen t

theorem Charged.now {t : FilingTransaction} (h : Charged db file t) : ChargedFor db tr f file t :=
  ⟨file, .inl rfl, h⟩

theorem InReview.charged {userId : UserId} {count : Nat} (h : InReview db tr f file userId count)
    {t : FilingTransaction} {event : EventType} (hevent : t.eventType = event) (hactor : t.actorId = userId)
    (hany : event.isOrdinary = true) : ChargedFor db tr f file t := by
  obtain ⟨seen, hseen, hstaff⟩ := h.staff
  exact ⟨seen, .inr hseen, hstaff.charged_any hevent hactor hany⟩

theorem Dated.charged {userId : UserId} {receivedAt : Instant} {ordered : Bool} {base dated : FilingFile} {count : Nat}
    (h : Dated cfg tr userId receivedAt base ordered dated) (hbase : base.transactions = file.transactions)
    (hin : InReview db tr f file userId count) :
    ∀ u ∈ dated.transactions, u ∈ file.transactions ∨ ChargedFor db tr f file u := by
  rw [← hbase]
  exact h.new fun u hevent hactor _ => hin.charged hevent hactor rfl

/-- **Whoever records an event of the staff has the role for it, and is not the filer.** -/
theorem FileStep.charged (h : FileStep cfg r db db' tr f file file') :
    ∀ u ∈ file'.transactions, u ∈ file.transactions ∨ (u.eventType.isStaff = true → ChargedFor db tr f file u) := by
  cases h with
  | edited | uploaded | retired | erased | copyPrepared => exact fun u hu => .inl hu
  | feeReviewRequested userId data time t _ hr h hrec => exact hrec.unlike rfl rfl
  | paid userId data caseType payment snapshot t _ hr hf h hrec => exact hrec.unlike rfl rfl
  | submitted userId key token seen caseType time date basis t _ hr h hdate hrec =>
    refine hrec.unlike rfl ?_
    unfold FilingEnvelope.receiptEvent
    split <;> rfl
  | feesAssessed userId data a time t saved hr h hrec =>
    exact hrec.new fun _ => (h.staff.charged_any hrec.event_eq hrec.actor_eq rfl).now
  | waiverReferred userId form time t _ hr haction h hrec =>
    obtain ⟨why, hdetails⟩ := hrec.kept rfl (by decide)
    exact hrec.new fun _ => (h.charged hrec.actor_eq hrec.event_eq (by rw [hdetails])).now
  | waiverDecided userId form time doc due t _ hr haction h hrec =>
    obtain ⟨why, hdetails⟩ := hrec.kept (by cases form.action <;> rfl) (by cases form.action <;> decide)
    exact hrec.new fun _ => (h.toWaiverOpen.charged hrec.actor_eq hrec.event_eq (by rw [hdetails])).now
  | credited userId key data account caseType basis id snapshot t _ hr h hid hamount hrec =>
    refine hrec.new fun _ => (h.staff.charged hrec.actor_eq fun account hmay => ?_).now
    rw [FilingTransaction.authorized, hrec.event_eq]
    exact hmay
  | reversed userId paymentId data payment snapshot t _ hr h hid hamount hrec =>
    refine hrec.new fun _ => (h.staff.charged hrec.actor_eq fun account hmay => ?_).now
    rw [FilingTransaction.authorized, hrec.event_eq]
    exact hmay
  | accepted userId count time receivedAt seen order dated caseId a b t _ hr h hacc hreceived hdated hcase hrec =>
    have hold : ∀ u ∈ dated.transactions, u ∈ file.transactions ∨ ChargedFor db tr f file u := hdated.charged rfl h
    intro u hu
    rcases hrec.new (h.charged hrec.event_eq hrec.actor_eq rfl) u hu with hu | hcharged
    · exact (hold u hu).imp_right fun hcharged _ => hcharged
    · exact .inr fun _ => hcharged
  | cmsFailed userId count time receivedAt seen order dated error t _ hr h hacc hreceived hdated hrec =>
    have hold : ∀ u ∈ dated.transactions, u ∈ file.transactions ∨ ChargedFor db tr f file u := hdated.charged rfl h
    intro u hu
    rcases hrec.new (h.charged hrec.event_eq hrec.actor_eq rfl) u hu with hu | hcharged
    · exact (hold u hu).imp_right fun hcharged _ => hcharged
    · exact .inr fun _ => hcharged
  | declined userId count action time status event reason t _ hr h haction hrec =>
    refine hrec.new fun _ => h.charged hrec.event_eq hrec.actor_eq ?_
    obtain ⟨_, _, rfl⟩ | ⟨_, _, rfl⟩ := haction <;> rfl
  | dateOrdered userId form doc change t _ hr h hrec =>
    exact hrec.new fun _ => (h.staff.charged_any hrec.event_eq hrec.actor_eq rfl).now
  | published userId documentId data doc copy g probe rows t _ hr h hblock hindexed hprobe hrows hcopy hdoc hrec =>
    exact hrec.new fun _ => (h.staff.charged_any hrec.event_eq hrec.actor_eq rfl).now
  | withheld userId documentId data doc t _ hr h hrec =>
    exact hrec.new fun _ => (h.staff.charged_any hrec.event_eq hrec.actor_eq rfl).now

/-! ## Every run -/

variable {w₀ w : PortalWorld}

/-- **Every event of the staff was recorded by an account other than the filer's that, when it was committed, was active
and held the role that the operation requires in the filing's court.** -/
theorem Run.staffed (h : Run cfg w₀ w) (hfile : w.db (.envelope f) = some file) {t : FilingTransaction}
    (ht : t ∈ file.transactions) (hevent : t.eventType.isStaff = true) :
    t.actorId ≠ file.filing.filerId ∧ ∃ w₁ sid s a file₁ file₂, RecordedAt cfg w₀ w f t w₁ sid s a file₁ file₂ ∧
      ∃ account, Active w₁.db t.actorId account ∧ t.authorized account file.filing.courtId = true := by
  obtain ⟨w₁, sid, s, a, file₁, file₂, hat⟩ := h.recorded_at hfile ht
  obtain ⟨seen, hseen, hother, account, hactive, hrole⟩ :=
    (hat.step.charged t hat.mem).resolve_left hat.absent hevent
  have hfixed : seen.filing.Fixed file.filing := by
    have hlater : file₁.filing.Fixed file.filing :=
      hat.step.grows.fixed.trans (hat.run_after.grew_to hat.later hat.after hfile).fixed
    rcases hseen with rfl | hseen
    · exact hlater
    · exact (hat.run.seen_grew hat.commits.found hseen hat.before).fixed.trans hlater
  refine ⟨?_, w₁, sid, s, a, file₁, file₂, hat, account, hactive, ?_⟩
  · rw [hfixed.filerId]
    exact hother
  · rw [hfixed.courtId]
    exact hrole

/-- The clerk who accepted the filing of the small portal. -/
theorem Run.staffed_accepted : ∃ file t, acceptedWorld.db (.envelope 10) = some file ∧ t ∈ file.transactions ∧
    t.eventType = .accepted ∧ t.actorId ≠ file.filing.filerId ∧
    ∃ w₁ sid s a file₁ file₂, RecordedAt .demo smallWorld acceptedWorld 10 t w₁ sid s a file₁ file₂ ∧
      ∃ account, Active w₁.db t.actorId account ∧ t.authorized account file.filing.courtId = true := by
  have hfile : (acceptedWorld.db (.envelope 10)).any (fun file =>
      file.transactions.any fun t => t.eventType == .accepted) = true := by
    decide +kernel
  obtain ⟨file, hfile, hany⟩ := (Option.any_eq_true _ _).1 hfile
  obtain ⟨t, ht, hevent⟩ := List.any_eq_true.1 hany
  have hevent : t.eventType = .accepted := by simpa using hevent
  exact ⟨file, t, hfile, ht, hevent, Run.staffed acceptedWorld_run hfile ht (by rw [hevent]; rfl)⟩

end Muefs
