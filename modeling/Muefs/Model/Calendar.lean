import Muefs.Model.Values

/-!
# Court calendars and the filing date they give

* `CourtCalendar` : a published calendar; a court's calendars stand newest first;
* `assessDate` : the first open day from the local date of receipt on, unless the calendar ends;
* `filingDateForReceipt` : `assessDate` on the calendars near the receipt only;
* `filingDateForReceipt_eq` : leaving the others out changes nothing.
-/

namespace Muefs

structure CourtCalendar where
  id : CalendarId
  timezone : String
  validFrom : Date
  validThrough : Date
  closedDates : List (Date × String)
  authorityReference : String
  deriving DecidableEq, Repr

/-- `c.valid_from <= day <= c.valid_through` -/
def CourtCalendar.covers (c : CourtCalendar) (day : Date) : Bool := c.validFrom ≤ day && day ≤ c.validThrough

structure FilingDateAssessment where
  filingDate : Option Date := none
  timezone : Option String := none
  localReceivedDate : Option Date := none
  calendarIds : List CalendarId := []
  skippedDates : List (Date × String) := []
  error : Option String := none
  deriving DecidableEq, Repr

/-- The days that the loop of `assess_date` still looks at. -/
def assessFrom (calendars : List CourtCalendar) (timezone : String) :
    Nat → Date → FilingDateAssessment → Except Failure FilingDateAssessment
  | 0, _, result => .ok { result with error := some "No business day found within a year; court review is required" }
  | days + 1, day, result =>
    match calendars.find? (·.covers day) with
    | none => .ok { result with
        error := some "Calendar coverage or timezone is unresolved before the next business day" }
    | some calendar =>
      if calendar.timezone ≠ timezone then
        .ok { result with error := some "Calendar coverage or timezone is unresolved before the next business day" }
      else
        let result := if calendar.id ∈ result.calendarIds then result
          else { result with calendarIds := result.calendarIds ++ [calendar.id] }
        let reason := calendar.closedDates.lookup day
        if reason = none ∧ day.weekday < 5 then .ok { result with filingDate := some day }
        else
          -- an empty reason counts as none: `reason or "Weekend"`
          let said := match reason with
            | some text => if text = "" then "Weekend" else text
            | none => "Weekend"
          match day.addDays 1 with
          | .error x => .error x
          | .ok next => assessFrom calendars timezone days next
              { result with skippedDates := result.skippedDates ++ [(day, said)] }

/-- The first calendar that covers the date of receipt in its time zone, with that date. -/
def initialCalendar (cfg : Settings) (receivedAt : Instant) : List CourtCalendar → Except Failure (Option CourtCalendar)
  | [] => .ok none
  | c :: calendars =>
    match cfg.dateIn c.timezone receivedAt with
    | .error x => .error x
    | .ok day => if c.covers day = true then .ok (some c) else initialCalendar cfg receivedAt calendars

/-- `assess_date` -/
def assessDate (cfg : Settings) (calendars : List CourtCalendar) (receivedAt : Instant) :
    Except Failure FilingDateAssessment :=
  match initialCalendar cfg receivedAt calendars with
  | .error x => .error x
  | .ok none => .ok { error := some "No published court calendar covers the received date" }
  | .ok (some initial) =>
    let day := cfg.localDate initial.timezone receivedAt
    assessFrom calendars initial.timezone 367 day { timezone := some initial.timezone, localReceivedDate := some day }

/-- The query of `filing_date_for_receipt`, between two dates. -/
def CourtCalendar.overlaps (first last : Date) (c : CourtCalendar) : Bool := first ≤ c.validThrough &&
    c.validFrom ≤ last

/-- The dates of that query. -/
def receiptWindow (receivedAt : Instant) : Except Failure (Date × Date) := do
  let first ← receivedAt.utcDate.addDays (-1)
  let last ← receivedAt.utcDate.addDays 367
  return (first, last)

/-- `filing_date_for_receipt`, on the calendars of the court -/
def filingDateForReceipt (cfg : Settings) (calendars : List CourtCalendar) (receivedAt : Instant) :
    Except Failure FilingDateAssessment :=
  match receiptWindow receivedAt with
  | .error x => .error x
  | .ok (first, last) => assessDate cfg (calendars.filter (·.overlaps first last)) receivedAt

/-! ## The end of the calendar -/

theorem Date.addDays_eq_ok {d e : Date} {days : Int} :
    d.addDays days = .ok e ↔ Date.exists (d + days) ∧ e = d + days := by
  unfold addDays
  split_ifs with h
  · simp [h, eq_comm]
  · simp [h]

theorem Settings.dateIn_eq_ok {cfg : Settings} {tz : String} {t : Instant} {d : Date} :
    cfg.dateIn tz t = .ok d ↔ (t.utcDate.exists ∧ (cfg.localDate tz t).exists) ∧ d = cfg.localDate tz t := by
  unfold dateIn
  split_ifs with h
  · simp [h, eq_comm]
  · simp [h]

theorem receiptWindow_eq_ok {receivedAt : Instant} {first last : Date} :
    receiptWindow receivedAt = .ok (first, last) ↔
      (Date.exists (receivedAt.utcDate - 1) ∧ Date.exists (receivedAt.utcDate + 367)) ∧
        first = receivedAt.utcDate - 1 ∧ last = receivedAt.utcDate + 367 := by
  unfold receiptWindow Date.addDays
  rw [← sub_eq_add_neg]
  split_ifs with h₁ h₂
  · simp [bind, Except.bind, pure, Except.pure, h₁, h₂, eq_comm]
  · simp [bind, Except.bind, h₁, h₂]
  · simp [bind, Except.bind, h₁]
  · simp [bind, Except.bind, h₁]

theorem initialCalendar_cons {cfg : Settings} {t : Instant} {c : CourtCalendar} (calendars : List CourtCalendar)
    (hdate : cfg.dateIn c.timezone t = .ok (cfg.localDate c.timezone t)) :
    initialCalendar cfg t (c :: calendars) =
      if c.covers (cfg.localDate c.timezone t) = true then .ok (some c) else initialCalendar cfg t calendars := by
  rw [initialCalendar, hdate]

theorem initialCalendar_eq_ok {cfg : Settings} {t : Instant} {calendars : List CourtCalendar}
    {initial : Option CourtCalendar} (h : initialCalendar cfg t calendars = .ok initial) :
    calendars.find? (fun c => c.covers (cfg.localDate c.timezone t)) = initial := by
  induction calendars with
  | nil => exact Except.ok.inj h
  | cons c calendars ih =>
    cases hdate : cfg.dateIn c.timezone t with
    | error x =>
      rw [initialCalendar, hdate] at h
      cases h
    | ok day =>
      obtain ⟨_, rfl⟩ := Settings.dateIn_eq_ok.1 hdate
      rw [initialCalendar_cons calendars hdate] at h
      split_ifs at h with hcovers
      · simpa [hcovers] using h
      · simpa [hcovers] using ih h

theorem initialCalendar_of_dates {cfg : Settings} {t : Instant} {calendars : List CourtCalendar}
    (h : ∀ c ∈ calendars, t.utcDate.exists ∧ (cfg.localDate c.timezone t).exists) :
    initialCalendar cfg t calendars = .ok (calendars.find? fun c => c.covers (cfg.localDate c.timezone t)) := by
  induction calendars with
  | nil => rfl
  | cons c calendars ih =>
    rw [initialCalendar_cons calendars (Settings.dateIn_eq_ok.2 ⟨h c List.mem_cons_self, rfl⟩),
      ih fun c' hc' => h c' (List.mem_cons_of_mem _ hc')]
    split_ifs with hcovers <;> simp [hcovers]

/-! ## The query leaves nothing out -/

theorem find?_filter_of_imp {α : Type} {p q : α → Bool} (l : List α) (h : ∀ a, p a = true → q a = true) :
    (l.filter q).find? p = l.find? p := by
  rw [List.find?_filter]
  congr 1
  funext a
  cases hp : p a with
  | false => simp
  | true => simp [h a hp]

theorem CourtCalendar.overlaps_of_covers {first last day : Date} {c : CourtCalendar} (hc : c.covers day = true)
    (hlo : first ≤ day) (hhi : day ≤ last) : c.overlaps first last = true := by
  simp only [CourtCalendar.covers, CourtCalendar.overlaps, Bool.and_eq_true, decide_eq_true_eq] at *
  dsimp only [Date] at *
  omega

theorem assessFrom_filter (calendars : List CourtCalendar) (timezone : String) {first last : Date} (n : Nat)
    (day : Date) (result : FilingDateAssessment) (hlo : first ≤ day) (hhi : day + n ≤ last + 1) :
    assessFrom (calendars.filter (·.overlaps first last)) timezone n day result =
      assessFrom calendars timezone n day result := by
  induction n generalizing day result with
  | zero => rfl
  | succ n ih =>
    push_cast at hhi
    have hfind : (calendars.filter (·.overlaps first last)).find? (·.covers day) = calendars.find? (·.covers day) := by
      refine find?_filter_of_imp _ fun c hc => CourtCalendar.overlaps_of_covers hc hlo ?_
      dsimp only [Date] at *
      omega
    cases hnext : day.addDays 1 with
    | error x => simp only [assessFrom, hfind, hnext]
    | ok next =>
      obtain ⟨_, rfl⟩ := Date.addDays_eq_ok.1 hnext
      have hrest : ∀ r, assessFrom (calendars.filter (·.overlaps first last)) timezone n (day + 1) r =
          assessFrom calendars timezone n (day + 1) r := by
        refine fun r => ih (day + 1) r ?_ ?_ <;> dsimp only [Date] at * <;> omega
      simp only [assessFrom, hfind, hnext, hrest]

/-- **The calendars that the query leaves out could not have changed the date.** -/
theorem filingDateForReceipt_eq {cfg : Settings} {receivedAt : Instant} {window : Date × Date}
    (calendars : List CourtCalendar) (hwindow : receiptWindow receivedAt = .ok window) :
    filingDateForReceipt cfg calendars receivedAt = assessDate cfg calendars receivedAt := by
  obtain ⟨first, last⟩ := window
  obtain ⟨⟨hfirst, hlast⟩, rfl, rfl⟩ := receiptWindow_eq_ok.1 hwindow
  have hdates : ∀ c : CourtCalendar, receivedAt.utcDate.exists ∧ (cfg.localDate c.timezone receivedAt).exists := by
    intro c
    have hnear := cfg.localDate_near c.timezone receivedAt
    unfold Date.exists at *
    dsimp only [Date] at *
    omega
  have hfind : (calendars.filter (·.overlaps (receivedAt.utcDate - 1) (receivedAt.utcDate + 367))).find?
      (fun c => c.covers (cfg.localDate c.timezone receivedAt)) =
      calendars.find? fun c => c.covers (cfg.localDate c.timezone receivedAt) := by
    refine find?_filter_of_imp _ fun c hc => ?_
    have hnear := cfg.localDate_near c.timezone receivedAt
    refine CourtCalendar.overlaps_of_covers hc hnear.1 ?_
    dsimp only [Date] at *
    omega
  unfold filingDateForReceipt assessDate
  rw [hwindow]
  dsimp only
  rw [initialCalendar_of_dates fun c _ => hdates c, initialCalendar_of_dates fun c _ => hdates c, hfind]
  cases calendars.find? fun c => c.covers (cfg.localDate c.timezone receivedAt) with
  | none => rfl
  | some initial =>
    have hnear := cfg.localDate_near initial.timezone receivedAt
    refine assessFrom_filter calendars initial.timezone 367 _ _ hnear.1 ?_
    dsimp only [Date] at *
    omega

theorem filingDateForReceipt_ok {cfg : Settings} {calendars : List CourtCalendar} {receivedAt : Instant}
    {result : FilingDateAssessment} (h : filingDateForReceipt cfg calendars receivedAt = .ok result) :
    assessDate cfg calendars receivedAt = .ok result := by
  cases hwindow : receiptWindow receivedAt with
  | error x =>
    rw [filingDateForReceipt, hwindow] at h
    cases h
  | ok window => rw [← filingDateForReceipt_eq calendars hwindow, h]

end Muefs
