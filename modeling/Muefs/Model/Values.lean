import Mathlib.Algebra.Order.Ring.Int
import Mathlib.Tactic.Common
import Mathlib.Data.List.Infix

/-!
# Values

* record numbers, `Instant` (microseconds, UTC) and `Date` (days since 1970-01-01) with `Date.weekday`, `Date.year`;
* `Date.min`, `Date.max`, `Date.addDays` : the first and the last date there is, and counting days between them;
* `Digest α` : a SHA-256 value, as the value that was hashed or as hex digits nobody here computed;
* `Failure` : the exceptions a request can end with;
* `Settings` : the deployment's switches, and the library functions the code calls on texts and time zones.
-/

namespace Muefs

abbrev UserId := Nat
abbrev CourtId := Nat
abbrev CaseTypeId := Nat
abbrev CaseId := Nat
abbrev FilingId := Nat
abbrev DocumentId := Nat
abbrev CopyId := Nat
abbrev PaymentId := Nat
abbrev TransactionId := Nat
abbrev NoticeId := Nat
abbrev CalendarId := Nat
abbrev ParticipantId := Nat
abbrev ContactId := Nat
abbrev PacketId := Nat
abbrev DeliveryId := Nat

abbrev Uuid := Nat

abbrev Cents := Nat

abbrev Content := List UInt8

/-! ## Time -/

/-- Microseconds since 1970-01-01 00:00 UTC. -/
abbrev Instant := Int

abbrev Date := Int

def microsPerDay : Int := 86400000000

/-- `datetime.astimezone(UTC).date()` -/
def Instant.utcDate (t : Instant) : Date := t / microsPerDay

/-- `date.min`, the first of January of the year 1. -/
def Date.min : Date := -719162

/-- `date.max`, the last of December of the year 9999. -/
def Date.max : Date := 2932896

/-- There is such a date. -/
def Date.exists (d : Date) : Prop := Date.min ≤ d ∧ d ≤ Date.max

instance Date.decidableExists (d : Date) : Decidable d.exists := inferInstanceAs (Decidable (_ ∧ _))

/-- `date.weekday()`, Monday is 0. -/
def Date.weekday (d : Date) : Int := (d + 3) % 7

/-- `date.year`, from the day number in 400-year cycles that begin on 1 March. -/
def Date.year (d : Date) : Int :=
  let z := d + 719468
  let era := z / 146097
  let doe := z - era * 146097
  let yoe := (doe - doe / 1460 + doe / 36524 - doe / 146096) / 365
  let doy := doe - (365 * yoe + yoe / 4 - yoe / 100)
  yoe + era * 400 + if doy < 306 then 0 else 1

example : Date.year 0 = 1970 ∧ Date.year 364 = 1970 ∧ Date.year 365 = 1971 ∧ Date.year (-1) = 1969 := by decide

example : Date.year 19782 = 2024 ∧ Date.year 20088 = 2024 ∧ Date.year 20089 = 2025 := by decide

example : Date.year Date.min = 1 ∧ Date.year (Date.min - 1) = 0 ∧ Date.year Date.max = 9999 := by decide

/-! ## Hashes -/

/-- A SHA-256 value: of a value hashed by the program, or hex digits that are none of these. -/
inductive Digest (α : Type) where
  | of (a : α)
  | other (hex : String)
  deriving DecidableEq, Repr

theorem Digest.of_inj {α : Type} {a b : α} : Digest.of a = Digest.of b ↔ a = b := by simp

/-! ## Exceptions -/

/-- How a request fails. The first is what the client sees; the others are raised inside and turned into it. -/
inductive Failure where
  | http (status : Nat) (detail : String)
  | destination (status : Nat) (detail : String)
  | dateUnavailable (detail : String)
  | document (detail : String)
  | staleReview (detail : String)
  | submission (status : Nat) (detail : String)
  | update (status : Nat) (detail : String)
  | paymentsNotConfigured (detail : String)
  | integrity (constraint : String)
  | value (detail : String)
  | overflow (detail : String)
  deriving DecidableEq, Repr

/-- `date + timedelta(days)` -/
def Date.addDays (d : Date) (days : Int) : Except Failure Date :=
  if Date.exists (d + days) then .ok (d + days) else .error (.overflow "date value out of range")

/-! ## Settings -/

/-- The deployment's settings, with the time zone database and the text functions of the standard library. -/
structure Settings where
  allowDemoMode : Bool
  paymentsAreSimulated : Bool
  externalPaymentsEnabled : Bool
  emailDeliveryEnabled : Bool
  serviceDeliveryEnabled : Bool
  allowPublicRegistration : Bool
  provisionUserOnFirstOidcLogin : Bool
  demoIsolatedSessions : Bool
  maxFileSizeMb : Nat
  smtpFrom : String
  portalBaseUrl : String
  /-- What `validate_email_config` raises, if anything. -/
  emailConfigError : Option String
  /-- `ZoneInfo(tz).utcoffset`, in microseconds. -/
  utcOffset : String → Instant → Int
  /-- Offsets are less than a day, as the standard library demands. -/
  utcOffset_lt : ∀ tz t, -microsPerDay < utcOffset tz t ∧ utcOffset tz t < microsPerDay
  /-- `str.casefold` -/
  casefold : String → String
  /-- `str.lower` and `str.upper` -/
  lower : String → String
  upper : String → String
  /-- `lower(...)` of the database, which may leave letters beyond ASCII as they are -/
  lowerSql : String → String
  /-- What is in lower case stays as it is. -/
  lower_lower : ∀ text, lower (lower text) = lower text
  lowerSql_lower : ∀ text, lowerSql (lower text) = lower text
  /-- `validate_email(...).normalized` -/
  validateEmail : String → Option String

theorem toLower_toNat {c : Char} (h : c.val ≥ 'A'.val ∧ c.val ≤ 'Z'.val) :
    c.toLower.val.toNat = c.val.toNat + 32 ∧ 65 ≤ c.val.toNat ∧ c.val.toNat ≤ 90 := by
  have hlow : c.toLower.val = c.val + 32 := (congrArg Char.val (show c.toLower = _ from dif_pos h)).trans rfl
  rw [hlow]
  simp only [UInt32.le_iff_toNat_le, ge_iff_le, UInt32.toNat_add] at h ⊢
  have h1 : 'A'.val.toNat = 65 := rfl
  have h2 : 'Z'.val.toNat = 90 := rfl
  have h3 : (32 : UInt32).toNat = 32 := rfl
  omega

theorem toLower_toLower (c : Char) : c.toLower.toLower = c.toLower := by
  by_cases h : c.val ≥ 'A'.val ∧ c.val ≤ 'Z'.val
  · have hnot : ¬ (c.toLower.val ≥ 'A'.val ∧ c.toLower.val ≤ 'Z'.val) := by
      have hval := toLower_toNat h
      simp only [UInt32.le_iff_toNat_le, ge_iff_le]
      have h2 : 'Z'.val.toNat = 90 := rfl
      omega
    exact dif_neg hnot
  · have hsame : c.toLower = c := dif_neg h
    rw [hsame, hsame]

/-- Lower case for texts in ASCII. -/
def lowerAscii (text : String) : String := String.ofList (text.toList.map Char.toLower)

theorem lowerAscii_lowerAscii (text : String) : lowerAscii (lowerAscii text) = lowerAscii text := by
  unfold lowerAscii
  rw [String.toList_ofList, List.map_map]
  exact congrArg String.ofList (List.map_congr_left fun c _ => toLower_toLower c)

/-- The settings of `.env.example`, for a court in UTC and texts in ASCII. -/
def Settings.demo : Settings where
  allowDemoMode := true
  paymentsAreSimulated := true
  externalPaymentsEnabled := false
  emailDeliveryEnabled := false
  serviceDeliveryEnabled := false
  allowPublicRegistration := false
  provisionUserOnFirstOidcLogin := true
  demoIsolatedSessions := false
  maxFileSizeMb := 100
  smtpFrom := ""
  portalBaseUrl := ""
  emailConfigError := none
  utcOffset _ _ := 0
  utcOffset_lt _ _ := by decide
  casefold := lowerAscii
  lower := lowerAscii
  upper text := String.ofList (text.toList.map Char.toUpper)
  lowerSql := lowerAscii
  lower_lower := lowerAscii_lowerAscii
  lowerSql_lower := lowerAscii_lowerAscii
  validateEmail text := some text

/-- The date in a time zone. -/
def Settings.localDate (cfg : Settings) (tz : String) (t : Instant) : Date := (t + cfg.utcOffset tz t) / microsPerDay

/-- `datetime.astimezone(ZoneInfo(tz)).date()` of a time in UTC -/
def Settings.dateIn (cfg : Settings) (tz : String) (t : Instant) : Except Failure Date :=
  if t.utcDate.exists ∧ (cfg.localDate tz t).exists then .ok (cfg.localDate tz t)
  else .error (.overflow "date value out of range")

theorem Settings.localDate_near (cfg : Settings) (tz : String) (t : Instant) :
    t.utcDate - 1 ≤ cfg.localDate tz t ∧ cfg.localDate tz t ≤ t.utcDate + 1 := by
  have h := cfg.utcOffset_lt tz t
  have key : ∀ a b c : Int, -86400000000 < b ∧ b < 86400000000 → c = a + b →
      a / 86400000000 - 1 ≤ c / 86400000000 ∧ c / 86400000000 ≤ a / 86400000000 + 1 := by
    omega
  exact key t _ _ h rfl

/-! ## Texts -/

/-- `str.isspace` of a single character -/
def isSpace (c : Char) : Bool :=
  let n := c.toNat
  (9 ≤ n && n ≤ 13) || (28 ≤ n && n ≤ 32) || n == 0x85 || n == 0xA0 || n == 0x1680 || (0x2000 ≤ n && n ≤ 0x200A) ||
    n == 0x2028 || n == 0x2029 || n == 0x202F || n == 0x205F || n == 0x3000

/-- A text without the white space at its ends. -/
def stripSpace (text : List Char) : List Char := ((text.dropWhile isSpace).reverse.dropWhile isSpace).reverse

/-- `str.strip` -/
def strip (text : String) : String := String.ofList (stripSpace text.toList)

/-- `str.startswith` -/
def startsWith (text start : String) : Bool := start.toList.isPrefixOf text.toList

/-- `part in text` -/
def contains (text part : String) : Bool := decide (part.toList <:+: text.toList)

/-- `str.split` -/
def split (text : String) : List String := ((text.toList.splitOnP isSpace).filter (· ≠ [])).map String.ofList

/-- `" ".join(text.split())` -/
def spaced (text : String) : String := " ".intercalate (split text)

example : spaced " R\u00a0 1" = "R 1" := by decide

/-- `f"{n:0{width}d}"` for `0 ≤ n` -/
def padded (width n : Nat) : String :=
  let digits := toString n
  String.ofList (List.replicate (width - digits.length) '0') ++ digits

example : padded 6 42 = "000042" := by decide

end Muefs
