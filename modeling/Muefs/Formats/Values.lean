import Muefs.Formats.Json

/-!
# Values of Python

* `doubleOf` : the floating-point number of a literal, in units of `2 ^ -1074`;
* `Json.equal` : `a == b`, where `True` is 1 and a number is what it counts;
* `dumpsAscii` : `json.dumps(value, sort_keys=True)`.
-/

namespace Formats

/-! ## Numbers -/

/-- The whole number next to `a / b`; of two, the even one. -/
def roundHalfEven (a b : Nat) : Nat :=
  let q := a / b
  let r := a % b
  if 2 * r < b then q else if b < 2 * r then q + 1 else q + q % 2

def unitBits : Nat := 1074

/-- The number one, in units of `2 ^ -1074`. -/
def unit : Nat := 2 ^ unitBits

/-- The number of 53 bits next to `digits * 10 ^ power`, in units of `2 ^ -1074`. -/
def nearestDouble (digits : Nat) (power : Int) : Nat :=
  let a := digits * 10 ^ power.toNat * unit
  let b := 10 ^ (-power).toNat
  let bit := 2 ^ (Nat.log2 (a / b) - 52)
  roundHalfEven a (b * bit) * bit

/-- A number, in units of `2 ^ -1074`. -/
inductive Number where
  | finite (units : Int)
  | infinite (negative : Bool)
  | nan
  deriving DecidableEq

def Number.neg : Number → Number
  | .finite units => .finite (-units)
  | .infinite negative => .infinite !negative
  | .nan => .nan

/-- `a == b` -/
def Number.same : Number → Number → Bool
  | .finite a, .finite b => a == b
  | .infinite a, .infinite b => a == b
  | _, _ => false

/-- The number of a literal without a sign. -/
def magnitudeOf : List Char → Number
  | 'N' :: _ => .nan
  | 'I' :: _ => .infinite false
  | literal =>
    let (digits, power) := literalParts literal
    let units := nearestDouble digits power
    if units < 2 ^ 1024 * unit then .finite units else .infinite false

/-- `float(literal)` -/
def doubleOf : List Char → Number
  | '-' :: literal => (magnitudeOf literal).neg
  | literal => magnitudeOf literal

def Json.number? : Json → Option Number
  | .int n => some (.finite (n * unit))
  | .bool b => some (.finite (if b then unit else 0))
  | .float literal => some (doubleOf literal.toList)
  | _ => none

/-! ## Equality -/

mutual

/-- `a == b` -/
def Json.equal : Json → Json → Bool
  | .null, .null => true
  | .string a, .string b => a == b
  | .array as, .array bs => equalItems as bs
  | .object as, .object bs => as.length == bs.length && equalFields as bs
  | a, b =>
    match a.number?, b.number? with
    | some m, some n => m.same n
    | _, _ => false

def equalItems : List Json → List Json → Bool
  | [], [] => true
  | a :: as, b :: bs => a.equal b && equalItems as bs
  | _, _ => false

/-- Every field is a field of the other object. -/
def equalFields : List (String × Json) → List (String × Json) → Bool
  | [], _ => true
  | (k, v) :: fields, others =>
    (match getKey others k with
      | some w => v.equal w
      | none => false) && equalFields fields others

end

theorem Json.equal_string {v : Json} {s : String} : v.equal (.string s) = true ↔ v = .string s := by
  cases v <;> simp only [Json.equal, Json.number?, beq_iff_eq, Json.string.injEq, reduceCtorEq, Bool.false_eq_true]

/-! ## Printing -/

/-- The UTF-16 units of a character. -/
def unitsOf (c : Char) : List Nat :=
  let n := c.toNat
  if n < 0x10000 then [n] else [0xD800 + (n - 0x10000) / 1024, 0xDC00 + (n - 0x10000) % 1024]

/-- A character that is not printable ASCII is written by its number. -/
def asciiEscape (c : Char) : List Char :=
  if ' ' ≤ c ∧ c ≤ '~' then [c]
  else (unitsOf c).flatMap fun n => ['\\', 'u', Nat.digitChar (n / 4096), Nat.digitChar (n / 256 % 16),
    Nat.digitChar (n / 16 % 16), Nat.digitChar (n % 16)]

/-- `json.dumps(value, sort_keys=True)` of a value that was read: its integers are short enough to be printed. -/
def dumpsAscii (value : Json) : List Char := value.sortKeys.render.flatMap asciiEscape

end Formats
