import Mathlib.Data.Char
import Mathlib.Data.List.Lex
import Mathlib.Data.List.Sort
import Mathlib.Order.Lattice
import Muefs.Formats.Unicode

/-!
# JSON

* `Json` : a value; an object keeps the order in which its keys were first set, `setKey` is the assignment `d[k] = v`;
* `Json.render` : `json.dumps(value, ensure_ascii=False)`; `Json.sortKeys` : the option `sort_keys`;
* `dumps` : both; a number of more than `maxDigits` digits is not printed, nor read;
* `parseValue` : the scanner, one unit of fuel for each character; `loads` : `json.loads` of bytes.
-/

namespace Formats

/-! ## Values -/

/-- A JSON value. A number that is no integer is kept as it is written. -/
inductive Json where
  | null
  | bool (b : Bool)
  | int (n : Int)
  | float (literal : String)
  | string (s : String)
  | array (items : List Json)
  | object (fields : List (String × Json))
  deriving Repr, Inhabited

/-- `d[k] = v` -/
def setKey {α : Type} (d : List (String × α)) (k : String) (v : α) : List (String × α) :=
  if d.any (·.1 == k) then d.map fun p => if p.1 = k then (k, v) else p else d ++ [(k, v)]

/-- `dict(pairs)` -/
def dictOf {α : Type} (pairs : List (String × α)) : List (String × α) := pairs.foldl (fun d p => setKey d p.1 p.2) []

/-- `d.get(k)` -/
def getKey {α : Type} (d : List (String × α)) (k : String) : Option α := (d.find? (·.1 == k)).map (·.2)

/-- `value.get(k)`, of an object. -/
def Json.get? : Json → String → Option Json
  | .object fields, k => getKey fields k
  | _, _ => none

@[simp] theorem Json.get?_object (fields : List (String × Json)) (k : String) :
    (Json.object fields).get? k = getKey fields k := rfl

/-- Integers of more digits are neither printed nor read. -/
def maxDigits : Nat := 4300

/-! ## Printing -/

def renderInt (n : Int) : List Char :=
  if n < 0 then '-' :: Nat.toDigits 10 n.natAbs else Nat.toDigits 10 n.natAbs

/-- A character of a string. -/
def escape (c : Char) : List Char :=
  if c = '"' then ['\\', '"']
  else if c = '\\' then ['\\', '\\']
  else if c = '\n' then ['\\', 'n']
  else if c = '\r' then ['\\', 'r']
  else if c = '\t' then ['\\', 't']
  else if c = '\x0c' then ['\\', 'f']
  else if c = '\x08' then ['\\', 'b']
  else if c.toNat < 32 then ['\\', 'u', '0', '0', Nat.digitChar (c.toNat / 16), Nat.digitChar (c.toNat % 16)]
  else [c]

def quoted (s : String) : List Char := '"' :: (s.toList.flatMap escape ++ ['"'])

mutual

/-- The text of a value. -/
def Json.render : Json → List Char
  | .null => "null".toList
  | .bool true => "true".toList
  | .bool false => "false".toList
  | .int n => renderInt n
  | .float literal => literal.toList
  | .string s => quoted s
  | .array [] => ['[', ']']
  | .array (v :: vs) => '[' :: (v.render ++ renderItems vs)
  | .object [] => ['{', '}']
  | .object ((k, v) :: fields) => '{' :: (quoted k ++ ':' :: ' ' :: (v.render ++ renderFields fields))

/-- What follows the first item of an array. -/
def renderItems : List Json → List Char
  | [] => [']']
  | v :: vs => ',' :: ' ' :: (v.render ++ renderItems vs)

/-- What follows the first field of an object. -/
def renderFields : List (String × Json) → List Char
  | [] => ['}']
  | (k, v) :: fields => ',' :: ' ' :: (quoted k ++ ':' :: ' ' :: (v.render ++ renderFields fields))

end

/-- Keys are ordered by their code points. -/
def keyLe (a b : String × Json) : Bool := decide (a.1.toList ≤ b.1.toList)

mutual

/-- The value with the keys of every object in order. -/
def Json.sortKeys : Json → Json
  | .array items => .array (sortItems items)
  | .object fields => .object ((sortFields fields).insertionSort (keyLe · ·))
  | v => v

def sortItems : List Json → List Json
  | [] => []
  | v :: vs => v.sortKeys :: sortItems vs

def sortFields : List (String × Json) → List (String × Json)
  | [] => []
  | (k, v) :: fields => (k, v.sortKeys) :: sortFields fields

end

mutual

/-- No integer of the value is too long to be printed. -/
def Json.printable : Json → Bool
  | .int n => decide ((Nat.toDigits 10 n.natAbs).length ≤ maxDigits)
  | .array items => printableItems items
  | .object fields => printableFields fields
  | _ => true

def printableItems : List Json → Bool
  | [] => true
  | v :: vs => v.printable && printableItems vs

def printableFields : List (String × Json) → Bool
  | [] => true
  | (_, v) :: fields => v.printable && printableFields fields

end

/-- `json.dumps(value, ensure_ascii=False, sort_keys=True)` -/
def dumps (value : Json) : Option (List Char) := if value.printable then some value.sortKeys.render else none

/-! ## Reading -/

def isSpace (c : Char) : Bool := c = ' ' || c = '\t' || c = '\n' || c = '\r'

def skipSpace (text : List Char) : List Char := text.dropWhile isSpace

/-- The text after a word it begins with. -/
def afterWord (word text : List Char) : Option (List Char) :=
  if word.isPrefixOf text then some (text.drop word.length) else none

def hexValue (c : Char) : Option Nat :=
  if c.isDigit then some (c.toNat - '0'.toNat)
  else if 'a' ≤ c ∧ c ≤ 'f' then some (c.toNat - 'a'.toNat + 10)
  else if 'A' ≤ c ∧ c ≤ 'F' then some (c.toNat - 'A'.toNat + 10)
  else none

def hexValue₄ (a b c d : Char) : Option Nat := do
  return (← hexValue a) * 4096 + (← hexValue b) * 256 + (← hexValue c) * 16 + (← hexValue d)

/-- The character of an escape of one letter. -/
def unescape (c : Char) : Option Char :=
  if c = '"' then some '"'
  else if c = '\\' then some '\\'
  else if c = '/' then some '/'
  else if c = 'n' then some '\n'
  else if c = 'r' then some '\r'
  else if c = 't' then some '\t'
  else if c = 'f' then some '\x0c'
  else if c = 'b' then some '\x08'
  else none

/-- The code points of a string after its opening quote, and what follows its closing one. -/
def parseUnits : List Char → Option (List Nat × List Char)
  | [] => none
  | c :: rest =>
    if c = '"' then some ([], rest)
    else if c = '\\' then match rest with
      | 'u' :: h₁ :: h₂ :: h₃ :: h₄ :: rest =>
        (hexValue₄ h₁ h₂ h₃ h₄).bind fun n => (parseUnits rest).map fun p => (n :: p.1, p.2)
      | e :: rest => (unescape e).bind fun c => (parseUnits rest).map fun p => (c.toNat :: p.1, p.2)
      | [] => none
    else if c.toNat < 32 then none
    else (parseUnits rest).map fun p => (c.toNat :: p.1, p.2)

def parseString (text : List Char) : Option (String × List Char) :=
  (parseUnits text).map fun p => (String.ofList (joinSurrogates p.1), p.2)

/-- The digits of `0|[1-9][0-9]*`. -/
def wholePart (text : List Char) : List Char :=
  if text.head? = some '0' then ['0'] else text.takeWhile Char.isDigit

/-- `(\.[0-9]+)?` -/
def fractionPart (text : List Char) : List Char :=
  let digits := text.tail.takeWhile Char.isDigit
  if text.head? = some '.' ∧ digits ≠ [] then '.' :: digits else []

/-- `([eE][-+]?[0-9]+)?` -/
def exponentPart (text : List Char) : List Char :=
  let sign := if text.tail.head? = some '-' ∨ text.tail.head? = some '+' then text.tail.take 1 else []
  let digits := (text.tail.drop sign.length).takeWhile Char.isDigit
  if (text.head? = some 'e' ∨ text.head? = some 'E') ∧ digits ≠ [] then text.take 1 ++ sign ++ digits else []

def parseNumber (text : List Char) : Option (Json × List Char) :=
  let sign := if text.head? = some '-' then ['-'] else []
  let whole := wholePart (text.drop sign.length)
  let rest := text.drop (sign.length + whole.length)
  let fraction := fractionPart rest
  let exponent := exponentPart (rest.drop fraction.length)
  if whole = [] then none
  else if fraction ++ exponent = [] then
    let n : Int := Nat.ofDigitChars 10 whole 0
    if whole.length ≤ maxDigits then some (.int (if sign = [] then n else -n), rest) else none
  else some (.float (String.ofList (sign ++ whole ++ fraction ++ exponent)), rest.drop (fraction ++ exponent).length)

/-- `null`, `true`, `false`, `NaN`, `Infinity`, `-Infinity` or a number. -/
def parseScalar (text : List Char) : Option (Json × List Char) :=
  match afterWord "null".toList text with
  | some rest => some (.null, rest)
  | none => match afterWord "true".toList text with
  | some rest => some (.bool true, rest)
  | none => match afterWord "false".toList text with
  | some rest => some (.bool false, rest)
  | none => match afterWord "NaN".toList text with
  | some rest => some (.float "NaN", rest)
  | none => match afterWord "Infinity".toList text with
  | some rest => some (.float "Infinity", rest)
  | none => match afterWord "-Infinity".toList text with
  | some rest => some (.float "-Infinity", rest)
  | none => parseNumber text

/-- `"key" : `, and what follows. -/
def parseKey : List Char → Option (String × List Char)
  | '"' :: text => (parseString text).bind fun p =>
    match skipSpace p.2 with
    | ':' :: rest => some (p.1, skipSpace rest)
    | _ => none
  | _ => none

mutual

/-- The value that a text begins with, and the rest of the text. -/
def parseValue : Nat → List Char → Option (Json × List Char)
  | 0, _ => none
  | _ + 1, [] => none
  | fuel + 1, c :: text =>
    if c = '"' then (parseString text).map fun p => (.string p.1, p.2)
    else if c = '[' then match skipSpace text with
      | ']' :: rest => some (.array [], rest)
      | text => (parseValue fuel text).bind fun p => (parseItems fuel p.2).map fun q => (.array (p.1 :: q.1), q.2)
    else if c = '{' then match skipSpace text with
      | '}' :: rest => some (.object [], rest)
      | text => (parseKey text).bind fun k => (parseValue fuel k.2).bind fun p =>
        (parseFields fuel p.2).map fun q => (.object (dictOf ((k.1, p.1) :: q.1)), q.2)
    else parseScalar (c :: text)

/-- The items after the first one. -/
def parseItems : Nat → List Char → Option (List Json × List Char)
  | 0, _ => none
  | fuel + 1, text => match skipSpace text with
    | ']' :: rest => some ([], rest)
    | ',' :: rest => (parseValue fuel (skipSpace rest)).bind fun p =>
      (parseItems fuel p.2).map fun q => (p.1 :: q.1, q.2)
    | _ => none

/-- The fields after the first one. -/
def parseFields : Nat → List Char → Option (List (String × Json) × List Char)
  | 0, _ => none
  | fuel + 1, text => match skipSpace text with
    | '}' :: rest => some ([], rest)
    | ',' :: rest => (parseKey (skipSpace rest)).bind fun k => (parseValue fuel k.2).bind fun p =>
      (parseFields fuel p.2).map fun q => ((k.1, p.1) :: q.1, q.2)
    | _ => none

end

/-- A whole text. Each call of the scanner is on a shorter text, so its length is fuel enough. -/
def parseText (text : List Char) : Option Json :=
  match parseValue (text.length + 1) (skipSpace text) with
  | some (value, rest) => if skipSpace rest = [] then some value else none
  | none => none

/-- `json.loads` of bytes. -/
def loads (bytes : List UInt8) : Option Json := (decodeText bytes).bind parseText

/-! ## Numbers -/

/-- A number's literal: its digits as one natural number, and the power of ten that goes with it. -/
def literalParts (literal : List Char) : Nat × Int :=
  let (whole, rest) := literal.span Char.isDigit
  let fraction := (fractionPart rest).tail
  let exponent := (exponentPart (rest.drop (fractionPart rest).length)).tail
  let power : Int := match exponent with
    | '-' :: digits => -(Nat.ofDigitChars 10 digits 0)
    | '+' :: digits => Nat.ofDigitChars 10 digits 0
    | digits => Nat.ofDigitChars 10 digits 0
  (Nat.ofDigitChars 10 (whole ++ fraction) 0, power - fraction.length)

/-- `float(literal) == 1`: the nearest number of 53 bits is one. -/
def literalIsOne (literal : String) : Bool :=
  match literal.toList with
  | c :: rest =>
    if !c.isDigit then false
    else
      let (digits, power) := literalParts (c :: rest)
      let scale := 10 ^ power.natAbs
      if 0 ≤ power then digits * scale == 1
      else decide ((2 ^ 54 - 1) * scale ≤ 2 ^ 54 * digits ∧ 2 ^ 53 * digits ≤ (2 ^ 53 + 1) * scale)
  | [] => false

/-- `value == 1` -/
def Json.isOne : Json → Bool
  | .int n => n == 1
  | .bool b => b
  | .float literal => literalIsOne literal
  | _ => false

end Formats
