import Mathlib.Algebra.Order.Ring.Int
import Mathlib.Data.List.Basic
import Mathlib.Data.Nat.Bits

/-!
# Internet addresses

* `parseIpv4`, `parseIpv6` : an address in its textual form, as a number;
* `IpAddress`, `ipAddress` : an address of either version;
* `IpNetwork`, `ipNetwork` : a network, written with a prefix length or, for version 4, with a mask;
  `IpNetwork.contains`.
-/

namespace Formats

def isDecimal (c : Char) : Bool := '0' ≤ c && c ≤ '9'

/-- The number that the digits stand for. -/
def readDigits (base : Nat) (value : Char → Nat) (digits : List Char) : Nat :=
  digits.foldl (fun n c => n * base + value c) 0

def decimalValue (c : Char) : Nat := c.toNat - '0'.toNat

def readDecimal (digits : List Char) : Nat := readDigits 10 decimalValue digits

/-! ## Version 4 -/

/-- An octet: one to three digits without leading zeros, at most 255. -/
def parseOctet (text : List Char) : Option Nat :=
  if text ≠ [] ∧ text.all isDecimal = true ∧ text.length ≤ 3 ∧ (text = ['0'] ∨ text.head? ≠ some '0') ∧
      readDecimal text ≤ 255 then
    some (readDecimal text)
  else none

def parseIpv4 (text : List Char) : Option Nat :=
  match text.splitOn '.' with
  | [a, b, c, d] => do
    let a ← parseOctet a
    let b ← parseOctet b
    let c ← parseOctet c
    let d ← parseOctet d
    return ((a * 256 + b) * 256 + c) * 256 + d
  | _ => none

/-! ## Version 6 -/

def isHexDigit (c : Char) : Bool := isDecimal c || ('a' ≤ c && c ≤ 'f') || ('A' ≤ c && c ≤ 'F')

def hexDigitValue (c : Char) : Nat :=
  if isDecimal c then decimalValue c
  else if 'a' ≤ c ∧ c ≤ 'f' then c.toNat - 'a'.toNat + 10
  else c.toNat - 'A'.toNat + 10

/-- One to four hexadecimal digits. -/
def parseHextet (text : List Char) : Option Nat :=
  if text ≠ [] ∧ text.all isHexDigit = true ∧ text.length ≤ 4 then some (readDigits 16 hexDigitValue text) else none

/-- The groups of a text; an address of version 4 at its end stands for two of them. -/
def hextets (parts : List (List Char)) : Option (List (Option Nat)) :=
  match parts.getLast? with
  | some last =>
    if '.' ∈ last then do
      let n ← parseIpv4 last
      return parts.dropLast.map parseHextet ++ [some (n / 65536), some (n % 65536)]
    else some (parts.map parseHextet)
  | none => none

/-- Where the groups that were left out belong: the empty parts that are neither the first nor the last. -/
def innerGaps (parts : List (List Char)) : List Nat :=
  (List.range parts.length).filter fun i => 0 < i && i + 1 < parts.length && parts[i]? == some []

/-- `_ip_int_from_string` of version 6 -/
def parseIpv6Groups (text : List Char) : Option Nat := do
  let parts := text.splitOn ':'
  if parts.length < 3 then none
  let groups ← hextets parts
  if 9 < groups.length then none
  match innerGaps parts with
  | [] =>
    let values ← groups.mapM id
    if values.length = 8 then return values.foldl (fun n g => n * 65536 + g) 0 else none
  | [gap] =>
    let high := groups.take gap
    let low := groups.drop (gap + 1)
    -- a text may begin or end with the gap, and then its outermost part is empty too
    if parts.head? = some [] ∧ 1 < gap then none
    if parts.getLast? = some [] ∧ 1 < low.length then none
    let high := if parts.head? = some [] then [] else high
    let low := if parts.getLast? = some [] then [] else low
    if 8 ≤ high.length + low.length then none
    let above ← high.mapM id
    let below ← low.mapM id
    return (above.foldl (fun n g => n * 65536 + g) 0) * 65536 ^ (8 - above.length) +
      below.foldl (fun n g => n * 65536 + g) 0
  | _ => none

/-- An address of version 6, with a scope after a percent sign or without. -/
def parseIpv6 (text : List Char) : Option Nat :=
  match text.splitOn '%' with
  | [groups] => parseIpv6Groups groups
  | [groups, scope] => if scope = [] then none else parseIpv6Groups groups
  | _ => none

/-! ## Addresses and networks -/

inductive IpAddress where
  | v4 (n : Nat)
  | v6 (n : Nat)
  deriving DecidableEq, Repr

/-- `ip_address` -/
def ipAddress (text : String) : Option IpAddress :=
  if '/' ∈ text.toList then none
  else ((parseIpv4 text.toList).map .v4).or ((parseIpv6 text.toList).map .v6)

/-- The addresses of a version whose first `prefixLength` bits are those of `base`. -/
structure IpNetwork where
  base : IpAddress
  prefixLength : Nat
  deriving DecidableEq, Repr

/-- `address in network` -/
def IpNetwork.contains (network : IpNetwork) : IpAddress → Bool
  | .v4 n => match network.base with
    | .v4 m => n >>> (32 - network.prefixLength) == m >>> (32 - network.prefixLength)
    | .v6 _ => false
  | .v6 n => match network.base with
    | .v4 _ => false
    | .v6 m => n >>> (128 - network.prefixLength) == m >>> (128 - network.prefixLength)

/-- A prefix length of at most `bits`. -/
def parsePrefix (bits : Nat) (text : List Char) : Option Nat :=
  if text ≠ [] ∧ text.all isDecimal = true ∧ readDecimal text ≤ bits then some (readDecimal text) else none

/-- The length of a netmask or a hostmask. -/
def maskLength (mask : Nat) : Option Nat :=
  ((List.range 33).find? fun k => mask == 2 ^ 32 - 2 ^ (32 - k)).or
    ((List.range 33).find? fun k => mask == 2 ^ (32 - k) - 1)

/-- `ip_network(text, strict=False)` -/
def ipNetwork (text : String) : Option IpNetwork :=
  match text.toList.splitOn '/' with
  | [address] => ((parseIpv4 address).map fun n => IpNetwork.mk (.v4 n) 32).or
      ((parseIpv6 address).map fun n => IpNetwork.mk (.v6 n) 128)
  | [address, mask] =>
    (do let n ← parseIpv4 address
        let length ← (parsePrefix 32 mask).or ((parseIpv4 mask).bind maskLength)
        return IpNetwork.mk (.v4 n) length).or
      (do let n ← parseIpv6 address
          let length ← parsePrefix 128 mask
          return IpNetwork.mk (.v6 n) length)
  | _ => none

example : (ipNetwork "10.0.0.0/8").map (fun n => (n.contains <$> ipAddress "10.41.7.3",
    n.contains <$> ipAddress "11.0.0.1")) = some (some true, some false) := by decide +kernel

example : (ipNetwork "fd00::/8").map (fun n => n.contains <$> ipAddress "fd12::1") = some (some true) :=
    by decide +kernel

end Formats
