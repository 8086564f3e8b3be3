import Muefs.Formats.Unicode
import Muefs.Portal.Traffic
import Mathlib.Data.List.Infix

/-!
# Malware screening

* `heuristicScan` : executables and the antivirus test file;
* `transmission` : what is sent to the daemon, the file as chunks that tell their lengths;
* `Connection`, `recv`, `receive` : a connection to the daemon, and the loop that reads its reply;
* `verdict`, `clamavScan`, `scanUpload`.
-/

namespace Muefs
open Formats

abbrev Bytes := List UInt8

/-- The bytes of an ASCII text. -/
def ascii (text : String) : Bytes := utf8Encode text.toList

/-! ## The heuristics -/

/-- `ScanResult` -/
structure ScanResult where
  isClean : Bool
  engine : String
  reason : Option String := none
  deriving DecidableEq, Repr

/-- `EICAR_TEST_SIGNATURE`, kept in two parts -/
def eicarTestSignature : Bytes :=
  ascii "X5O!P%@AP[4\\PZX54(P^)7CC)7\x7d$" ++ ascii "EICAR-STANDARD-ANTIVIRUS-TEST-FILE!$H+H*"

/-- `_EXECUTABLE_SIGNATURES` -/
def executableSignatures : List (Bytes × String) :=
  [([0x7f, 0x45, 0x4c, 0x46], "ELF executable"),
   ([0xfe, 0xed, 0xfa, 0xce], "Mach-O executable"),
   ([0xfe, 0xed, 0xfa, 0xcf], "Mach-O executable"),
   ([0xce, 0xfa, 0xed, 0xfe], "Mach-O executable"),
   ([0xcf, 0xfa, 0xed, 0xfe], "Mach-O executable"),
   ([0xca, 0xfe, 0xba, 0xbe], "Mach-O / Java executable")]

/-- The number that bytes stand for, the most significant first. -/
def bigEndian (bytes : Bytes) : Nat := bytes.foldl (fun n b => n * 256 + b.toNat) 0

/-- `_is_windows_executable` -/
def isWindowsExecutable (fileData : Bytes) : Bool :=
  if (ascii "MZ").isPrefixOf fileData = false ∨ fileData.length < 0x40 then false
  else
    let offset := bigEndian ((fileData.drop 0x3C).take 4).reverse
    (fileData.drop offset).take 4 == [0x50, 0x45, 0, 0]

/-- `_heuristic_scan` -/
def heuristicScan (fileData : Bytes) : ScanResult :=
  if isWindowsExecutable fileData then {
    isClean := false, engine := "builtin",
    reason := some "Rejected: file looks like a Windows PE executable, not a court document" }
  else match executableSignatures.find? fun (signature, _) => signature.isPrefixOf fileData with
    | some (_, label) => {
      isClean := false, engine := "builtin",
      reason := some ("Rejected: file looks like a " ++ label ++ ", not a court document") }
    | none =>
      if eicarTestSignature <:+: fileData then {
        isClean := false, engine := "builtin", reason := some "Rejected: EICAR antivirus test signature detected" }
      else { isClean := true, engine := "builtin" }

/-! ## What is sent -/

/-- `data[offset:offset + size]` for the offsets of `range(0, len(data), size)` -/
def slices (size : Nat) (data : Bytes) : List Bytes :=
  (List.range' 0 ((data.length + size - 1) / size) size).map fun offset => (data.drop offset).take size

/-- `struct.pack("!I", n)` -/
def packed (n : Nat) : Bytes := [.ofNat (n / 16777216), .ofNat (n / 65536), .ofNat (n / 256), .ofNat n]

/-- The command that asks for a file to be scanned. -/
def instreamCommand : Bytes := ascii "zINSTREAM\x00"

/-- What `sock_sendall` is called with, in order. -/
def transmission (fileData : Bytes) : List Bytes :=
  [instreamCommand] ++ (slices 65536 fileData).flatMap (fun chunk => [packed chunk.length, chunk]) ++ [[0, 0, 0, 0]]

/-! ## The reply -/

/-- What comes from the daemon: bytes, of which there are none when it closes, or a failure. -/
inductive Arrival where
  | bytes (part : Bytes)
  | failed
  deriving DecidableEq, Repr

/-- A connection: whether it is made, after how many sends it breaks, and what arrives. Then nothing more arrives. -/
structure Connection where
  refused : Bool := false
  brokenAfter : Option Nat := none
  arrivals : List Arrival := []
  deriving DecidableEq, Repr

inductive ScannerError where
  | unavailable
  deriving DecidableEq, Repr

/-- `sock_recv(limit)` : what arrives next, up to a limit. A failure raises, and nothing to arrive runs
into the timeout. -/
def recv (limit : Nat) : List Arrival → Except ScannerError (Bytes × List Arrival)
  | .bytes part :: rest =>
    .ok (part.take limit, if part.length ≤ limit then rest else .bytes (part.drop limit) :: rest)
  | .failed :: _ => .error .unavailable
  | [] => .error .unavailable

/-- `while not response.endswith(b"\0")` -/
def receive (response : Bytes) (arrivals : List Arrival) : Except ScannerError Bytes :=
  if response.getLast? = some 0 then .ok response
  else if 4096 ≤ response.length then .error .unavailable
  else match recv (4096 - response.length) arrivals with
    | .error e => .error e
    | .ok (part, rest) => if part = [] then .error .unavailable else receive (response ++ part) rest
termination_by 4096 - response.length
decreasing_by
  have hpart : 0 < part.length := List.length_pos_iff.2 ‹_›
  rw [List.length_append]
  omega

/-- `name.decode("utf-8", "replace").strip()` is some text. What stands for a byte that is no text is
not white space. -/
def namesSomething (name : Bytes) : Bool :=
  match utf8Decode name with
  | some text => text.any (!isSpace ·)
  | none => true

/-- `response[len(start):-len(finish)]` if the response starts and ends so -/
def between (start finish response : Bytes) : Option Bytes :=
  if start.isPrefixOf response && finish.isSuffixOf response then
    some ((response.take (response.length - finish.length)).drop start.length)
  else none

def limitsReason : String :=
  "The document or its embedded content exceeds screening limits. " ++
    "Reduce its size or contact the court for filing options."

def okReply : Bytes := ascii "stream: OK\x00"

/-- What a reply says of the file. -/
def verdict (response : Bytes) : Except ScannerError ScanResult :=
  if response = okReply then .ok { isClean := true, engine := "clamav" }
  else match (between (ascii "stream: ") (ascii " FOUND\x00") response).filter namesSomething with
    | some name => .ok {
      isClean := false, engine := "clamav",
      reason := some (if ascii ".Limits.Exceeded" <:+: name then limitsReason else "Rejected by malware screening") }
    | none => match between (ascii "stream: ") (ascii " ERROR\x00") response with
      | some _ => .ok { isClean := false, engine := "clamav", reason := some limitsReason }
      | none => .error .unavailable

/-- `_clamav_scan` -/
def clamavScan (connection : Connection) (fileData : Bytes) : Except ScannerError ScanResult := do
  if connection.refused then throw .unavailable
  if connection.brokenAfter.any (· < (transmission fileData).length) then throw .unavailable
  let response ← receive [] connection.arrivals
  verdict response

/-- `scan_upload` -/
def scanUpload (clamavEnabled : Bool) (connection : Connection) (fileData : Bytes) : Except ScannerError ScanResult :=
  let builtin := heuristicScan fileData
  if !builtin.isClean || !clamavEnabled then .ok builtin else clamavScan connection fileData

end Muefs
