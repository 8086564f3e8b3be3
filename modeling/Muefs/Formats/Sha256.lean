import Mathlib.Algebra.Order.Ring.Int
import Mathlib.Tactic.Common

/-!
# SHA-256

The hash of FIPS 180-4 over lists of bytes. A word is a natural number below `2 ^ 32`.

* `compress` : one block of sixteen words; `schedule` : its sixty-four words, the newest first;
* `sha256 message` : the eight words of the hash; `hexdigest` : its sixty-four hexadecimal digits;
* `isHexdigest` : sixty-four lower-case digits, as every `hexdigest` is.
-/

namespace Formats

abbrev Word := Nat

/-- The fractional parts of the cube roots of the first sixty-four primes. -/
def roundConstants : List Word :=
  [0x428a2f98, 0x71374491, 0xb5c0fbcf, 0xe9b5dba5, 0x3956c25b, 0x59f111f1, 0x923f82a4, 0xab1c5ed5,
   0xd807aa98, 0x12835b01, 0x243185be, 0x550c7dc3, 0x72be5d74, 0x80deb1fe, 0x9bdc06a7, 0xc19bf174,
   0xe49b69c1, 0xefbe4786, 0x0fc19dc6, 0x240ca1cc, 0x2de92c6f, 0x4a7484aa, 0x5cb0a9dc, 0x76f988da,
   0x983e5152, 0xa831c66d, 0xb00327c8, 0xbf597fc7, 0xc6e00bf3, 0xd5a79147, 0x06ca6351, 0x14292967,
   0x27b70a85, 0x2e1b2138, 0x4d2c6dfc, 0x53380d13, 0x650a7354, 0x766a0abb, 0x81c2c92e, 0x92722c85,
   0xa2bfe8a1, 0xa81a664b, 0xc24b8b70, 0xc76c51a3, 0xd192e819, 0xd6990624, 0xf40e3585, 0x106aa070,
   0x19a4c116, 0x1e376c08, 0x2748774c, 0x34b0bcb5, 0x391c0cb3, 0x4ed8aa4a, 0x5b9cca4f, 0x682e6ff3,
   0x748f82ee, 0x78a5636f, 0x84c87814, 0x8cc70208, 0x90befffa, 0xa4506ceb, 0xbef9a3f7, 0xc67178f2]

/-- The chaining value, and the working variables of a block. -/
structure Working where
  a : Word
  b : Word
  c : Word
  d : Word
  e : Word
  f : Word
  g : Word
  h : Word
  deriving DecidableEq, Repr

/-- The fractional parts of the square roots of the first eight primes. -/
def initialWorking : Working :=
  ⟨0x6a09e667, 0xbb67ae85, 0x3c6ef372, 0xa54ff53a, 0x510e527f, 0x9b05688c, 0x1f83d9ab, 0x5be0cd19⟩

/-- `2 ^ 32` -/
def wordSize : Nat := 4294967296

def rotateRight (x : Word) (n : Nat) : Word := x >>> n ||| (x <<< (32 - n)) % wordSize

/-- One round, with the sum of its constant and its word. -/
def Working.round (s : Working) (constant word : Word) : Working :=
  let sum₁ := rotateRight s.e 6 ^^^ rotateRight s.e 11 ^^^ rotateRight s.e 25
  let choice := (s.e &&& s.f) ^^^ ((wordSize - 1 - s.e) &&& s.g)
  let first := s.h + sum₁ + choice + constant + word
  let sum₀ := rotateRight s.a 2 ^^^ rotateRight s.a 13 ^^^ rotateRight s.a 22
  let majority := (s.a &&& s.b) ^^^ (s.a &&& s.c) ^^^ (s.b &&& s.c)
  { a := (first + sum₀ + majority) % wordSize, b := s.a, c := s.b, d := s.c,
    e := (s.d + first) % wordSize, f := s.e, g := s.f, h := s.g }

/-- The message schedule after `n` more words, the newest word first. -/
def schedule : Nat → List Word → List Word
  | 0, words => words
  | n + 1, words =>
    let early := words.getD 14 0
    let late := words.getD 1 0
    let sigma₀ := rotateRight early 7 ^^^ rotateRight early 18 ^^^ early >>> 3
    let sigma₁ := rotateRight late 17 ^^^ rotateRight late 19 ^^^ late >>> 10
    schedule n ((sigma₁ + words.getD 6 0 + sigma₀ + words.getD 15 0) % wordSize :: words)

/-- One block of sixteen words. -/
def compress (s : Working) (block : List Word) : Working :=
  let t := (roundConstants.zip (schedule 48 block.reverse).reverse).foldl (fun t (k, w) => t.round k w) s
  { a := (s.a + t.a) % wordSize, b := (s.b + t.b) % wordSize, c := (s.c + t.c) % wordSize,
    d := (s.d + t.d) % wordSize, e := (s.e + t.e) % wordSize, f := (s.f + t.f) % wordSize,
    g := (s.g + t.g) % wordSize, h := (s.h + t.h) % wordSize }

/-- A one bit, zeros up to a whole number of blocks, and the length in bits in eight bytes. -/
def padMessage (message : List UInt8) : List UInt8 :=
  message ++ 0x80 :: List.replicate ((55 - (message.length : Int)) % 64).toNat 0 ++
    (List.range 8).map fun i => UInt8.ofNat (message.length * 8 / 256 ^ (7 - i))

/-- Big-endian words. -/
def wordsOf : List UInt8 → List Word
  | a :: b :: c :: d :: rest =>
    (a.toNat * 16777216 + b.toNat * 65536 + c.toNat * 256 + d.toNat) :: wordsOf rest
  | _ => []

/-- The first `n` blocks. -/
def blocksOf : Nat → List Word → List (List Word)
  | 0, _ => []
  | n + 1, words => words.take 16 :: blocksOf n (words.drop 16)

/-- The hash of a message. -/
def sha256 (message : List UInt8) : Working :=
  let words := wordsOf (padMessage message)
  (blocksOf (words.length / 16) words).foldl compress initialWorking

/-- Eight hexadecimal digits. -/
def hexWord (w : Word) : List Char := (List.range 8).map fun i => Nat.digitChar (w / 16 ^ (7 - i) % 16)

/-- The hash of a message in hexadecimal. -/
def hexdigest (message : List UInt8) : String :=
  let s := sha256 message
  String.ofList ([s.a, s.b, s.c, s.d, s.e, s.f, s.g, s.h].flatMap hexWord)

/-- A lower-case hexadecimal digit. -/
def isLowerHex (c : Char) : Bool := c.isDigit || ('a' ≤ c && c ≤ 'f')

/-- Sixty-four lower-case hexadecimal digits. -/
def isHexdigest (text : List Char) : Bool := text.length == 64 && text.all isLowerHex

theorem isLowerHex_digitChar {n : Nat} (h : n < 16) : isLowerHex n.digitChar = true := by
  have key : ∀ n : Fin 16, isLowerHex n.val.digitChar = true := by decide
  exact key ⟨n, h⟩

theorem length_hexWord (w : Word) : (hexWord w).length = 8 := by
  simp [hexWord]

theorem isLowerHex_hexWord {w : Word} {c : Char} (h : c ∈ hexWord w) : isLowerHex c = true := by
  obtain ⟨i, -, rfl⟩ := List.mem_map.1 h
  exact isLowerHex_digitChar (Nat.mod_lt _ (by decide))

theorem isHexdigest_hexdigest (message : List UInt8) : isHexdigest (hexdigest message).toList = true := by
  unfold isHexdigest hexdigest
  rw [String.toList_ofList, Bool.and_eq_true, beq_iff_eq, List.all_eq_true]
  constructor
  · simp only [List.flatMap_cons, List.flatMap_nil, List.length_append, length_hexWord, List.length_nil]
  · intro c hc
    obtain ⟨w, -, hw⟩ := List.mem_flatMap.1 hc
    exact isLowerHex_hexWord hw

example : hexdigest [0x61, 0x62, 0x63] = "ba7816bf8f01cfea414140de5dae2223b00361a396177a9cb410ff61f20015ad" := by
  decide +kernel

end Formats
