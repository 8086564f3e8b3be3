import Mathlib.Algebra.Order.Ring.Int
import Mathlib.Tactic.Common

/-!
# Texts as bytes

* `charOf n` : the character of a code point; a surrogate, which no `Char` is, reads as the replacement character;
* `utf8Encode`, `utf8Decode` : UTF-8; `utf16Units`, `joinSurrogates` : UTF-16; `utf32Points` : UTF-32;
* `detectEncoding` : which of these a text of unknown encoding is in, from its byte order mark or its zero bytes;
* `decodeText` : the text, surrogates let through. `decodeText_encode` : what `utf8Encode` wrote is read back.
-/

namespace Formats

/-- The character of a code point. -/
def charOf (n : Nat) : Char := if h : n.isValidChar then Char.ofNatAux n h else '\uFFFD'

theorem charOf_toNat (c : Char) : charOf c.toNat = c := by
  have h : c.toNat.isValidChar := c.valid
  unfold charOf
  rw [dif_pos h]
  exact Char.ext (UInt32.toNat_inj.1 rfl)

/-! ## UTF-8 -/

/-- The bytes of a code point. -/
def utf8Bytes (n : Nat) : List UInt8 :=
  if n < 0x80 then [.ofNat n]
  else if n < 0x800 then [.ofNat (0xC0 + n / 64), .ofNat (0x80 + n % 64)]
  else if n < 0x10000 then [.ofNat (0xE0 + n / 4096), .ofNat (0x80 + n / 64 % 64), .ofNat (0x80 + n % 64)]
  else [.ofNat (0xF0 + n / 262144), .ofNat (0x80 + n / 4096 % 64), .ofNat (0x80 + n / 64 % 64), .ofNat (0x80 + n % 64)]

def utf8Encode (text : List Char) : List UInt8 := text.flatMap fun c => utf8Bytes c.toNat

/-- A byte that goes on with a character. -/
def isTail (b : UInt8) : Bool := 0x80 ≤ b.toNat && b.toNat < 0xC0

/-- The code point of two, three or four bytes. Overlong forms and numbers beyond Unicode are none. -/
def codePoint₂ (a b : UInt8) : Option Nat :=
  let n := (a.toNat - 0xC0) * 64 + (b.toNat - 0x80)
  if 0xC0 ≤ a.toNat ∧ a.toNat < 0xE0 ∧ isTail b ∧ 0x80 ≤ n then some n else none

def codePoint₃ (a b c : UInt8) : Option Nat :=
  let n := (a.toNat - 0xE0) * 4096 + (b.toNat - 0x80) * 64 + (c.toNat - 0x80)
  if 0xE0 ≤ a.toNat ∧ a.toNat < 0xF0 ∧ isTail b ∧ isTail c ∧ 0x800 ≤ n then some n else none

def codePoint₄ (a b c d : UInt8) : Option Nat :=
  let n := (a.toNat - 0xF0) * 262144 + (b.toNat - 0x80) * 4096 + (c.toNat - 0x80) * 64 + (d.toNat - 0x80)
  if 0xF0 ≤ a.toNat ∧ a.toNat < 0xF8 ∧ isTail b ∧ isTail c ∧ isTail d ∧ 0x10000 ≤ n ∧ n < 0x110000 then some n else none

def utf8Decode : List UInt8 → Option (List Char)
  | [] => some []
  | a :: rest =>
    if a.toNat < 0x80 then (utf8Decode rest).map (charOf a.toNat :: ·)
    else match rest with
      | [] => none
      | b :: rest => match codePoint₂ a b with
        | some n => (utf8Decode rest).map (charOf n :: ·)
        | none => match rest with
          | [] => none
          | c :: rest => match codePoint₃ a b c with
            | some n => (utf8Decode rest).map (charOf n :: ·)
            | none => match rest with
              | [] => none
              | d :: rest => match codePoint₄ a b c d with
                | some n => (utf8Decode rest).map (charOf n :: ·)
                | none => none

theorem toNat_lt (c : Char) : c.toNat < 0x110000 := by
  have h : c.toNat.isValidChar := c.valid
  unfold Nat.isValidChar at h
  omega

@[simp] theorem toNat_byte (n : Nat) : (UInt8.ofNat n).toNat = n % 256 := by simp

/-! What a character of one, two, three or four bytes decodes to. -/

section
variable {a b c d : UInt8} {n : Nat} (rest : List UInt8)

theorem utf8Decode_one (ha : a.toNat < 0x80) :
    utf8Decode (a :: rest) = (utf8Decode rest).map (charOf a.toNat :: ·) := by
  rw [utf8Decode.eq_def]
  exact if_pos ha

theorem utf8Decode_two (ha : ¬ a.toNat < 0x80) (h : codePoint₂ a b = some n) :
    utf8Decode (a :: b :: rest) = (utf8Decode rest).map (charOf n :: ·) := by
  rw [utf8Decode.eq_def]
  simp only [if_neg ha, h]

theorem utf8Decode_three (ha : ¬ a.toNat < 0x80) (h₂ : codePoint₂ a b = none) (h : codePoint₃ a b c = some n) :
    utf8Decode (a :: b :: c :: rest) = (utf8Decode rest).map (charOf n :: ·) := by
  rw [utf8Decode.eq_def]
  simp only [if_neg ha, h₂, h]

theorem utf8Decode_four (ha : ¬ a.toNat < 0x80) (h₂ : codePoint₂ a b = none) (h₃ : codePoint₃ a b c = none)
    (h : codePoint₄ a b c d = some n) :
    utf8Decode (a :: b :: c :: d :: rest) = (utf8Decode rest).map (charOf n :: ·) := by
  rw [utf8Decode.eq_def]
  simp only [if_neg ha, h₂, h₃, h]

end

theorem utf8Decode_bytes {n : Nat} (hn : n < 0x110000) (rest : List UInt8) :
    utf8Decode (utf8Bytes n ++ rest) = (utf8Decode rest).map (charOf n :: ·) := by
  unfold utf8Bytes
  split_ifs with h₁ h₂ h₃
  · have ha : (UInt8.ofNat n).toNat = n := by rw [toNat_byte]; omega
    rw [List.singleton_append, utf8Decode_one rest (by omega), ha]
  · have ha : (UInt8.ofNat (0xC0 + n / 64)).toNat = 0xC0 + n / 64 := by rw [toNat_byte]; omega
    have hb : (UInt8.ofNat (0x80 + n % 64)).toNat = 0x80 + n % 64 := by rw [toNat_byte]; omega
    refine utf8Decode_two rest (by rw [ha]; omega) ?_
    simp only [codePoint₂, isTail, ha, hb, Bool.and_eq_true, decide_eq_true_eq]
    rw [if_pos (by omega)]
    exact congrArg some (by omega)
  · have ha : (UInt8.ofNat (0xE0 + n / 4096)).toNat = 0xE0 + n / 4096 := by rw [toNat_byte]; omega
    have hb : (UInt8.ofNat (0x80 + n / 64 % 64)).toNat = 0x80 + n / 64 % 64 := by rw [toNat_byte]; omega
    have hd : (UInt8.ofNat (0x80 + n % 64)).toNat = 0x80 + n % 64 := by rw [toNat_byte]; omega
    refine utf8Decode_three rest (by rw [ha]; omega) ?_ ?_
    · simp only [codePoint₂, ha]
      exact if_neg (by omega)
    · simp only [codePoint₃, isTail, ha, hb, hd, Bool.and_eq_true, decide_eq_true_eq]
      rw [if_pos (by omega)]
      exact congrArg some (by omega)
  · have ha : (UInt8.ofNat (0xF0 + n / 262144)).toNat = 0xF0 + n / 262144 := by rw [toNat_byte]; omega
    have hb : (UInt8.ofNat (0x80 + n / 4096 % 64)).toNat = 0x80 + n / 4096 % 64 := by rw [toNat_byte]; omega
    have hd : (UInt8.ofNat (0x80 + n / 64 % 64)).toNat = 0x80 + n / 64 % 64 := by rw [toNat_byte]; omega
    have he : (UInt8.ofNat (0x80 + n % 64)).toNat = 0x80 + n % 64 := by rw [toNat_byte]; omega
    refine utf8Decode_four rest (by rw [ha]; omega) ?_ ?_ ?_
    · simp only [codePoint₂, ha]
      exact if_neg (by omega)
    · simp only [codePoint₃, ha]
      exact if_neg (by omega)
    · simp only [codePoint₄, isTail, ha, hb, hd, he, Bool.and_eq_true, decide_eq_true_eq]
      rw [if_pos (by omega)]
      exact congrArg some (by omega)

theorem utf8Decode_encode (text : List Char) : utf8Decode (utf8Encode text) = some text := by
  induction text with
  | nil => rfl
  | cons c text ih =>
    rw [utf8Encode] at ih ⊢
    rw [List.flatMap_cons, utf8Decode_bytes (toNat_lt c), ih, charOf_toNat, Option.map_some]

/-! ## UTF-16 and UTF-32 -/

/-- Two bytes a unit. -/
def utf16Units (big : Bool) : List UInt8 → Option (List Nat)
  | [] => some []
  | [_] => none
  | a :: b :: rest =>
    (utf16Units big rest).map ((if big then a.toNat * 256 + b.toNat else b.toNat * 256 + a.toNat) :: ·)

def isHighSurrogate (n : Nat) : Bool := 0xD800 ≤ n && n < 0xDC00

def isLowSurrogate (n : Nat) : Bool := 0xDC00 ≤ n && n < 0xE000

/-- Surrogates that follow each other as they should are one character. -/
def joinSurrogates : List Nat → List Char
  | high :: low :: rest =>
    if isHighSurrogate high && isLowSurrogate low then
      charOf (0x10000 + (high - 0xD800) * 1024 + (low - 0xDC00)) :: joinSurrogates rest
    else charOf high :: joinSurrogates (low :: rest)
  | [n] => [charOf n]
  | [] => []

/-- Four bytes a code point. -/
def utf32Points (big : Bool) : List UInt8 → Option (List Nat)
  | [] => some []
  | a :: b :: c :: d :: rest =>
    let n := if big then a.toNat * 16777216 + b.toNat * 65536 + c.toNat * 256 + d.toNat
      else d.toNat * 16777216 + c.toNat * 65536 + b.toNat * 256 + a.toNat
    if n < 0x110000 then (utf32Points big rest).map (n :: ·) else none
  | _ => none

theorem isHighSurrogate_toNat (c : Char) : isHighSurrogate c.toNat = false := by
  have h : c.toNat.isValidChar := c.valid
  unfold Nat.isValidChar at h
  simp only [isHighSurrogate, Bool.and_eq_false_iff, decide_eq_false_iff_not]
  omega

theorem joinSurrogates_toNat (text : List Char) : joinSurrogates (text.map Char.toNat) = text := by
  induction text with
  | nil => rfl
  | cons c text ih =>
    cases text with
    | nil => simp [joinSurrogates, charOf_toNat]
    | cons d text =>
      simp only [List.map_cons] at ih ⊢
      rw [joinSurrogates, isHighSurrogate_toNat, Bool.false_and, if_neg Bool.false_ne_true, ih, charOf_toNat]

/-! ## Texts of unknown encoding -/

inductive Encoding where
  | utf8
  | utf16 (big : Bool)
  | utf32 (big : Bool)
  deriving DecidableEq, Repr

/-- The encoding of a text that begins with an ASCII character, and the text without its byte order mark. -/
def detectEncoding (text : List UInt8) : Encoding × List UInt8 :=
  if [0x00, 0x00, 0xFE, 0xFF].isPrefixOf text then (.utf32 true, text.drop 4)
  else if [0xFF, 0xFE, 0x00, 0x00].isPrefixOf text then (.utf32 false, text.drop 4)
  else if [0xFE, 0xFF].isPrefixOf text then (.utf16 true, text.drop 2)
  else if [0xFF, 0xFE].isPrefixOf text then (.utf16 false, text.drop 2)
  else if [0xEF, 0xBB, 0xBF].isPrefixOf text then (.utf8, text.drop 3)
  else match text with
    | a :: b :: c :: d :: _ =>
      if a = 0 then (if b = 0 then .utf32 true else .utf16 true, text)
      else if b = 0 then (if c = 0 ∧ d = 0 then .utf32 false else .utf16 false, text)
      else (.utf8, text)
    | [a, b] => (if a = 0 then .utf16 true else if b = 0 then .utf16 false else .utf8, text)
    | _ => (.utf8, text)

/-- `text.decode(detect_encoding(text), "surrogatepass")` -/
def decodeText (bytes : List UInt8) : Option (List Char) :=
  match detectEncoding bytes with
  | (.utf8, text) => utf8Decode text
  | (.utf16 big, text) => (utf16Units big text).map joinSurrogates
  | (.utf32 big, text) => (utf32Points big text).map fun points => points.map charOf

theorem detectEncoding_ascii {a b : UInt8} (ha : a ≠ 0) (hb : b ≠ 0) (ha' : a.toNat < 0x80) (rest : List UInt8) :
    detectEncoding (a :: b :: rest) = (.utf8, a :: b :: rest) := by
  have h₁ : a ≠ 0xFF := by rintro rfl; exact absurd ha' (by decide +kernel)
  have h₂ : a ≠ 0xFE := by rintro rfl; exact absurd ha' (by decide +kernel)
  have h₃ : a ≠ 0xEF := by rintro rfl; exact absurd ha' (by decide +kernel)
  have hstarts : ∀ x ∈ [0x00, 0xFF, 0xFE, 0xEF], ∀ xs : List UInt8, (x :: xs).isPrefixOf (a :: b :: rest) = false := by
    intro x hx xs
    have hne : x ≠ a := by
      rintro rfl
      simp [ha, h₁, h₂, h₃] at hx
    rw [List.isPrefixOf, beq_false_of_ne hne, Bool.false_and]
  unfold detectEncoding
  simp only [hstarts 0x00 (by simp), hstarts 0xFF (by simp), hstarts 0xFE (by simp), hstarts 0xEF (by simp),
    Bool.false_eq_true, if_false]
  rcases rest with _ | ⟨c, _ | ⟨d, rest⟩⟩
  · dsimp only
    rw [if_neg ha, if_neg hb]
  · rfl
  · dsimp only
    rw [if_neg ha, if_neg hb]

theorem decodeText_encode {c d : Char} (hc : 0 < c.toNat ∧ c.toNat < 0x80) (hd : 0 < d.toNat ∧ d.toNat < 0x80)
    (text : List Char) : decodeText (utf8Encode (c :: d :: text)) = some (c :: d :: text) := by
  have hbytes : utf8Encode (c :: d :: text) = .ofNat c.toNat :: .ofNat d.toNat :: utf8Encode text := by
    simp [utf8Encode, utf8Bytes, hc.2, hd.2]
  have hbyte : ∀ n : Nat, 0 < n ∧ n < 0x80 → UInt8.ofNat n ≠ 0 ∧ (UInt8.ofNat n).toNat < 0x80 := by
    intro n hn
    have hval : (UInt8.ofNat n).toNat = n := by rw [toNat_byte]; omega
    refine ⟨fun h => ?_, by omega⟩
    rw [h] at hval
    exact absurd hval.symm (by simp; omega)
  have h := utf8Decode_encode (c :: d :: text)
  unfold decodeText
  rw [hbytes] at h ⊢
  rw [detectEncoding_ascii (hbyte _ hc).1 (hbyte _ hd).1 (hbyte _ hc).2]
  exact h

end Formats
