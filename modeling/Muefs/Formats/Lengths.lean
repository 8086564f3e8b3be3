import Muefs.Formats.RoundTrip

/-!
# How long a printed text is

* `Json.width` : a bound that neither the order of the keys nor the digits of a number change;
* `length_dumps` : the text of a printed value is not longer; `length_utf8Encode` : a character takes
  four bytes at most.
-/

namespace Formats

mutual

/-- The text of a printed value is no longer than this, whatever the order of its keys. -/
def Json.width : Json → Nat
  | .int _ => maxDigits + 1
  | .float literal => literal.toList.length
  | .string s => 6 * s.toList.length + 2
  | .array items => widthItems items
  | .object fields => widthFields fields
  | _ => 5

def widthItems : List Json → Nat
  | [] => 2
  | v :: vs => v.width + 2 + widthItems vs

def widthFields : List (String × Json) → Nat
  | [] => 2
  | (k, v) :: fields => 6 * k.toList.length + 6 + v.width + widthFields fields

end

theorem length_escape (c : Char) : (escape c).length ≤ 6 := by
  unfold escape
  split_ifs <;> simp

theorem length_escaped (text : List Char) : (text.flatMap escape).length ≤ 6 * text.length := by
  induction text with
  | nil => rfl
  | cons c text ih =>
    have hc := length_escape c
    rw [List.flatMap_cons, List.length_append, List.length_cons]
    omega

theorem length_quoted (s : String) : (quoted s).length ≤ 6 * s.toList.length + 2 := by
  have h := length_escaped s.toList
  unfold quoted
  rw [List.length_cons, List.length_append, List.length_singleton]
  omega

theorem length_renderInt {n : Int} (h : (Json.int n).printable = true) : (renderInt n).length ≤ maxDigits + 1 := by
  have hdigits := of_decide_eq_true h
  unfold renderInt
  split_ifs
  · rw [List.length_cons]
    omega
  · omega

mutual

theorem Json.length_render : ∀ {v : Json}, v.printable = true → v.render.length ≤ v.width
  | .null, _ | .bool true, _ | .bool false, _ => by decide
  | .int _, h => length_renderInt h
  | .float _, _ => Nat.le_refl _
  | .string s, _ => length_quoted s
  | .array [], _ | .object [], _ => by decide
  | .array (v :: vs), h => by
    rw [Json.printable, printableItems, Bool.and_eq_true] at h
    have hv := Json.length_render h.1
    have hvs := length_renderItems h.2
    rw [Json.render, List.length_cons, List.length_append, Json.width, widthItems]
    omega
  | .object ((k, v) :: fields), h => by
    rw [Json.printable, printableFields, Bool.and_eq_true] at h
    have hk := length_quoted k
    have hv := Json.length_render h.1
    have hfields := length_renderFields h.2
    simp only [Json.render, List.length_cons, List.length_append, Json.width, widthFields]
    omega

theorem length_renderItems : ∀ {vs : List Json}, printableItems vs = true → (renderItems vs).length ≤ widthItems vs
  | [], _ => by decide
  | v :: vs, h => by
    rw [printableItems, Bool.and_eq_true] at h
    have hv := Json.length_render h.1
    have hvs := length_renderItems h.2
    simp only [renderItems, List.length_cons, List.length_append, widthItems]
    omega

theorem length_renderFields : ∀ {fields : List (String × Json)}, printableFields fields = true →
    (renderFields fields).length ≤ widthFields fields
  | [], _ => by decide
  | (k, v) :: fields, h => by
    rw [printableFields, Bool.and_eq_true] at h
    have hk := length_quoted k
    have hv := Json.length_render h.1
    have hfields := length_renderFields h.2
    simp only [renderFields, List.length_cons, List.length_append, widthFields]
    omega

end

theorem widthFields_eq (fields : List (String × Json)) :
    widthFields fields = (fields.map fun p => 6 * p.1.toList.length + 6 + p.2.width).sum + 2 := by
  induction fields with
  | nil => rfl
  | cons p fields ih =>
    rw [widthFields, ih, List.map_cons, List.sum_cons]
    omega

mutual

theorem Json.width_sortKeys : ∀ v : Json, v.sortKeys.width = v.width
  | .null | .bool _ | .int _ | .float _ | .string _ => rfl
  | .array vs => widthItems_sortItems vs
  | .object fields => by
    have hperm := List.perm_insertionSort (keyLe · ·) (sortFields fields)
    rw [Json.sortKeys, Json.width, Json.width, widthFields_eq, (hperm.map _).sum_nat, ← widthFields_eq,
      widthFields_sortFields]

theorem widthItems_sortItems : ∀ vs : List Json, widthItems (sortItems vs) = widthItems vs
  | [] => rfl
  | v :: vs => by rw [sortItems, widthItems, widthItems, v.width_sortKeys, widthItems_sortItems vs]

theorem widthFields_sortFields : ∀ fields : List (String × Json), widthFields (sortFields fields) = widthFields fields
  | [] => rfl
  | (k, v) :: fields => by rw [sortFields, widthFields, widthFields, v.width_sortKeys, widthFields_sortFields fields]

end

theorem length_utf8Bytes (n : Nat) : (utf8Bytes n).length ≤ 4 := by
  unfold utf8Bytes
  split_ifs <;> simp

theorem length_utf8Encode (text : List Char) : (utf8Encode text).length ≤ 4 * text.length := by
  unfold utf8Encode
  induction text with
  | nil => rfl
  | cons c text ih =>
    have hc := length_utf8Bytes c.toNat
    rw [List.flatMap_cons, List.length_append, List.length_cons]
    omega

theorem length_dumps {v : Json} {text : List Char} (h : dumps v = some text) : text.length ≤ v.width := by
  unfold dumps at h
  split_ifs at h with hprint
  cases h
  rw [← v.width_sortKeys]
  exact Json.length_render (Json.printable_sortKeys hprint)

theorem length_toList_le (s : String) : s.toList.length ≤ s.utf8ByteSize := by
  have hsize : ∀ text : List Char, text.length ≤ text.utf8Encode.size := by
    intro text
    induction text with
    | nil => exact Nat.zero_le _
    | cons c text ih =>
      have hc : (String.utf8EncodeChar c).toByteArray.size = c.utf8Size := by simp
      have hpos := c.utf8Size_pos
      rw [List.utf8Encode_cons, ByteArray.size_append, List.utf8Encode_singleton, List.length_cons]
      omega
  calc s.toList.length ≤ s.toList.utf8Encode.size := hsize s.toList
    _ = (String.ofList s.toList).utf8ByteSize := rfl
    _ = s.utf8ByteSize := by rw [String.ofList_toList]

end Formats
