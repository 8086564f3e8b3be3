import Muefs.Formats.Dictionaries

/-!
# What `dumps` prints, `loads` reads

* `Json.Plain` : the keys of every object are different, and no number has a fraction or an exponent;
* `parseValue_render` : a plain value is read back from its text, whatever follows it;
* `loads_dumps` : the bytes of a printed object, with a line break at their end, are read as the object with its keys
  in order;
* `getKey_sortFields` : sorting does not change what a key is set to.
-/

namespace Formats

/-! ## Digits -/

theorem toDigits_head {n : Nat} (h : n ≠ 0) : (Nat.toDigits 10 n).head? ≠ some '0' := by
  induction n using Nat.strong_induction_on with
  | _ n ih =>
    by_cases hn : n < 10
    · rw [Nat.toDigits_of_lt_base hn]
      simpa using h
    · rw [Nat.toDigits_of_base_le (by decide) (by omega), List.head?_append_of_ne_nil _ Nat.toDigits_ne_nil]
      exact ih (n / 10) (by omega) (by omega)

/-- What follows a value in a text: the end, a comma, a closing bracket or a line break. -/
def Ended (rest : List Char) : Prop := ∀ c ∈ rest.head?, c = ',' ∨ c = ']' ∨ c = '}' ∨ c = '\n'

theorem Ended.noDigit {rest : List Char} (h : Ended rest) : rest.takeWhile Char.isDigit = [] := by
  cases rest with
  | nil => rfl
  | cons c rest =>
    have hc : c.isDigit = false := by
      rcases h c rfl with rfl | rfl | rfl | rfl <;> rfl
    rw [List.takeWhile_cons, hc]; rfl

theorem takeWhile_toDigits (n : Nat) {rest : List Char} (h : Ended rest) :
    (Nat.toDigits 10 n ++ rest).takeWhile Char.isDigit = Nat.toDigits 10 n := by
  rw [List.takeWhile_append_of_pos fun c hc => Nat.isDigit_of_mem_toDigits (by decide) (by decide) hc, h.noDigit,
    List.append_nil]

theorem wholePart_toDigits (n : Nat) {rest : List Char} (h : Ended rest) :
    wholePart (Nat.toDigits 10 n ++ rest) = Nat.toDigits 10 n := by
  unfold wholePart
  rw [List.head?_append_of_ne_nil _ Nat.toDigits_ne_nil]
  by_cases hn : n = 0
  · subst hn; rfl
  · rw [if_neg (toDigits_head hn), takeWhile_toDigits n h]

theorem Ended.noFraction {rest : List Char} (h : Ended rest) : fractionPart rest = [] := by
  unfold fractionPart
  refine if_neg fun hdot => ?_
  rcases h _ hdot.1 with h | h | h | h <;> exact absurd h (by decide)

theorem Ended.noExponent {rest : List Char} (h : Ended rest) : exponentPart rest = [] := by
  unfold exponentPart
  refine if_neg fun he => ?_
  rcases he.1 with he | he <;> rcases h _ he with h | h | h | h <;> exact absurd h (by decide)

theorem toDigits_cons (n : Nat) : ∃ c digits, Nat.toDigits 10 n = c :: digits ∧ c.isDigit = true := by
  cases h : Nat.toDigits 10 n with
  | nil => exact absurd h Nat.toDigits_ne_nil
  | cons c digits =>
    exact ⟨c, digits, rfl, Nat.isDigit_of_mem_toDigits (by decide) (by decide) (h ▸ List.mem_cons_self)⟩

theorem parseNumber_renderInt {n : Int} (hn : (Nat.toDigits 10 n.natAbs).length ≤ maxDigits) {rest : List Char}
    (h : Ended rest) : parseNumber (renderInt n ++ rest) = some (.int n, rest) := by
  unfold renderInt parseNumber
  by_cases hneg : n < 0
  · rw [if_pos hneg]
    have hwhole := wholePart_toDigits n.natAbs h
    simp only [List.cons_append, List.head?_cons, if_true, List.length_singleton,
      hwhole, Nat.add_comm 1, List.drop_succ_cons, List.drop_left, h.noFraction, List.length_nil, List.drop_zero,
      h.noExponent, List.append_nil, if_neg (Nat.toDigits_ne_nil), if_pos hn, Nat.ofDigitChars_ten_toDigits]
    rw [if_neg (List.cons_ne_nil _ _)]
    exact congrArg (fun m => some (Json.int m, rest)) (by omega)
  · rw [if_neg hneg]
    obtain ⟨c, digits, hcons, hc⟩ := toDigits_cons n.natAbs
    have hsign : (Nat.toDigits 10 n.natAbs ++ rest).head? ≠ some '-' := by
      rw [hcons, List.cons_append, List.head?_cons]
      rintro ⟨⟩
      exact absurd hc (by decide)
    have hwhole := wholePart_toDigits n.natAbs h
    simp only [if_neg hsign, List.length_nil, List.drop_zero, hwhole, Nat.zero_add, List.drop_left, h.noFraction,
      h.noExponent, List.append_nil, if_neg (Nat.toDigits_ne_nil), if_pos hn, if_true, Nat.ofDigitChars_ten_toDigits]
    exact congrArg (fun m => some (Json.int m, rest)) (by omega)

/-! ## Strings -/

theorem hexValue_digitChar {n : Nat} (h : n < 16) : hexValue n.digitChar = some n := by
  have key : ∀ n : Fin 16, hexValue n.val.digitChar = some n.val := by decide
  exact key ⟨n, h⟩

theorem parseUnits_escape (c : Char) (rest : List Char) :
    parseUnits (escape c ++ rest) = (parseUnits rest).map fun p => (c.toNat :: p.1, p.2) := by
  unfold escape
  split_ifs with h₁ h₂ h₃ h₄ h₅ h₆ h₇ h₈
  · subst h₁; rw [List.cons_append, parseUnits.eq_def]; rfl
  · subst h₂; rw [List.cons_append, parseUnits.eq_def]; rfl
  · subst h₃; rw [List.cons_append, parseUnits.eq_def]; rfl
  · subst h₄; rw [List.cons_append, parseUnits.eq_def]; rfl
  · subst h₅; rw [List.cons_append, parseUnits.eq_def]; rfl
  · subst h₆; rw [List.cons_append, parseUnits.eq_def]; rfl
  · subst h₇; rw [List.cons_append, parseUnits.eq_def]; rfl
  · have hhex : hexValue₄ '0' '0' (Nat.digitChar (c.toNat / 16)) (Nat.digitChar (c.toNat % 16)) = some c.toNat := by
      unfold hexValue₄
      rw [hexValue_digitChar (by omega), hexValue_digitChar (Nat.mod_lt _ (by decide))]
      show some (0 * 4096 + 0 * 256 + c.toNat / 16 * 16 + c.toNat % 16) = some c.toNat
      exact congrArg some (by omega)
    simp only [List.cons_append, List.nil_append]
    rw [parseUnits.eq_def]
    simp only [hhex, Option.bind_some, if_true, Char.reduceEq, if_false]
  · rw [List.singleton_append, parseUnits.eq_def]
    simp only [if_neg h₁, if_neg h₂, if_neg h₈]

theorem parseUnits_escaped (text rest : List Char) :
    parseUnits (text.flatMap escape ++ '"' :: rest) = some (text.map Char.toNat, rest) := by
  induction text with
  | nil => rw [List.flatMap_nil, List.nil_append, parseUnits.eq_def]; rfl
  | cons c text ih => rw [List.flatMap_cons, List.append_assoc, parseUnits_escape, ih]; rfl

theorem parseString_quoted (s : String) (rest : List Char) :
    parseString (s.toList.flatMap escape ++ '"' :: rest) = some (s, rest) := by
  unfold parseString
  rw [parseUnits_escaped, Option.map_some, joinSurrogates_toNat, String.ofList_toList]

/-! ## Values -/

mutual

/-- Objects have no key twice, and there is no number with a fraction or an exponent. -/
def Json.Plain : Json → Prop
  | .float _ => False
  | .array items => PlainItems items
  | .object fields => (fields.map (·.1)).Nodup ∧ PlainFields fields
  | _ => True

def PlainItems : List Json → Prop
  | [] => True
  | v :: vs => v.Plain ∧ PlainItems vs

def PlainFields : List (String × Json) → Prop
  | [] => True
  | (_, v) :: fields => v.Plain ∧ PlainFields fields

end

theorem Json.render_cons {v : Json} (h : v.Plain) :
    ∃ c text, v.render = c :: text ∧ isSpace c = false ∧ c ≠ ']' := by
  cases v with
  | null => exact ⟨_, _, rfl, rfl, by decide⟩
  | bool b => cases b <;> exact ⟨_, _, rfl, rfl, by decide⟩
  | int n =>
    unfold Json.render renderInt
    split_ifs with hn
    · exact ⟨_, _, rfl, rfl, by decide⟩
    · obtain ⟨c, digits, hcons, hc⟩ := toDigits_cons n.natAbs
      refine ⟨c, digits, hcons, ?_, by rintro rfl; exact absurd hc (by decide)⟩
      by_contra hspace
      simp only [isSpace, Bool.not_eq_false, Bool.or_eq_true, decide_eq_true_eq] at hspace
      rcases hspace with ((rfl | rfl) | rfl) | rfl <;> exact absurd hc (by decide)
  | float literal => exact h.elim
  | string s => exact ⟨_, _, rfl, rfl, by decide⟩
  | array items => cases items <;> exact ⟨_, _, rfl, rfl, by decide⟩
  | object fields => rcases fields with _ | ⟨⟨k, v⟩, fields⟩ <;> exact ⟨_, _, rfl, rfl, by decide⟩

theorem skipSpace_cons {c : Char} (h : isSpace c = false) (text : List Char) : skipSpace (c :: text) = c :: text := by
  rw [skipSpace, List.dropWhile_cons, h]; rfl

theorem skipSpace_render {v : Json} (h : v.Plain) (rest : List Char) :
    skipSpace (v.render ++ rest) = v.render ++ rest := by
  obtain ⟨c, text, hcons, hc, -⟩ := v.render_cons h
  rw [hcons, List.cons_append, skipSpace_cons hc]

theorem ended_renderItems (vs : List Json) (rest : List Char) : Ended (renderItems vs ++ rest) := by
  cases vs <;> rintro c ⟨⟩ <;> simp

theorem ended_renderFields (fields : List (String × Json)) (rest : List Char) :
    Ended (renderFields fields ++ rest) := by
  rcases fields with _ | ⟨⟨k, v⟩, fields⟩ <;> rintro c ⟨⟩ <;> simp

theorem skipSpace_space (text : List Char) : skipSpace (' ' :: text) = skipSpace text := by
  rw [skipSpace, List.dropWhile_cons]; rfl

theorem parseKey_quoted (k : String) {text rest : List Char} (h : skipSpace text = rest) :
    parseKey (quoted k ++ ':' :: ' ' :: text) = some (k, rest) := by
  have hstring := parseString_quoted k (':' :: ' ' :: text)
  have hcolon : skipSpace (':' :: ' ' :: text) = ':' :: ' ' :: text := skipSpace_cons rfl _
  unfold quoted
  rw [List.cons_append, List.append_assoc, List.singleton_append, parseKey, hstring]
  simp only [Option.bind_some, hcolon, skipSpace_space, h]

theorem dictOf_nodup {α : Type} {pairs : List (String × α)} (h : (pairs.map (·.1)).Nodup) : dictOf pairs = pairs := by
  have key : ∀ pairs d : List (String × α), ((d ++ pairs).map (·.1)).Nodup →
      pairs.foldl (fun d p => setKey d p.1 p.2) d = d ++ pairs := by
    intro pairs
    induction pairs with
    | nil => intro d _; rw [List.foldl_nil, List.append_nil]
    | cons p pairs ih =>
      intro d hd
      have hnew : p.1 ∉ d.map (·.1) := by
        rw [List.map_append, List.nodup_append] at hd
        exact fun hmem => hd.2.2 _ hmem p.1 (by simp) rfl
      rw [List.foldl_cons, setKey_new hnew, ih _ (by simpa using hd), List.append_assoc, List.singleton_append]
  exact key pairs [] h

theorem parseScalar_number {text : List Char} (h : ∃ c rest, text = c :: rest ∧ (c.isDigit = true ∨ c = '-'))
    (hminus : text.head? = some '-' → text.tail.head? ≠ some 'I') : parseScalar text = parseNumber text := by
  obtain ⟨c, rest, rfl, hc⟩ := h
  have hword : ∀ w : List Char, ∀ d word, w = d :: word → d.isDigit = false → d ≠ '-' →
      afterWord w (c :: rest) = none := by
    rintro _ d word rfl hd hminus
    unfold afterWord
    refine if_neg fun hpre => ?_
    rw [List.isPrefixOf_cons_cons, Bool.and_eq_true, beq_iff_eq] at hpre
    rcases hc with hc | hc
    · rw [← hpre.1, hd] at hc; exact Bool.false_ne_true hc
    · exact hminus (hpre.1.trans hc)
  have hinfinity : afterWord "-Infinity".toList (c :: rest) = none := by
    have hchars : "-Infinity".toList = '-' :: 'I' :: "nfinity".toList := rfl
    unfold afterWord
    rw [hchars]
    refine if_neg fun hpre => ?_
    cases rest with
    | nil => rw [List.isPrefixOf_cons_cons, Bool.and_eq_true] at hpre; exact absurd hpre.2 (by simp)
    | cons d rest =>
      simp only [List.isPrefixOf_cons_cons, Bool.and_eq_true, beq_iff_eq] at hpre
      obtain ⟨rfl, rfl, -⟩ := hpre
      exact hminus rfl rfl
  unfold parseScalar
  rw [hword "null".toList 'n' _ rfl rfl (by decide), hword "true".toList 't' _ rfl rfl (by decide),
    hword "false".toList 'f' _ rfl rfl (by decide), hword "NaN".toList 'N' _ rfl rfl (by decide),
    hword "Infinity".toList 'I' _ rfl rfl (by decide), hinfinity]

theorem parseScalar_renderInt {n : Int} (hn : (Nat.toDigits 10 n.natAbs).length ≤ maxDigits) {rest : List Char}
    (h : Ended rest) : parseScalar (renderInt n ++ rest) = some (.int n, rest) := by
  rw [← parseNumber_renderInt hn h]
  obtain ⟨c, digits, hcons, hc⟩ := toDigits_cons n.natAbs
  refine parseScalar_number ?_ fun hminus => ?_
  · unfold renderInt
    split_ifs with hneg
    · exact ⟨_, _, rfl, .inr rfl⟩
    · exact ⟨c, digits ++ rest, by rw [hcons]; rfl, .inl hc⟩
  · unfold renderInt at hminus ⊢
    split_ifs at hminus ⊢ with hneg
    · rw [hcons, List.cons_append, List.tail_cons, List.cons_append, List.head?_cons]
      rintro ⟨⟩
      exact absurd hc (by decide)
    · rw [hcons, List.cons_append, List.head?_cons] at hminus
      cases hminus
      exact absurd hc (by decide)

theorem afterWord_append (word rest : List Char) : afterWord word (word ++ rest) = some rest := by
  unfold afterWord
  rw [if_pos (List.isPrefixOf_iff_prefix.2 (List.prefix_append _ _)), List.drop_left]

mutual

/-- **A plain value is read back from its text.** -/
theorem parseValue_render : ∀ (v : Json) (fuel : Nat) (rest : List Char), v.Plain → v.printable = true → Ended rest →
    (v.render ++ rest).length < fuel → parseValue fuel (v.render ++ rest) = some (v, rest)
  | v, 0, _, _, _, _, hfuel => absurd hfuel (Nat.not_lt_zero _)
  | .null, _ + 1, _, _, _, _, _ => rfl
  | .bool true, _ + 1, _, _, _, _, _ => rfl
  | .bool false, _ + 1, _, _, _, _, _ => rfl
  | .int n, fuel + 1, rest, _, hn, hrest, _ => by
    have h := parseScalar_renderInt (of_decide_eq_true hn) hrest
    have hcons : ∃ c text, renderInt n ++ rest = c :: text ∧ (c.isDigit = true ∨ c = '-') := by
      obtain ⟨c, digits, hcons, hc⟩ := toDigits_cons n.natAbs
      unfold renderInt
      split_ifs
      · exact ⟨_, _, rfl, .inr rfl⟩
      · exact ⟨c, digits ++ rest, by rw [hcons]; rfl, .inl hc⟩
    show parseValue (fuel + 1) (renderInt n ++ rest) = _
    obtain ⟨c, text, hcons, hc⟩ := hcons
    have hother : c ≠ '"' ∧ c ≠ '[' ∧ c ≠ '{' := by
      refine ⟨?_, ?_, ?_⟩ <;> (rintro rfl; exact absurd hc (by decide))
    rw [hcons] at h ⊢
    rw [parseValue, if_neg hother.1, if_neg hother.2.1, if_neg hother.2.2, h]
  | .float _, _ + 1, _, h, _, _, _ => h.elim
  | .string s, fuel + 1, rest, _, _, _, _ => by
    show parseValue (fuel + 1) (quoted s ++ rest) = _
    have h := parseString_quoted s rest
    unfold quoted
    rw [List.cons_append, List.append_assoc, List.singleton_append, parseValue, if_pos rfl, h]; rfl
  | .array [], _ + 1, _, _, _, _, _ => rfl
  | .array (v :: vs), fuel + 1, rest, h, hprint, _, hfuel => by
    rw [Json.render, List.cons_append, List.append_assoc] at hfuel ⊢
    rw [Json.printable, printableItems, Bool.and_eq_true] at hprint
    rw [List.length_cons, Nat.add_lt_add_iff_right] at hfuel
    have hv := parseValue_render v fuel (renderItems vs ++ rest) h.1 hprint.1 (ended_renderItems vs rest) hfuel
    have hvs := parseItems_render vs fuel rest h.2 hprint.2 (by rw [List.length_append] at hfuel; omega)
    obtain ⟨c, text, hcons, hc, hc'⟩ := v.render_cons h.1
    rw [parseValue, if_neg (by decide), if_pos rfl, skipSpace_render h.1]
    rw [hcons, List.cons_append] at hv ⊢
    split
    · next hclose => exact absurd (List.cons.inj hclose).1 hc'
    · simp only [hv, Option.bind_some, hvs, Option.map_some]
  | .object [], _ + 1, _, _, _, _, _ => rfl
  | .object ((k, v) :: fields), fuel + 1, rest, h, hprint, _, hfuel => by
    rw [Json.render, List.cons_append, List.append_assoc, List.cons_append, List.cons_append,
      List.append_assoc] at hfuel ⊢
    rw [Json.printable, printableFields, Bool.and_eq_true] at hprint
    rw [List.length_cons, Nat.add_lt_add_iff_right, List.length_append, List.length_cons, List.length_cons] at hfuel
    have hv := parseValue_render v fuel (renderFields fields ++ rest) h.2.1 hprint.1 (ended_renderFields fields rest)
      (by omega)
    have hfields := parseFields_render fields fuel rest h.2.2 hprint.2 (by rw [List.length_append] at hfuel; omega)
    have hkey := parseKey_quoted k (skipSpace_render h.2.1 (renderFields fields ++ rest))
    have hquoted : ∃ text, quoted k = '"' :: text := ⟨_, rfl⟩
    obtain ⟨text, hquoted⟩ := hquoted
    rw [hquoted, List.cons_append] at hkey ⊢
    rw [parseValue, if_neg (by decide), if_neg (by decide), if_pos rfl, skipSpace_cons rfl]
    split
    · next hclose => exact absurd (List.cons.inj hclose).1 (by decide)
    · simp only [hkey, Option.bind_some, hv, hfields, Option.map_some]
      rw [dictOf_nodup h.1]

theorem parseItems_render : ∀ (vs : List Json) (fuel : Nat) (rest : List Char), PlainItems vs →
    printableItems vs = true → (renderItems vs ++ rest).length < fuel →
    parseItems fuel (renderItems vs ++ rest) = some (vs, rest)
  | _, 0, _, _, _, hfuel => absurd hfuel (Nat.not_lt_zero _)
  | [], _ + 1, _, _, _, _ => rfl
  | v :: vs, fuel + 1, rest, h, hprint, hfuel => by
    rw [renderItems, List.cons_append, List.cons_append, List.append_assoc] at hfuel ⊢
    rw [printableItems, Bool.and_eq_true] at hprint
    rw [List.length_cons, Nat.add_lt_add_iff_right, List.length_cons] at hfuel
    have hv := parseValue_render v fuel (renderItems vs ++ rest) h.1 hprint.1 (ended_renderItems vs rest) (by omega)
    have hvs := parseItems_render vs fuel rest h.2 hprint.2 (by rw [List.length_append] at hfuel; omega)
    rw [parseItems, skipSpace_cons rfl]
    simp only [skipSpace_space, skipSpace_render h.1, hv, Option.bind_some, hvs, Option.map_some]

theorem parseFields_render : ∀ (fields : List (String × Json)) (fuel : Nat) (rest : List Char), PlainFields fields →
    printableFields fields = true → (renderFields fields ++ rest).length < fuel →
    parseFields fuel (renderFields fields ++ rest) = some (fields, rest)
  | _, 0, _, _, _, hfuel => absurd hfuel (Nat.not_lt_zero _)
  | [], _ + 1, _, _, _, _ => rfl
  | (k, v) :: fields, fuel + 1, rest, h, hprint, hfuel => by
    rw [renderFields, List.cons_append, List.cons_append, List.append_assoc, List.cons_append, List.cons_append,
      List.append_assoc] at hfuel ⊢
    rw [printableFields, Bool.and_eq_true] at hprint
    rw [List.length_cons, Nat.add_lt_add_iff_right, List.length_cons, List.length_append, List.length_cons,
      List.length_cons] at hfuel
    have hv := parseValue_render v fuel (renderFields fields ++ rest) h.1 hprint.1 (ended_renderFields fields rest)
      (by omega)
    have hfields := parseFields_render fields fuel rest h.2 hprint.2 (by rw [List.length_append] at hfuel; omega)
    have hkey := parseKey_quoted k (skipSpace_render h.1 (renderFields fields ++ rest))
    have hquoted : ∃ text, quoted k = '"' :: text := ⟨_, rfl⟩
    obtain ⟨text, hquoted⟩ := hquoted
    rw [hquoted, List.cons_append] at hkey ⊢
    rw [parseFields, skipSpace_cons rfl]
    simp only [skipSpace_space]
    rw [skipSpace_cons rfl]
    simp only [hkey, Option.bind_some, hv, hfields, Option.map_some]

end

/-! ## Keys in order -/

theorem sortFields_eq (fields : List (String × Json)) :
    sortFields fields = fields.map fun p => (p.1, p.2.sortKeys) := by
  induction fields with
  | nil => rfl
  | cons p fields ih => rw [sortFields, List.map_cons, ih]

theorem map_sortFields (fields : List (String × Json)) : (sortFields fields).map (·.1) = fields.map (·.1) := by
  rw [sortFields_eq, List.map_map]; rfl

theorem getKey_sortFields (fields : List (String × Json)) (k : String) :
    getKey (sortFields fields) k = (getKey fields k).map Json.sortKeys := by
  unfold getKey
  induction fields with
  | nil => rfl
  | cons p fields ih =>
    rw [sortFields, List.find?_cons, List.find?_cons]
    cases p.1 == k
    · exact ih
    · rfl

theorem Json.get?_sortKeys {fields : List (String × Json)} (h : (fields.map (·.1)).Nodup) (k : String) :
    (Json.object fields).sortKeys.get? k = (getKey fields k).map Json.sortKeys := by
  rw [Json.sortKeys, Json.get?_object, getKey_perm (by rwa [map_sortFields]) (List.perm_insertionSort _ _),
    getKey_sortFields]

theorem plainFields_iff {fields : List (String × Json)} : PlainFields fields ↔ ∀ p ∈ fields, p.2.Plain := by
  induction fields with
  | nil => simp [PlainFields]
  | cons p fields ih => rw [PlainFields, ih, List.forall_mem_cons]

theorem printableFields_iff {fields : List (String × Json)} :
    printableFields fields = true ↔ ∀ p ∈ fields, p.2.printable = true := by
  induction fields with
  | nil => simp [printableFields]
  | cons p fields ih => rw [printableFields, Bool.and_eq_true, ih, List.forall_mem_cons]

mutual

theorem Json.Plain.sortKeys : ∀ {v : Json}, v.Plain → v.sortKeys.Plain
  | .null, _ | .bool _, _ | .int _, _ | .string _, _ => trivial
  | .array _, h => PlainItems.sortItems h
  | .object fields, h => by
    have hperm := List.perm_insertionSort (keyLe · ·) (sortFields fields)
    refine ⟨(hperm.map _).nodup_iff.2 (by rw [map_sortFields]; exact h.1), plainFields_iff.2 fun p hp => ?_⟩
    exact plainFields_iff.1 (PlainFields.sortFields h.2) p (hperm.mem_iff.1 hp)

theorem PlainItems.sortItems : ∀ {vs : List Json}, PlainItems vs → PlainItems (sortItems vs)
  | [], _ => trivial
  | _ :: _, h => ⟨h.1.sortKeys, PlainItems.sortItems h.2⟩

theorem PlainFields.sortFields : ∀ {fields : List (String × Json)}, PlainFields fields → PlainFields (sortFields fields)
  | [], _ => trivial
  | _ :: _, h => ⟨h.1.sortKeys, PlainFields.sortFields h.2⟩

end

mutual

theorem Json.printable_sortKeys : ∀ {v : Json}, v.printable = true → v.sortKeys.printable = true
  | .null, h | .bool _, h | .int _, h | .float _, h | .string _, h => h
  | .array _, h => printableItems_sortItems h
  | .object fields, h => by
    have hperm := List.perm_insertionSort (keyLe · ·) (sortFields fields)
    refine printableFields_iff.2 fun p hp => ?_
    exact printableFields_iff.1 (printableFields_sortFields h) p (hperm.mem_iff.1 hp)

theorem printableItems_sortItems : ∀ {vs : List Json}, printableItems vs = true → printableItems (sortItems vs) = true
  | [], _ => rfl
  | v :: vs, h => by
    rw [printableItems, Bool.and_eq_true] at h
    rw [sortItems, printableItems, Json.printable_sortKeys h.1, printableItems_sortItems h.2]; rfl

theorem printableFields_sortFields : ∀ {fields : List (String × Json)}, printableFields fields = true →
    printableFields (sortFields fields) = true
  | [], _ => rfl
  | (_, v) :: fields, h => by
    rw [printableFields, Bool.and_eq_true] at h
    rw [sortFields, printableFields, Json.printable_sortKeys h.1, printableFields_sortFields h.2]; rfl

end

/-! ## Bytes -/

theorem parseText_render {v : Json} (h : v.Plain) (hprint : v.printable = true) :
    parseText (v.render ++ ['\n']) = some v := by
  have hend : Ended ['\n'] := by rintro c ⟨⟩; simp
  have hv := parseValue_render v ((v.render ++ ['\n']).length + 1) ['\n'] h hprint hend (Nat.lt_succ_self _)
  unfold parseText
  rw [skipSpace_render h, hv]
  rfl

/-- **The bytes of a printed object are read as the object with its keys in order.** -/
theorem loads_dumps {fields : List (String × Json)} {text : List Char} (h : (Json.object fields).Plain)
    (hdumps : dumps (.object fields) = some text) :
    loads (utf8Encode (text ++ ['\n'])) = some (Json.object fields).sortKeys := by
  unfold dumps at hdumps
  split_ifs at hdumps with hprint
  cases hdumps
  have hparse := parseText_render h.sortKeys (Json.printable_sortKeys hprint)
  have hstart : ∃ d rest, (Json.object fields).sortKeys.render ++ ['\n'] = '{' :: d :: rest ∧
      0 < d.toNat ∧ d.toNat < 0x80 := by
    rw [Json.sortKeys]
    rcases (sortFields fields).insertionSort (keyLe · ·) with _ | ⟨⟨k, v⟩, rest⟩
    · exact ⟨'}', _, rfl, by decide⟩
    · exact ⟨'"', _, rfl, by decide⟩
  obtain ⟨d, rest, hcons, hd⟩ := hstart
  unfold loads
  rw [hcons] at hparse ⊢
  rw [decodeText_encode (by decide) hd, Option.bind_some, hparse]

end Formats
