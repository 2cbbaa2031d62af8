import PageBehaviors.Json.Quotation
import PageBehaviors.Proofs.Json.Grammar

/-!
# Reading strings

Whatever way the characters of a string are spelled, reading gives the characters, and what follows
the closing quote is left.  Skipping leaves the same, although it may see other characters: it does
not put the halves of a surrogate pair together.

## Main statements

* `Json.parse_readHex`, `Json.parse_readCodePoint_of_spelled` — the numbers of escaped characters.
* `Json.parse_readString_of_quotes`, `Json.parse_skipString_of_quotes` — whole strings.
-/

namespace PageBehaviors.Json

/-! ### Numbers of characters -/

theorem hexDigit?_of_hexDigit {value : Nat} {digit : Char} (h : HexDigit value digit) :
    hexDigit? digit = some value := by
  have both : ∀ v < 16, hexDigit? (Nat.digitChar v) = some v ∧
      hexDigit? (Nat.digitChar v).toUpper = some v := by
    decide
  obtain ⟨hvalue, rfl | rfl⟩ := h
  · exact (both value hvalue).1
  · exact (both value hvalue).2

theorem parse_readHex {n : Nat} {digits : List Char} (h : FourHexDigits n digits)
    (rest : List Char) : parse readHex (digits ++ rest) = .ok (n, rest) := by
  cases h with
  | @mk a b c d w x y z ha hb hc hd =>
      have hvalue : hexValue? [w, x, y, z] = some (((a * 16 + b) * 16 + c) * 16 + d) := by
        simp only [hexValue?, List.foldl_cons, List.foldl_nil, hexDigit?_of_hexDigit ha,
          hexDigit?_of_hexDigit hb, hexDigit?_of_hexDigit hc, hexDigit?_of_hexDigit hd,
          Option.bind_some, Option.map_some, Option.some.injEq]
        omega
      rw [List.cons_append, List.cons_append, List.cons_append, List.cons_append,
        List.nil_append, parse_readHex_cons, hvalue]

theorem isHighSurrogate_iff {n : Nat} : isHighSurrogate n = true ↔ 0xd800 ≤ n ∧ n ≤ 0xdbff := by
  simp only [isHighSurrogate, decide_eq_true_eq]
  omega

theorem isLowSurrogate_iff {n : Nat} : isLowSurrogate n = true ↔ 0xdc00 ≤ n ∧ n ≤ 0xdfff := by
  simp only [isLowSurrogate, decide_eq_true_eq]
  omega

theorem parse_readCodePoint_of_spelled {c : Char} {code : List Char} (h : CodePoint c code)
    (rest : List Char) : parse readCodePoint (code ++ rest) = .ok (c, rest) := by
  rw [parse_readCodePoint]
  cases h with
  | @single n digits spelled scalar =>
      have notLow : ¬ isLowSurrogate n = true := by
        rw [isLowSurrogate_iff]
        omega
      have notHigh : ¬ isHighSurrogate n = true := by
        rw [isHighSurrogate_iff]
        omega
      simp only [parse_readHex spelled, if_neg notLow, if_neg notHigh]
  | @pair high low first second spelled isHigh spelled' isLow =>
      have notLow : ¬ isLowSurrogate high = true := by
        rw [isLowSurrogate_iff]
        omega
      simp only [List.append_assoc, List.cons_append, parse_readHex spelled, if_neg notLow,
        if_pos (isHighSurrogate_iff.mpr isHigh), parse_readLowSurrogate, parse_readWord_cons_cons,
        if_true, parse_readWord_nil, parse_readHex spelled', if_pos (isLowSurrogate_iff.mpr isLow)]
      rfl

/-! ### Escapes -/

theorem shortEscape?_of_letter {l c : Char} (h : (l, c) ∈ letterEscapes) :
    shortEscape? l = some c := by
  have all : ∀ entry ∈ letterEscapes, shortEscape? entry.1 = some entry.2 := by decide
  exact all (l, c) h

theorem parse_readEscapeWith_letter {code : (s : List Char) → Reading Char s.length} {l c : Char}
    (h : (l, c) ∈ letterEscapes) (rest : List Char) :
    parse (readEscapeWith code) (l :: rest) = .ok (c, rest) := by
  rw [parse_readEscapeWith_cons, shortEscape?_of_letter h]

theorem parse_readEscapeWith_code (code : (s : List Char) → Reading Char s.length)
    (s : List Char) : parse (readEscapeWith code) ('u' :: s) = parse code s := by
  rw [parse_readEscapeWith_cons]
  rfl

/-- An escape that is skipped by its number may be any four digits. -/
theorem parse_skipEscape_code {n : Nat} {digits : List Char} (h : FourHexDigits n digits)
    (rest : List Char) :
    parse skipEscape ('u' :: (digits ++ rest)) = .ok (Char.ofNat n, rest) := by
  rw [parse_skipEscape, parse_readEscapeWith_code]
  have hread := parse_readHex h rest
  simp only [parse] at hread ⊢
  rw [Reading.result_map, hread]
  rfl

/-! ### Whole strings -/

section

variable {escape : (s : List Char) → Reading Char s.length} {control : Nat}

theorem parse_readCharacters_quote (rest : List Char) :
    parse (readCharacters escape control) ('"' :: rest) = .ok ([], rest) := by
  rw [parse_readCharacters_cons]
  rfl

theorem parse_readCharacters_plain {c : Char} (quote : c ≠ '"') (backslash : c ≠ '\\')
    (hcontrol : 0x20 ≤ c.toNat) {s rest chars : List Char}
    (h : parse (readCharacters escape control) s = .ok (chars, rest)) :
    parse (readCharacters escape control) (c :: s) = .ok (c :: chars, rest) := by
  rw [parse_readCharacters_cons, if_neg quote, if_neg backslash,
    if_neg (Nat.not_lt.mpr hcontrol), h]
  rfl

theorem parse_readCharacters_escape {s next rest chars : List Char} {c : Char}
    (hescape : parse escape s = .ok (c, next))
    (h : parse (readCharacters escape control) next = .ok (chars, rest)) :
    parse (readCharacters escape control) ('\\' :: s) = .ok (c :: chars, rest) := by
  rw [parse_readCharacters_cons, if_neg (by decide), if_pos rfl]
  simp only [hescape, h]
  rfl

end

theorem parse_readCharacters_of_characters {chars text : List Char} (h : Characters chars text)
    (control : Nat) (rest : List Char) :
    parse (readCharacters readEscape control) (text ++ '"' :: rest) = .ok (chars, rest) := by
  induction h with
  | nil => exact parse_readCharacters_quote rest
  | plain quote backslash hcontrol _ ih =>
      exact parse_readCharacters_plain quote backslash hcontrol ih
  | letter escape _ ih =>
      exact parse_readCharacters_escape (parse_readEscapeWith_letter escape _) ih
  | @code c chars code text spelled _ ih =>
      rw [List.cons_append, List.cons_append, List.append_assoc]
      refine parse_readCharacters_escape ?_ ih
      rw [parse_readEscape, parse_readEscapeWith_code, parse_readCodePoint_of_spelled spelled]

/-- What is skipped need not be the characters: a surrogate pair is skipped half by half. -/
theorem exists_parse_skipCharacters {chars text : List Char} (h : Characters chars text)
    (control : Nat) (rest : List Char) :
    ∃ seen, parse (readCharacters skipEscape control) (text ++ '"' :: rest) =
      .ok (seen, rest) := by
  induction h with
  | nil => exact ⟨_, parse_readCharacters_quote rest⟩
  | plain quote backslash hcontrol _ ih =>
      obtain ⟨seen, hseen⟩ := ih
      exact ⟨_, parse_readCharacters_plain quote backslash hcontrol hseen⟩
  | letter escape _ ih =>
      obtain ⟨seen, hseen⟩ := ih
      exact ⟨_, parse_readCharacters_escape (parse_readEscapeWith_letter escape _) hseen⟩
  | code spelled _ ih =>
      obtain ⟨seen, hseen⟩ := ih
      rw [List.cons_append, List.cons_append, List.append_assoc]
      cases spelled with
      | single spelled scalar =>
          exact ⟨_, parse_readCharacters_escape (parse_skipEscape_code spelled _) hseen⟩
      | pair spelled isHigh spelled' isLow =>
          rw [List.append_assoc, List.cons_append, List.cons_append]
          have hsecond := parse_readCharacters_escape (parse_skipEscape_code spelled' _) hseen
          exact ⟨_, parse_readCharacters_escape (parse_skipEscape_code spelled _) hsecond⟩

variable {s : String} {token : Token}

/-- **Reading a string** gives the string that its token stands for. -/
theorem parse_readString_of_quotes (h : Quotes s token) :
    ∃ inside, token = '"' :: inside ∧
      ∀ rest, parse readString (inside ++ rest) = .ok (s, rest) := by
  obtain ⟨text, characters, rfl⟩ := h
  refine ⟨text ++ ['"'], rfl, fun rest => ?_⟩
  rw [List.append_assoc, parse_readString]
  show Except.map _ (parse _ (text ++ '"' :: rest)) = _
  rw [parse_readCharacters_of_characters characters]
  simp [Except.map]

/-- **Skipping a string** leaves what follows its token. -/
theorem parse_skipString_of_quotes (h : Quotes s token) :
    ∃ inside, token = '"' :: inside ∧
      ∀ rest, parse skipString (inside ++ rest) = .ok ((), rest) := by
  obtain ⟨text, characters, rfl⟩ := h
  refine ⟨text ++ ['"'], rfl, fun rest => ?_⟩
  obtain ⟨seen, hseen⟩ := exists_parse_skipCharacters characters 0 rest
  rw [List.append_assoc, parse_skipString]
  show Except.map _ (parse _ (text ++ '"' :: rest)) = _
  rw [hseen]
  rfl

end PageBehaviors.Json
