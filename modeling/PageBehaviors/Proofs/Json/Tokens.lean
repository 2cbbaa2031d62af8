import Mathlib.Tactic.IntervalCases
import PageBehaviors.Proofs.Json.Syntax

/-!
# What is read off the front of a text

A reader of a number or a string gives a result only where a number or a string stands, and leaves
what comes after it.  This does not ask what the text as a whole is: each reader is followed part
by part, and a part that breaks off or that is misspelt gives no result.

## Main definitions and statements

* `Json.ReadsOnly` — all that a reader reads has a given form.
* `Json.readsOnly_readWord`, `Json.readsOnly_readNumeral` — words and numbers.
* `Json.readsOnly_readString`, `Json.readsOnly_skipString` — strings that are kept and strings that
  are skipped.
-/

namespace PageBehaviors.Json

/-- What a reader reads off the front of a text has the given form, and the rest is left. -/
def ReadsOnly {α : Type} {bound : List Char → Nat} (reader : (s : List Char) → Reading α (bound s))
    (form : List Char → Prop) : Prop :=
  ∀ ⦃s rest value⦄, parse reader s = .ok (value, rest) → ∃ text, form text ∧ s = text ++ rest

/-- A result whose value has been changed goes back to one that leaves the same rest. -/
theorem exists_of_map {α β : Type} {f : α × List Char → β × List Char}
    {parsed : Except Failure (α × List Char)} {value : β} {rest : List Char}
    (h : parsed.map f = .ok (value, rest)) (hrest : ∀ taken, (f taken).2 = taken.2) :
    ∃ result, parsed = .ok (result, rest) ∧ f (result, rest) = (value, rest) := by
  cases parsed with
  | error failure => cases h
  | ok taken =>
      have heq : f taken = (value, rest) := Except.ok.inj h
      obtain rfl : taken.2 = rest := (hrest taken).symm.trans (congrArg Prod.snd heq)
      exact ⟨taken.1, rfl, heq⟩

/-! ### Words -/

theorem readsOnly_readWord (atEnd other : Problem) (word : List Char) :
    ReadsOnly (readWord atEnd other word) (· = word) := by
  intro s rest value h
  refine ⟨word, rfl, ?_⟩
  induction word generalizing s with
  | nil => simpa using h
  | cons w word ih =>
      cases s with
      | nil => simp at h
      | cons c s =>
          rw [parse_readWord_cons_cons] at h
          split at h
          next heq => rw [heq, ih h, List.cons_append]
          next => cases h

/-- A word of which the first letter has been seen already. -/
theorem eq_append_of_readIdentifier {c : Char} {letters : String} {word s rest : List Char}
    {value : Unit} (hword : c :: letters.toList = word)
    (h : parse (readIdentifier letters) s = .ok (value, rest)) : c :: s = word ++ rest := by
  obtain ⟨_, rfl, hs⟩ := readsOnly_readWord _ _ _ h
  rw [hs, ← hword, List.cons_append]

/-! ### Numbers -/

theorem isDigit_of_mem_leadingDigits {s : List Char} : ∀ c ∈ leadingDigits s, c.isDigit = true :=
  List.all_eq_true.mp List.all_takeWhile

theorem isDigits_leadingDigits {s : List Char} (h : leadingDigits s ≠ []) :
    IsDigits (leadingDigits s) :=
  ⟨h, isDigit_of_mem_leadingDigits⟩

namespace Numeral

variable {atEnd : Problem} {s rest digits : List Char} {exponent : Option (Bool × List Char)}

theorem wholePart_of_parse (h : parse (readWhole atEnd) s = .ok (digits, rest)) :
    WholePart digits ∧ s = digits ++ rest := by
  cases s with
  | nil => simp at h
  | cons c s =>
      rw [parse_readWhole_cons] at h
      split at h
      next hzero =>
        split at h
        next =>
          cases h
          exact ⟨Or.inl rfl, by rw [hzero, List.singleton_append]⟩
        next => cases h
      next hzero =>
        split at h
        next hdigit =>
          cases h
          refine ⟨Or.inr ⟨⟨nofun, ?_⟩, ?_⟩, ?_⟩
          · exact List.forall_mem_cons.mpr ⟨hdigit, isDigit_of_mem_leadingDigits⟩
          · simpa using hzero
          · rw [List.cons_append, leadingDigits_append_afterDigits]
        next => cases h

theorem fractionPart_of_parse (h : parse (readFraction atEnd) s = .ok (digits, rest)) :
    ∃ text, FractionPart digits text ∧ s = text ++ rest := by
  cases s with
  | nil =>
      cases (parse_readFraction_nil atEnd).symm.trans h
      exact ⟨[], .absent, rfl⟩
  | cons c s =>
      rw [parse_readFraction_cons] at h
      split at h
      next hpoint =>
        split at h
        next => cases h
        next hdigits =>
          cases h
          refine ⟨_, .present (isDigits_leadingDigits hdigits), ?_⟩
          rw [hpoint, List.cons_append, leadingDigits_append_afterDigits]
      next =>
        cases h
        exact ⟨[], .absent, rfl⟩

theorem exponentSign_exponentSign (s : List Char) :
    ∃ sign, ExponentSign (exponentSign s).1 sign ∧ s = sign ++ (exponentSign s).2 := by
  cases s with
  | nil => exact ⟨[], .absent, rfl⟩
  | cons c s =>
      rw [exponentSign]
      split
      next hplus => exact ⟨['+'], .plus, by rw [hplus]; rfl⟩
      next =>
        split
        next hminus => exact ⟨['-'], .minus, by rw [hminus]; rfl⟩
        next => exact ⟨[], .absent, rfl⟩

theorem exponentPart_of_parse (h : parse (readExponent atEnd) s = .ok (exponent, rest)) :
    ∃ text, ExponentPart exponent text ∧ s = text ++ rest := by
  cases s with
  | nil =>
      cases (parse_readExponent_nil atEnd).symm.trans h
      exact ⟨[], .absent, rfl⟩
  | cons c s =>
      rw [parse_readExponent_cons] at h
      split at h
      next hletter =>
        split at h
        next => cases h
        next hdigits =>
          cases h
          obtain ⟨sign, hsign, hs⟩ := exponentSign_exponentSign s
          refine ⟨_, .present hletter hsign (isDigits_leadingDigits hdigits), ?_⟩
          rw [List.cons_append, List.append_assoc, leadingDigits_append_afterDigits, ← hs]
      next =>
        cases h
        exact ⟨[], .absent, rfl⟩

/-- What stands after the sign of a number. -/
theorem spelled_of_parse {negative : Bool} {n : Numeral}
    (h : parse (readUnsigned atEnd negative) s = .ok (n, rest)) :
    ∃ text, n.Spelled ((if negative then ['-'] else []) ++ text) ∧ s = text ++ rest := by
  rw [parse_readUnsigned] at h
  cases hwhole : parse (readWhole atEnd) s with
  | error failure => simp [hwhole] at h
  | ok wholeTaken =>
      obtain ⟨whole, afterWhole⟩ := wholeTaken
      cases hfraction : parse (readFraction atEnd) afterWhole with
      | error failure => simp [hwhole, hfraction] at h
      | ok fractionTaken =>
          obtain ⟨fraction, afterFraction⟩ := fractionTaken
          cases hexponent : parse (readExponent atEnd) afterFraction with
          | error failure => simp [hwhole, hfraction, hexponent] at h
          | ok exponentTaken =>
              simp only [hwhole, hfraction, hexponent] at h
              cases h
              obtain ⟨wholePart, rfl⟩ := wholePart_of_parse hwhole
              obtain ⟨fractionText, fractionPart, rfl⟩ := fractionPart_of_parse hfraction
              obtain ⟨exponentText, exponentPart, rfl⟩ := exponentPart_of_parse hexponent
              exact ⟨_, ⟨_, _, wholePart, fractionPart, exponentPart, rfl⟩,
                by simp only [List.append_assoc]⟩

end Numeral

/-- **Numbers**: only a number is read as one. -/
theorem readsOnly_readNumeral (atEnd : Problem) : ReadsOnly (readNumeral atEnd) IsNumber := by
  intro s rest n h
  cases s with
  | nil => simp at h
  | cons c s =>
      rw [parse_readNumeral_cons] at h
      split at h
      next hminus =>
        obtain ⟨text, spelled, rfl⟩ := Numeral.spelled_of_parse h
        exact ⟨_, ⟨n, spelled⟩, by rw [hminus]; rfl⟩
      next =>
        obtain ⟨text, spelled, hs⟩ := Numeral.spelled_of_parse h
        exact ⟨text, ⟨n, spelled⟩, hs⟩

/-! ### Escapes -/

theorem toNat_le_of_le {c limit : Char} (h : c ≤ limit) : c.toNat ≤ limit.toNat :=
  UInt32.le_iff_toNat_le.mp (Char.le_def.mp h)

/-- The greatest hexadecimal digit is `f`. -/
theorem toNat_le_of_hexDigit? {c : Char} {value : Nat} (h : hexDigit? c = some value) :
    c.toNat ≤ 'f'.toNat := by
  unfold hexDigit? at h
  split at h
  next hrange => exact (toNat_le_of_le hrange.2).trans (by decide)
  next =>
    split at h
    next hrange => exact toNat_le_of_le hrange.2
    next =>
      split at h
      next hrange => exact (toNat_le_of_le hrange.2).trans (by decide)
      next => cases h

theorem hexDigit_of_hexDigit? {c : Char} {value : Nat} (h : hexDigit? c = some value) :
    HexDigit value c := by
  have all : ∀ n ≤ 'f'.toNat, ∀ v ∈ hexDigit? (Char.ofNat n), HexDigit v (Char.ofNat n) := by
    decide
  have hdigit := all c.toNat (toNat_le_of_hexDigit? h) value
  rw [Char.ofNat_toNat] at hdigit
  exact hdigit h

theorem fourHexDigits_of_hexValue? {a b c d : Char} {n : Nat}
    (h : hexValue? [a, b, c, d] = some n) : ∃ value, FourHexDigits value [a, b, c, d] := by
  simp only [hexValue?, List.foldl_cons, List.foldl_nil, Option.bind_eq_some_iff,
    Option.map_eq_some_iff] at h
  obtain ⟨_, ⟨_, ⟨_, ⟨_, -, va, ha, -⟩, vb, hb, -⟩, vc, hc, -⟩, vd, hd, -⟩ := h
  exact ⟨_, .mk (hexDigit_of_hexDigit? ha) (hexDigit_of_hexDigit? hb) (hexDigit_of_hexDigit? hc)
    (hexDigit_of_hexDigit? hd)⟩

/-- A text that breaks off within the four digits. -/
theorem parse_readHex_short {s : List Char} (h : s.length < 4) :
    parse readHex s =
      .error (if byteCount s < 4 then .atEnd .eofString else ⟨.invalidEscape, s, 4⟩) := by
  unfold parse readHex
  split
  next =>
    simp only [List.length_cons] at h
    omega
  next => split <;> rfl

theorem readsOnly_readHex : ReadsOnly readHex fun digits => ∃ n, FourHexDigits n digits := by
  intro s rest n h
  match s with
  | a :: b :: c :: d :: s =>
      rw [parse_readHex_cons] at h
      split at h
      next hvalue =>
        cases h
        exact ⟨_, fourHexDigits_of_hexValue? hvalue, rfl⟩
      next => cases h
  | [] | [_] | [_, _] | [_, _, _] =>
      rw [parse_readHex_short (by simp)] at h
      cases h

/-- What may follow the backslash of an escape, whatever the string goes on with. -/
def Escapes (escape : List Char) : Prop :=
  ∀ ⦃text⦄, Unquoted text → Unquoted ('\\' :: (escape ++ text))

theorem escapes_of_shortEscape? {l c : Char} (h : shortEscape? l = some c) : Escapes [l] := by
  intro text others
  refine .letter ?_ others
  by_contra hl
  simp only [letterEscapes, List.map_cons, List.map_nil, List.mem_cons, List.not_mem_nil, or_false,
    not_or] at hl
  simp [shortEscape?, hl] at h

theorem escapes_code {n : Nat} {digits : List Char} (h : FourHexDigits n digits) :
    Escapes ('u' :: digits) :=
  fun _ others => .code h others

/-- An escape may be followed by another one. -/
theorem Escapes.append {escape escape' : List Char} (h : Escapes escape) (h' : Escapes escape') :
    Escapes (escape ++ '\\' :: escape') := by
  intro text others
  rw [List.append_assoc, List.cons_append]
  exact h (h' others)

theorem readsOnly_readLowSurrogate (high : Nat) :
    ReadsOnly (readLowSurrogate high) fun text =>
      ∃ escape, Escapes escape ∧ text = '\\' :: escape := by
  intro s rest value h
  rw [parse_readLowSurrogate] at h
  cases hmark : parse (readWord .eofString .unexpectedEndOfEscape ['\\', 'u']) s with
  | error failure => simp [hmark] at h
  | ok mark =>
      obtain ⟨_, marked⟩ := mark
      obtain ⟨_, rfl, hs⟩ := readsOnly_readWord _ _ _ hmark
      cases hlow : parse readHex marked with
      | error failure => simp [hmark, hlow] at h
      | ok low =>
          obtain ⟨code, afterLow⟩ := low
          obtain ⟨digits, ⟨n, spelled⟩, hmarked⟩ := readsOnly_readHex hlow
          simp only [hmark, hlow] at h
          split at h
          next =>
            obtain rfl : afterLow = rest := congrArg Prod.snd (Except.ok.inj h)
            exact ⟨_, ⟨_, escapes_code spelled, rfl⟩, by rw [hs, hmarked]; rfl⟩
          next => cases h

/-- What follows `\u` are the digits of one escape, or two escapes that belong together. -/
theorem readsOnly_readCodePoint : ReadsOnly readCodePoint fun text => Escapes ('u' :: text) := by
  intro s rest value h
  rw [parse_readCodePoint] at h
  cases hcode : parse readHex s with
  | error failure => simp [hcode] at h
  | ok taken =>
      obtain ⟨code, afterCode⟩ := taken
      obtain ⟨digits, ⟨n, spelled⟩, rfl⟩ := readsOnly_readHex hcode
      simp only [hcode] at h
      split at h
      next => cases h
      next =>
        split at h
        next =>
          obtain ⟨_, ⟨escape, escapes, rfl⟩, rfl⟩ := readsOnly_readLowSurrogate _ h
          refine ⟨digits ++ '\\' :: escape, ?_, by simp only [List.append_assoc, List.cons_append]⟩
          exact (escapes_code spelled).append escapes
        next =>
          cases h
          exact ⟨digits, escapes_code spelled, rfl⟩

theorem readsOnly_readEscapeWith {code : (s : List Char) → Reading Char s.length}
    (hcode : ReadsOnly code fun text => Escapes ('u' :: text)) :
    ReadsOnly (readEscapeWith code) Escapes := by
  intro s rest value h
  cases s with
  | nil => simp at h
  | cons c s =>
      rw [parse_readEscapeWith_cons] at h
      split at h
      next hletter =>
        cases h
        exact ⟨[c], escapes_of_shortEscape? hletter, rfl⟩
      next =>
        split at h
        next hu =>
          obtain ⟨text, escapes, rfl⟩ := hcode h
          exact ⟨_, escapes, by rw [hu]; rfl⟩
        next => cases h

theorem readsOnly_readEscape : ReadsOnly readEscape Escapes :=
  readsOnly_readEscapeWith readsOnly_readCodePoint

theorem readsOnly_skipEscape : ReadsOnly skipEscape Escapes := by
  refine readsOnly_readEscapeWith ?_
  intro s rest value h
  simp only [parse, Reading.result_map] at h
  obtain ⟨_, hread, -⟩ := exists_of_map h fun _ => rfl
  obtain ⟨digits, ⟨n, spelled⟩, hs⟩ := readsOnly_readHex hread
  exact ⟨digits, escapes_code spelled, hs⟩

/-! ### Strings -/

/-- What follows the opening quote of a string. -/
def ClosesString (inside : List Char) : Prop :=
  IsString ('"' :: inside)

theorem closesString_iff {inside : List Char} :
    ClosesString inside ↔ ∃ text, Unquoted text ∧ inside = text ++ ['"'] := by
  simp only [ClosesString, IsString, List.cons.injEq, true_and]

namespace ClosesString

variable {inside : List Char}

theorem quote : ClosesString ['"'] :=
  closesString_iff.mpr ⟨[], .nil, rfl⟩

theorem escape {e : List Char} (h : Escapes e) (hinside : ClosesString inside) :
    ClosesString ('\\' :: (e ++ inside)) := by
  obtain ⟨text, others, rfl⟩ := closesString_iff.mp hinside
  exact closesString_iff.mpr ⟨_, h others, by simp only [List.cons_append, List.append_assoc]⟩

theorem plain {c : Char} (hquote : c ≠ '"') (backslash : c ≠ '\\') (control : ¬ c.toNat < 0x20)
    (hinside : ClosesString inside) : ClosesString (c :: inside) := by
  obtain ⟨text, others, rfl⟩ := closesString_iff.mp hinside
  exact closesString_iff.mpr ⟨_, .plain hquote backslash (Nat.not_lt.mp control) others, rfl⟩

end ClosesString

/-- Up to the closing quote, by induction on the length of the text. -/
theorem readsOnly_readCharacters {escape : (s : List Char) → Reading Char s.length}
    (hescape : ReadsOnly escape Escapes) (control : Nat) :
    ReadsOnly (readCharacters escape control) ClosesString := by
  intro s rest chars h
  induction hlength : s.length using Nat.strongRecOn generalizing s chars with
  | _ length ih =>
      subst hlength
      cases s with
      | nil => simp at h
      | cons c s =>
          rw [parse_readCharacters_cons] at h
          split at h
          next hquote =>
            cases h
            exact ⟨['"'], .quote, by rw [hquote]; rfl⟩
          next hquote =>
            split at h
            next hbackslash =>
              cases hread : parse escape s with
              | error failure => simp [hread] at h
              | ok taken =>
                  obtain ⟨first, others⟩ := taken
                  simp only [hread] at h
                  obtain ⟨seen, hseen, -⟩ := exists_of_map h fun _ => rfl
                  obtain ⟨e, escapes, hs⟩ := hescape hread
                  have hshorter := Nat.lt_succ_of_lt (length_lt_of_parse hread)
                  obtain ⟨inside, closes, hothers⟩ := ih _ hshorter hseen rfl
                  refine ⟨_, closes.escape escapes, ?_⟩
                  rw [hbackslash, hs, hothers, List.cons_append, List.append_assoc]
            next hbackslash =>
              split at h
              next => cases h
              next hcontrol =>
                obtain ⟨seen, hseen, -⟩ := exists_of_map h fun _ => rfl
                obtain ⟨inside, closes, hothers⟩ := ih _ (length_lt_cons c s) hseen rfl
                refine ⟨_, closes.plain hquote hbackslash hcontrol, ?_⟩
                rw [hothers, List.cons_append]

/-- **Strings** that are kept: only a string is read as one. -/
theorem readsOnly_readString : ReadsOnly readString ClosesString := by
  intro s rest value h
  rw [parse_readString] at h
  obtain ⟨_, hread, -⟩ := exists_of_map h fun _ => rfl
  exact readsOnly_readCharacters readsOnly_readEscape 1 hread

/-- **Strings** that are skipped. -/
theorem readsOnly_skipString : ReadsOnly skipString ClosesString := by
  intro s rest value h
  rw [parse_skipString] at h
  obtain ⟨_, hread, -⟩ := exists_of_map h fun _ => rfl
  exact readsOnly_readCharacters readsOnly_skipEscape 0 hread

end PageBehaviors.Json
