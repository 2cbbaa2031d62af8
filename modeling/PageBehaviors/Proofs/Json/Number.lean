import PageBehaviors.Proofs.Json.Grammar

/-!
# Reading numbers

The parts of a number are read one after the other, and each of them is as long as it can be.  So
each part is read off its spelling as long as what follows does not begin with a character that the
part might go on with.

## Main statements

* `Json.parse_readNumeral` — a number is read off its token.
-/

namespace PageBehaviors.Json

/-! ### What may follow -/

namespace Ends

variable {rest : List Char} (h : Ends rest)

include h

theorem isDigit_eq : ∀ c ∈ rest.head?, c.isDigit = false := by
  intro c hc
  have all : [' ', '\t', '\n', '\r', ',', ']', '}'].all fun c => !c.isDigit := by decide
  simpa using List.all_eq_true.mp all c (h c hc)

theorem ne_point : ∀ c ∈ rest.head?, c ≠ '.' := by
  rintro _ hc rfl
  exact absurd (h '.' hc) (by decide)

theorem ne_exponent : ∀ c ∈ rest.head?, ¬ (c = 'e' ∨ c = 'E') := by
  rintro _ hc (rfl | rfl)
  · exact absurd (h 'e' hc) (by decide)
  · exact absurd (h 'E' hc) (by decide)

end Ends

/-! ### Digits -/

variable {digits rest : List Char}

theorem leadingDigits_append (hdigits : ∀ d ∈ digits, d.isDigit = true)
    (hrest : ∀ c ∈ rest.head?, c.isDigit = false) :
    leadingDigits (digits ++ rest) = digits ∧ afterDigits (digits ++ rest) = rest := by
  induction digits with
  | nil =>
      cases rest with
      | nil => exact ⟨rfl, rfl⟩
      | cons c rest => simp [leadingDigits, afterDigits, hrest c rfl]
  | cons d digits ih =>
      obtain ⟨hd, hothers⟩ := List.forall_mem_cons.mp hdigits
      obtain ⟨hleading, hafter⟩ := ih hothers
      simp only [leadingDigits, afterDigits] at hleading hafter
      simp [leadingDigits, afterDigits, hd, hleading, hafter]

theorem ne_of_isDigit {d c : Char} (hd : d.isDigit = true) (hc : c.isDigit = false) : d ≠ c := by
  rintro rfl
  rw [hd] at hc
  cases hc

theorem IsDigits.exists_cons (h : IsDigits digits) :
    ∃ d others, digits = d :: others ∧ d.isDigit = true ∧ ∀ c ∈ others, c.isDigit = true := by
  obtain ⟨hne, hdigits⟩ := h
  obtain ⟨d, others, rfl⟩ := List.exists_cons_of_ne_nil hne
  exact ⟨d, others, rfl, List.forall_mem_cons.mp hdigits⟩

/-! ### The parts of a number -/

namespace Numeral

variable {whole text : List Char} {exponent : Option (Bool × List Char)} (atEnd : Problem)

theorem parse_readWhole (h : WholePart whole) (hrest : ∀ c ∈ rest.head?, c.isDigit = false) :
    parse (readWhole atEnd) (whole ++ rest) = .ok (whole, rest) := by
  rcases h with rfl | ⟨hdigits, hzero⟩
  · have hnone : leadingDigits rest = [] := (@leadingDigits_append [] rest nofun hrest).1
    rw [List.singleton_append, parse_readWhole_cons, if_pos rfl, if_pos hnone]
  · obtain ⟨d, others, rfl, hd, hothers⟩ := hdigits.exists_cons
    obtain ⟨hleading, hafter⟩ := leadingDigits_append hothers hrest
    have hne : d ≠ '0' := fun heq => hzero (congrArg some heq)
    rw [List.cons_append, parse_readWhole_cons, if_neg hne, if_pos hd, hleading, hafter]

theorem parse_readFraction (h : FractionPart digits text)
    (hrest : ∀ c ∈ rest.head?, c.isDigit = false ∧ c ≠ '.') :
    parse (readFraction atEnd) (text ++ rest) = .ok (digits, rest) := by
  cases h with
  | absent =>
      cases rest with
      | nil => exact parse_readFraction_nil atEnd
      | cons c rest =>
          rw [List.nil_append, parse_readFraction_cons, if_neg (hrest c rfl).2]
  | present hdigits =>
      obtain ⟨hleading, hafter⟩ :=
        leadingDigits_append hdigits.2 fun c hc => (hrest c hc).1
      rw [List.cons_append, parse_readFraction_cons, if_pos rfl, hleading, hafter,
        if_neg hdigits.1]

theorem exponentSign_append {negative : Bool} {sign : List Char} (h : ExponentSign negative sign)
    (hdigits : IsDigits digits) :
    exponentSign (sign ++ (digits ++ rest)) = (negative, digits ++ rest) := by
  cases h with
  | absent =>
      obtain ⟨d, others, rfl, hd, -⟩ := hdigits.exists_cons
      simp [exponentSign, ne_of_isDigit hd (c := '+') rfl, ne_of_isDigit hd (c := '-') rfl]
  | plus => rfl
  | minus => rfl

theorem parse_readExponent (h : ExponentPart exponent text) (hrest : Ends rest) :
    parse (readExponent atEnd) (text ++ rest) = .ok (exponent, rest) := by
  cases h with
  | absent =>
      cases rest with
      | nil => exact parse_readExponent_nil atEnd
      | cons c rest =>
          rw [List.nil_append, parse_readExponent_cons, if_neg (hrest.ne_exponent c rfl)]
  | present hletter hsign hdigits =>
      obtain ⟨hleading, hafter⟩ := leadingDigits_append hdigits.2 hrest.isDigit_eq
      rw [List.cons_append, List.append_assoc, parse_readExponent_cons, if_pos hletter,
        exponentSign_append hsign hdigits]
      simp only [hleading, hafter, if_neg hdigits.1]

theorem WholePart.exists_cons (h : WholePart whole) :
    ∃ c others, whole = c :: others ∧ c ≠ '-' := by
  rcases h with rfl | ⟨hdigits, -⟩
  · exact ⟨'0', [], rfl, by decide⟩
  · obtain ⟨d, others, rfl, hd, -⟩ := hdigits.exists_cons
    exact ⟨d, others, rfl, ne_of_isDigit hd rfl⟩

/-- An exponent begins with a letter. -/
theorem ExponentPart.head (h : ExponentPart exponent text) (hrest : Ends rest) :
    ∀ c ∈ (text ++ rest).head?, c.isDigit = false ∧ c ≠ '.' := by
  cases h with
  | absent => exact fun c hc => ⟨hrest.isDigit_eq c hc, hrest.ne_point c hc⟩
  | @present letter negative sign digits hletter _ _ =>
      intro c hc
      obtain rfl : letter = c := Option.some.inj hc
      rcases hletter with rfl | rfl <;> decide

/-- A fraction begins with a point. -/
theorem FractionPart.head (h : FractionPart digits text)
    (hrest : ∀ c ∈ rest.head?, c.isDigit = false ∧ c ≠ '.') :
    ∀ c ∈ (text ++ rest).head?, c.isDigit = false := by
  cases h with
  | absent => exact fun c hc => (hrest c hc).1
  | present _ =>
      intro c hc
      obtain rfl : '.' = c := Option.some.inj hc
      rfl

end Numeral

/-! ### Whole numbers -/

variable {n : Numeral} {token : Token}

/-- **Reading a number** gives the number that its token stands for, as long as what follows ends
it. -/
theorem parse_readNumeral (h : n.Spelled token) (hrest : Ends rest) (atEnd : Problem) :
    parse (readNumeral atEnd) (token ++ rest) = .ok (n, rest) := by
  obtain ⟨negative, whole, digits, exponent⟩ := n
  obtain ⟨fractionText, exponentText, hwhole, hfraction, hexponent, rfl⟩ := h
  have afterFraction := hexponent.head hrest
  have afterWhole := hfraction.head afterFraction
  have hunsigned : parse (readUnsigned atEnd negative)
      (whole ++ (fractionText ++ (exponentText ++ rest))) =
        .ok (⟨negative, whole, digits, exponent⟩, rest) := by
    simp only [parse_readUnsigned, Numeral.parse_readWhole atEnd hwhole afterWhole,
      Numeral.parse_readFraction atEnd hfraction afterFraction,
      Numeral.parse_readExponent atEnd hexponent hrest]
  cases negative with
  | true =>
      simpa [parse_readNumeral_cons] using hunsigned
  | false =>
      obtain ⟨c, others, rfl, hc⟩ := Numeral.WholePart.exists_cons hwhole
      simpa [parse_readNumeral_cons, hc] using hunsigned

end PageBehaviors.Json
