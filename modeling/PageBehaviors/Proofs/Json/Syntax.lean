import PageBehaviors.Proofs.Json.Skip

/-!
# Which texts are JSON

The grammar of JSON texts without the values that they stand for.  It admits more strings than
`Json.Characters` does: any four hexadecimal digits may follow `\u`, also those of a surrogate
without its partner, for which there is no character.

A text that breaks off is none of these texts, and neither is one with something other than blanks
after its value: the last token of a value is a bracket, a word, a number or a string, and never
the comma or the colon that asks for more.

## Main definitions and statements

* `Json.Unquoted`, `Json.IsString`, `Json.IsNumber` — the tokens of strings and numbers.
* `Json.IsValue` — the tokens of a value of any kind.
* `Json.IsText` — texts made of the tokens of one value.
* `Json.IsText.of_denotes` — a text that stands for a value is one of them.
* `Json.IsText.exists_getLast?_eq` — what they end with.
-/

namespace PageBehaviors.Json

/-! ### Strings and numbers -/

/-- What may stand between the quotes of a string. -/
inductive Unquoted : List Char → Prop
  | nil : Unquoted []
  /-- Any character but a quote, a backslash and the control characters. -/
  | plain {c : Char} {text : List Char} (quote : c ≠ '"') (backslash : c ≠ '\\')
      (control : 0x20 ≤ c.toNat) (others : Unquoted text) : Unquoted (c :: text)
  /-- An escape by a letter. -/
  | letter {l : Char} {text : List Char} (escape : l ∈ letterEscapes.map Prod.fst)
      (others : Unquoted text) : Unquoted ('\\' :: l :: text)
  /-- An escape by a number, whether or not there is a character of that number. -/
  | code {n : Nat} {digits text : List Char} (spelled : FourHexDigits n digits)
      (others : Unquoted text) : Unquoted ('\\' :: 'u' :: (digits ++ text))

/-- A string in its quotes. -/
def IsString (token : Token) : Prop :=
  ∃ text, Unquoted text ∧ token = '"' :: (text ++ ['"'])

/-- A number. -/
def IsNumber (token : Token) : Prop :=
  ∃ n : Numeral, n.Spelled token

theorem Characters.unquoted {chars text : List Char} (h : Characters chars text) :
    Unquoted text := by
  induction h with
  | nil => exact .nil
  | plain quote backslash control _ ih => exact .plain quote backslash control ih
  | letter escape _ ih => exact .letter (List.mem_map_of_mem escape) ih
  | code spelled _ ih =>
      cases spelled with
      | single spelled => exact .code spelled ih
      | pair first _ second _ =>
          rw [List.append_assoc, List.cons_append, List.cons_append]
          exact .code first (.code second ih)

theorem Quotes.isString {s : String} {token : Token} (h : Quotes s token) : IsString token := by
  obtain ⟨text, characters, rfl⟩ := h
  exact ⟨text, characters.unquoted, rfl⟩

/-! ### Values -/

/-- The tokens of a value. -/
inductive IsValue : List Token → Prop
  | null : IsValue [['n', 'u', 'l', 'l']]
  | boolean {b : Bool} : IsValue [booleanToken b]
  | number {token : Token} (h : IsNumber token) : IsValue [token]
  | string {token : Token} (h : IsString token) : IsValue [token]
  | array {elements : List (List Token)} (h : ∀ element ∈ elements, IsValue element) :
      IsValue (['['] :: (commaSeparated elements ++ [[']']]))
  | object {members : List (Token × List Token)} (hkeys : ∀ member ∈ members, IsString member.1)
      (hvalues : ∀ member ∈ members, IsValue member.2) :
      IsValue
        (['{'] ::
          (commaSeparated (members.map fun member => member.1 :: [':'] :: member.2) ++ [['}']]))

theorem IsValue.exists_cons {tokens : List Token} (h : IsValue tokens) :
    ∃ token others, tokens = token :: others := by
  cases h <;> exact ⟨_, _, rfl⟩

/-- A text of one value, with any blanks around its tokens. -/
def IsText (text : String) : Prop :=
  ∃ tokens, IsValue tokens ∧ SpacedText tokens text

/-! ### Entries of a container -/

namespace Bracket

/-- What stands before the value of an entry: nothing in a list, a key and a colon in an object. -/
def IsLabel : Bracket → List Token → Prop
  | list, label => label = []
  | object, label => ∃ key, IsString key ∧ label = [key, [':']]

/-- The tokens of an entry. -/
def IsEntry (bracket : Bracket) (part : List Token) : Prop :=
  ∃ label value, bracket.IsLabel label ∧ IsValue value ∧ part = label ++ value

variable {bracket : Bracket} {part : List Token} {parts : List (List Token)}

theorem isEntry_list : list.IsEntry part ↔ IsValue part := by
  constructor
  · rintro ⟨label, value, rfl, hvalue, rfl⟩
    exact hvalue
  · intro hvalue
    exact ⟨[], part, rfl, hvalue, rfl⟩

theorem isEntry_object : object.IsEntry part ↔
    ∃ member : Token × List Token,
      IsString member.1 ∧ IsValue member.2 ∧ member.1 :: [':'] :: member.2 = part := by
  constructor
  · rintro ⟨label, value, ⟨key, hkey, rfl⟩, hvalue, rfl⟩
    exact ⟨(key, value), hkey, hvalue, rfl⟩
  · rintro ⟨⟨key, value⟩, hkey, hvalue, rfl⟩
    exact ⟨[key, [':']], value, ⟨key, hkey, rfl⟩, hvalue, rfl⟩

/-- Entries with commas between them and brackets around them are a value. -/
theorem isValue_container (h : ∀ part ∈ parts, bracket.IsEntry part) :
    IsValue ([bracket.opening] :: (commaSeparated parts ++ [[bracket.closing]])) := by
  cases bracket with
  | list => exact .array fun part hpart => isEntry_list.mp (h part hpart)
  | object =>
      choose! member hkey hvalue hmember using fun part hpart => isEntry_object.mp (h part hpart)
      have hparts :
          (parts.map member).map (fun member => member.1 :: [':'] :: member.2) = parts := by
        rw [List.map_map]
        exact (List.map_congr_left fun part hpart => hmember part hpart).trans (List.map_id parts)
      rw [← hparts]
      refine .object (fun m hm => ?_) fun m hm => ?_
      · obtain ⟨part, hpart, rfl⟩ := List.mem_map.mp hm
        exact hkey part hpart
      · obtain ⟨part, hpart, rfl⟩ := List.mem_map.mp hm
        exact hvalue part hpart

end Bracket

/-! ### Texts that stand for a value -/

/-- The tokens of a value have the form of a value, by induction on their number. -/
theorem Spells.isValue {value : Value} {tokens : List Token} (h : Spells value tokens) :
    IsValue tokens := by
  induction hlength : tokens.length using Nat.strongRecOn generalizing value tokens with
  | _ length ih =>
      subst hlength
      cases h with
      | null => exact .null
      | boolean => exact .boolean
      | number spelled => exact .number ⟨_, spelled⟩
      | string quotes => exact .string quotes.isString
      | @array elements parts spelled =>
          refine .array fun part hpart => ?_
          obtain ⟨value, spells⟩ := exists_of_mem_right spelled hpart
          have hshorter := length_le_entryTokens hpart true
          simp only [entryTokens, if_true] at hshorter
          refine ih _ ?_ spells rfl
          simp only [List.length_cons, List.length_append]
          omega
      | object hkeys hvalues =>
          refine @Bracket.isValue_container .object _ fun part hpart => ?_
          obtain ⟨member, key, spelling, quotes, spells, rfl⟩ :=
            exists_of_mem_right (forall₂_memberSpelled hkeys hvalues) hpart
          have hshorter := length_le_entryTokens hpart true
          simp only [entryTokens, if_true, List.length_cons] at hshorter
          refine Bracket.isEntry_object.mpr
            ⟨(key, spelling), quotes.isString, ih _ ?_ spells rfl, rfl⟩
          simp only [List.length_cons, List.length_append]
          omega

/-- A text that stands for a value is a JSON text. -/
theorem IsText.of_denotes {text : String} {value : Value} (h : Denotes text value) :
    IsText text := by
  obtain ⟨tokens, spells, spaced⟩ := h
  exact ⟨tokens, spells.isValue, spaced⟩

/-! ### How a text ends -/

/-- The characters that a value may end with. -/
def IsLast (c : Char) : Prop :=
  c ∈ ['l', 'e', '"', ']', '}'] ∨ c.isDigit = true

instance (c : Char) : Decidable (IsLast c) :=
  inferInstanceAs (Decidable (_ ∨ _))

/-- A spelling that ends in a digit. -/
def EndsInDigit (s : List Char) : Prop :=
  ∃ others d, s = others ++ [d] ∧ d.isDigit = true

theorem EndsInDigit.append {s : List Char} (h : EndsInDigit s) (before : List Char) :
    EndsInDigit (before ++ s) := by
  obtain ⟨others, d, rfl, hd⟩ := h
  exact ⟨before ++ others, d, (List.append_assoc _ _ _).symm, hd⟩

theorem IsDigits.endsInDigit {digits : List Char} (h : IsDigits digits) : EndsInDigit digits :=
  ⟨digits.dropLast, digits.getLast h.1, (List.dropLast_concat_getLast h.1).symm,
    h.2 _ (List.getLast_mem h.1)⟩

namespace Numeral

theorem WholePart.endsInDigit {whole : List Char} (h : WholePart whole) : EndsInDigit whole := by
  rcases h with rfl | ⟨digits, -⟩
  · exact ⟨[], '0', rfl, rfl⟩
  · exact digits.endsInDigit

/-- A number ends in a digit of its last part. -/
theorem Spelled.endsInDigit {n : Numeral} {token : Token} (h : n.Spelled token) :
    EndsInDigit token := by
  obtain ⟨negative, wholeDigits, digits, power⟩ := n
  obtain ⟨fraction, exponent, whole, hfraction, hexponent, rfl⟩ := h
  refine EndsInDigit.append ?_ _
  cases hexponent with
  | present _ _ digits =>
      exact (((digits.endsInDigit.append _).append [_]).append _).append _
  | absent =>
      rw [List.append_nil]
      cases hfraction with
      | present digits => exact (digits.endsInDigit.append ['.']).append _
      | absent =>
          rw [List.append_nil]
          exact whole.endsInDigit

end Numeral

/-- The last token of a value does not ask for more. -/
theorem IsValue.exists_last {tokens : List Token} (h : IsValue tokens) :
    ∃ others token c, tokens = others ++ [token ++ [c]] ∧ IsLast c := by
  cases h with
  | null => exact ⟨[], ['n', 'u', 'l'], 'l', rfl, by decide⟩
  | @boolean b =>
      cases b with
      | true => exact ⟨[], ['t', 'r', 'u'], 'e', rfl, by decide⟩
      | false => exact ⟨[], ['f', 'a', 'l', 's'], 'e', rfl, by decide⟩
  | number h =>
      obtain ⟨n, spelled⟩ := h
      obtain ⟨others, d, rfl, hd⟩ := spelled.endsInDigit
      exact ⟨[], others, d, rfl, Or.inr hd⟩
  | string h =>
      obtain ⟨text, -, rfl⟩ := h
      exact ⟨[], '"' :: text, '"', rfl, by decide⟩
  | array h => exact ⟨['['] :: commaSeparated _, [], ']', rfl, by decide⟩
  | object hkeys hvalues => exact ⟨['{'] :: commaSeparated _, [], '}', rfl, by decide⟩

theorem Spaced.exists_eq_append {tokens : List Token} {rest text : List Char}
    (h : Spaced tokens rest text) : ∃ before, text = before ++ rest := by
  induction h with
  | done => exact ⟨[], rfl⟩
  | @token blanks token _ _ _ _ _ ih =>
      obtain ⟨before, rfl⟩ := ih
      exact ⟨blanks ++ (token ++ before), by simp only [List.append_assoc]⟩

/-- A JSON text ends like a value, or in a blank. -/
theorem IsText.exists_getLast?_eq {text : String} (h : IsText text) :
    ∃ c, text.toList.getLast? = some c ∧ (IsLast c ∨ isBlank c = true) := by
  obtain ⟨tokens, hvalue, trailing, blank, spaced⟩ := h
  obtain ⟨others, token, c, rfl, hc⟩ := hvalue.exists_last
  obtain ⟨middle, hothers, hlast⟩ := Spaced.append_iff.mp spaced
  obtain ⟨before, htext⟩ := hothers.exists_eq_append
  cases hlast with
  | @token blanks _ _ _ after _ hdone =>
      cases hdone
      rcases List.eq_nil_or_concat trailing with rfl | ⟨init, d, rfl⟩
      · refine ⟨c, ?_, Or.inl hc⟩
        simp [htext]
      · refine ⟨d, ?_, Or.inr (isBlank_iff.mpr (blank d (by simp)))⟩
        simp [htext, List.getLast?_cons]

end PageBehaviors.Json
