import PageBehaviors.Proofs.Json.Grammar

/-!
# What is written is JSON

The writer escapes what has to be escaped, and so its tokens spell the strings and objects that it
was given.  Without blanks between them the tokens still stand in their order.

## Main statements

* `Json.quotes_stringToken`, `Json.spells_objectTokens` — strings and objects as they are written.
* `Json.spacedText_compact` — tokens without blanks between them.
-/

namespace PageBehaviors.Json

/-! ### Strings -/

/-- A character is written as a letter or a number after a backslash, or as itself. -/
theorem escapedChar_cases (c : Char) :
    (∃ l, (l, c) ∈ letterEscapes ∧ escapedChar c = ['\\', l]) ∨
      (c.toNat < 0x20 ∧ escapedChar c = '\\' :: 'u' :: '0' :: '0' :: twoHexDigits c.toNat) ∨
      (c ≠ '"' ∧ c ≠ '\\' ∧ 0x20 ≤ c.toNat ∧ escapedChar c = [c]) := by
  unfold escapedChar
  split_ifs with quote backslash backspace feed newline carriage tab control
  · exact Or.inl ⟨'"', by rw [quote]; decide, rfl⟩
  · exact Or.inl ⟨'\\', by rw [backslash]; decide, rfl⟩
  · exact Or.inl ⟨'b', by rw [backspace]; decide, rfl⟩
  · exact Or.inl ⟨'f', by rw [feed]; decide, rfl⟩
  · exact Or.inl ⟨'n', by rw [newline]; decide, rfl⟩
  · exact Or.inl ⟨'r', by rw [carriage]; decide, rfl⟩
  · exact Or.inl ⟨'t', by rw [tab]; decide, rfl⟩
  · exact Or.inr (Or.inl ⟨control, rfl⟩)
  · exact Or.inr (Or.inr ⟨quote, backslash, Nat.le_of_not_lt control, rfl⟩)

/-- The four digits of a control character. -/
theorem codePoint_control {c : Char} (h : c.toNat < 0x20) :
    CodePoint c ('0' :: '0' :: twoHexDigits c.toNat) := by
  have zero : HexDigit 0 '0' := ⟨by decide, Or.inl rfl⟩
  have high : HexDigit (c.toNat / 16) (Nat.digitChar (c.toNat / 16)) := ⟨by omega, Or.inl rfl⟩
  have low : HexDigit (c.toNat % 16) (Nat.digitChar (c.toNat % 16)) := ⟨by omega, Or.inl rfl⟩
  have spelled := FourHexDigits.mk zero zero high low
  have hvalue : ((0 * 16 + 0) * 16 + c.toNat / 16) * 16 + c.toNat % 16 = c.toNat := by omega
  rw [hvalue] at spelled
  have hcode := CodePoint.single spelled (Or.inl (by omega))
  rwa [Char.ofNat_toNat] at hcode

theorem Characters.escaped (c : Char) {chars text : List Char} (h : Characters chars text) :
    Characters (c :: chars) (escapedChar c ++ text) := by
  rcases escapedChar_cases c with ⟨l, hmem, heq⟩ | ⟨control, heq⟩ | ⟨quote, backslash, plain, heq⟩
  · exact heq ▸ Characters.letter hmem h
  · exact heq ▸ Characters.code (codePoint_control control) h
  · exact heq ▸ Characters.plain quote backslash plain h

theorem characters_flatMap_escapedChar (chars : List Char) :
    Characters chars (chars.flatMap escapedChar) := by
  induction chars with
  | nil => exact .nil
  | cons c chars ih => exact ih.escaped c

/-- **A string as it is written** spells the string. -/
theorem quotes_stringToken (s : String) : Quotes s (stringToken s) :=
  ⟨_, characters_flatMap_escapedChar s.toList, rfl⟩

theorem spells_stringToken (s : String) : Spells (.string s) [stringToken s] :=
  .string (quotes_stringToken s)

/-! ### Objects -/

theorem membersTokens_eq (members : List (String × List Token)) :
    membersTokens members =
      commaSeparated (members.map fun member => memberTokens member.1 member.2) := by
  induction members with
  | nil => rfl
  | cons member members ih =>
      cases members with
      | nil => simp [membersTokens, commaSeparated, List.intercalate]
      | cons next members =>
          rw [membersTokens, ih]
          simp [commaSeparated, List.intercalate]

/-- **An object as it is written** spells the object, if the members' values are spelled. -/
theorem spells_objectTokens {members : List (String × Value)}
    {spellings : List (String × List Token)}
    (h : List.Forall₂ (fun member spelling => member.1 = spelling.1 ∧ Spells member.2 spelling.2)
      members spellings) :
    Spells (.object members) (objectTokens spellings) := by
  have hkeys : List.Forall₂ Quotes (members.map Prod.fst)
      (spellings.map fun spelling => stringToken spelling.1) := by
    rw [List.forall₂_map_left_iff, List.forall₂_map_right_iff]
    exact h.imp fun member spelling same => same.1 ▸ quotes_stringToken member.1
  have hvalues : List.Forall₂ Spells (members.map Prod.snd) (spellings.map Prod.snd) := by
    rw [List.forall₂_map_left_iff, List.forall₂_map_right_iff]
    exact h.imp fun member spelling same => same.2
  have hspells := Spells.object hkeys hvalues
  rw [List.zipWith_map, List.zipWith_self] at hspells
  rw [objectTokens, membersTokens_eq]
  exact hspells

/-! ### Texts -/

/-- Blanks may be left out everywhere. -/
theorem spaced_flatten (tokens : List Token) (rest : List Char) :
    Spaced tokens rest (tokens.flatten ++ rest) := by
  induction tokens with
  | nil => exact .done
  | cons token tokens ih =>
      rw [List.flatten_cons, List.append_assoc]
      exact .token (nofun : Blank []) ih

theorem spacedText_compact (tokens : List Token) : SpacedText tokens (compact tokens) := by
  refine ⟨[], nofun, ?_⟩
  have hspaced := spaced_flatten tokens []
  rwa [List.append_nil, ← String.toList_ofList (l := tokens.flatten)] at hspaced

/-- Blanks may stand around all tokens. -/
theorem spacedText_surrounded {before after : String} (hbefore : Blank before.toList)
    (hafter : Blank after.toList) (token : Token) (tokens : List Token) :
    SpacedText (token :: tokens) (before ++ compact (token :: tokens) ++ after) := by
  refine ⟨after.toList, hafter, ?_⟩
  rw [String.toList_append, String.toList_append, compact, String.toList_ofList,
    List.flatten_cons, List.append_assoc, List.append_assoc]
  exact .token hbefore (spaced_flatten tokens after.toList)

end PageBehaviors.Json
