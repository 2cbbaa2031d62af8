import PageBehaviors.Json.Skip
import PageBehaviors.Proofs.Json.Number
import PageBehaviors.Proofs.Json.Quotation

/-!
# Skipping values

A spelled value is skipped as a whole, however deeply it is nested, and what follows it is left.
The entries of a container are skipped one after the other; before the value of an entry stands
nothing in a list, and a key with its colon in an object.

## Main definitions and statements

* `Json.Skips` — tokens that are skipped as one value.
* `Json.Bracket.Labels` — what stands before the value of an entry.
* `Json.parse_skipEntries_of_spelled` — the entries of a container.
* `Json.Spells.skips` — any value.
-/

namespace PageBehaviors.Json

/-- Tokens that are skipped as one value, in front of anything that ends it. -/
def Skips (tokens : List Token) : Prop :=
  ∀ rest text, Ends rest → Spaced tokens rest text → parse skipValue text = .ok ((), rest)

/-! ### Values that are no containers -/

/-- A token that is skipped as a scalar is skipped as a value. -/
theorem skips_of_scalar {c : Char} {token : Token} (hblank : isBlank c = false)
    (hopening : Bracket.ofOpening? c = none)
    (h : ∀ rest, Ends rest → parse skipScalar (c :: (token ++ rest)) = .ok ((), rest)) :
    Skips [c :: token] := by
  intro rest text ends spaced
  obtain ⟨after, htext, hafter⟩ := spaced.skipBlanks_eq hblank
  cases hafter
  simp only [parse_skipValue, parse_openValue, htext, hopening, h rest ends]
  rfl

/-- The rest of a word is read off its spelling. -/
theorem parse_readWord_append (atEnd other : Problem) (word rest : List Char) :
    parse (readWord atEnd other word) (word ++ rest) = .ok ((), rest) := by
  induction word with
  | nil => exact parse_readWord_nil atEnd other rest
  | cons c word ih => rw [List.cons_append, parse_readWord_cons_cons, if_pos rfl, ih]

theorem parse_readIdentifier_append (word : String) (rest : List Char) :
    parse (readIdentifier word) (word.toList ++ rest) = .ok ((), rest) :=
  parse_readWord_append _ _ _ rest

theorem skips_null : Skips [['n', 'u', 'l', 'l']] :=
  skips_of_scalar (by decide) (by decide) fun rest _ => by
    rw [parse_skipScalar_cons, if_pos rfl]
    exact parse_readIdentifier_append "ull" rest

theorem skips_boolean (b : Bool) : Skips [booleanToken b] := by
  cases b with
  | true =>
      refine skips_of_scalar (by decide) (by decide) fun rest _ => ?_
      rw [parse_skipScalar_cons, if_neg (by decide), if_pos rfl]
      exact parse_readIdentifier_append "rue" rest
  | false =>
      refine skips_of_scalar (by decide) (by decide) fun rest _ => ?_
      rw [parse_skipScalar_cons, if_neg (by decide), if_neg (by decide), if_pos rfl]
      exact parse_readIdentifier_append "alse" rest

theorem skips_string {s : String} {token : Token} (h : Quotes s token) : Skips [token] := by
  obtain ⟨inside, rfl, hskip⟩ := parse_skipString_of_quotes h
  refine skips_of_scalar (by decide) (by decide) fun rest _ => ?_
  simp [parse_skipScalar_cons, hskip rest]

theorem skips_number {n : Numeral} {token : Token} (h : n.Spelled token) : Skips [token] := by
  obtain ⟨c, others, rfl, hc⟩ := h.begins
  have hblank : isBlank c = false :=
    Value.Begins.isBlank_eq (show (Value.number n).Begins c from hc)
  have hkind : Bracket.ofOpening? c = none ∧ c ≠ 'n' ∧ c ≠ 't' ∧ c ≠ 'f' ∧ c ≠ '"' := by
    rcases hc with rfl | hdigit
    · decide
    · refine ⟨?_, ne_of_isDigit hdigit rfl, ne_of_isDigit hdigit rfl, ne_of_isDigit hdigit rfl,
        ne_of_isDigit hdigit rfl⟩
      rw [Bracket.ofOpening?, if_neg (ne_of_isDigit hdigit rfl),
        if_neg (ne_of_isDigit hdigit rfl)]
  obtain ⟨hopening, hn, ht, hf, hquote⟩ := hkind
  refine skips_of_scalar hblank hopening fun rest ends => ?_
  have hread := parse_readNumeral h ends .invalidNumber
  rw [List.cons_append] at hread
  rw [parse_skipScalar_cons, if_neg hn, if_neg ht, if_neg hf, if_neg hquote, if_pos hc, hread]
  rfl

/-! ### Entries -/

variable {label tokens : List Token} {rest text : List Char}

theorem parse_readColon_of_spaced (h : Spaced ([':'] :: tokens) rest text) :
    ∃ after, parse readColon text = .ok ((), after) ∧ Spaced tokens rest after := by
  obtain ⟨after, htext, hafter⟩ := h.skipBlanks_eq (by decide)
  refine ⟨after, ?_, hafter⟩
  simp [parse_readColon, htext]

namespace Bracket

/-- The character that opens a container. -/
def opening : Bracket → Char
  | list => '['
  | object => '{'

/-- What stands before the value of an entry: nothing in a list, a key and a colon in an object. -/
def Labels : Bracket → List Token → Prop
  | list, label => label = []
  | object, label => ∃ s key, Quotes s key ∧ label = [key, [':']]

variable {bracket : Bracket}

theorem parse_skipLabel (hlabel : bracket.Labels label) (h : Spaced (label ++ tokens) rest text) :
    ∃ after, parse bracket.skipLabel text = .ok ((), after) ∧ Spaced tokens rest after := by
  cases bracket with
  | list =>
      obtain rfl : label = [] := hlabel
      exact ⟨text, parse_skipLabel_list text, h⟩
  | object =>
      obtain ⟨s, key, quotes, rfl⟩ := hlabel
      obtain ⟨inside, rfl, hskip⟩ := parse_skipString_of_quotes quotes
      obtain ⟨afterKey, htext, hcolon⟩ := Spaced.skipBlanks_eq h (by decide)
      obtain ⟨after, hread, hafter⟩ := parse_readColon_of_spaced hcolon
      refine ⟨after, ?_, hafter⟩
      rw [parse_skipLabel_object, parse_skipKey]
      simp [htext, hskip, hread]

/-- Past the last entry stands the closing bracket. -/
theorem parse_skipToEntry_close (first : Bool) (h : Spaced [[bracket.closing]] rest text) :
    parse (bracket.skipToEntry first) text = .ok (.close, rest) := by
  have hblank : isBlank bracket.closing = false := by cases bracket <;> decide
  obtain ⟨after, htext, hafter⟩ := h.skipBlanks_eq hblank
  cases hafter
  simp [parse_skipToEntry, htext]

/-- An entry is found after a comma, or right away if it is the first one. -/
theorem parse_skipToEntry_entry {value : Value} {spelling : List Token} (first : Bool)
    (hlabel : bracket.Labels label) (spells : Spells value spelling)
    (h : Spaced ((if first then [] else [[',']]) ++ (label ++ (spelling ++ tokens))) rest text) :
    ∃ after, parse (bracket.skipToEntry first) text = .ok (.entry, after) ∧
      Spaced (spelling ++ tokens) rest after := by
  cases first with
  | false =>
      obtain ⟨afterComma, htext, hentry⟩ := Spaced.skipBlanks_eq h (by decide)
      obtain ⟨after, hread, hafter⟩ := parse_skipLabel hlabel hentry
      have hcomma : ',' ≠ bracket.closing := by cases bracket <;> decide
      refine ⟨after, ?_, hafter⟩
      rw [parse_skipToEntry]
      simp [htext, hcomma, hread, Except.map]
  | true =>
      -- what the entry begins with is not the closing bracket
      have hbegin : ∃ c token others, label ++ (spelling ++ tokens) = (c :: token) :: others ∧
          isBlank c = false ∧ c ≠ bracket.closing := by
        cases bracket with
        | list =>
            obtain rfl : label = [] := hlabel
            obtain ⟨c, token, others, rfl, hc⟩ := spells.begins
            exact ⟨c, token, _, rfl, hc.isBlank_eq, hc.ne_closing.1⟩
        | object =>
            obtain ⟨s, key, ⟨inside, -, rfl⟩, rfl⟩ := hlabel
            exact ⟨'"', _, _, rfl, by decide, by decide⟩
      obtain ⟨c, token, others, htokens, hblank, hne⟩ := hbegin
      simp only [if_true, List.nil_append] at h
      rw [htokens] at h
      obtain ⟨afterFirst, htext, hentry⟩ := h.skipBlanks hblank
      rw [← htokens] at hentry
      obtain ⟨after, hread, hafter⟩ := parse_skipLabel hlabel hentry
      refine ⟨after, ?_, hafter⟩
      rw [parse_skipToEntry]
      simp [htext, hne, hread, Except.map]

end Bracket

theorem parse_skipEntries_entry {bracket : Bracket} {first : Bool} {s afterLead rest : List Char}
    (hentry : parse (bracket.skipToEntry first) s = .ok (.entry, afterLead))
    (hvalue : parse skipValue afterLead = .ok ((), rest)) :
    parse (skipEntries bracket first) s = parse (skipEntries bracket false) rest := by
  rw [parse_skipEntries]
  rw [parse_skipValue] at hvalue
  simp only [hentry]
  cases hopen : parse openValue afterLead with
  | error failure => simp [hopen] at hvalue
  | ok opened =>
      obtain ⟨inner?, contents⟩ := opened
      cases inner? with
      | none =>
          simp only [hopen, Except.ok.injEq, Prod.mk.injEq, true_and] at hvalue
          rw [hvalue]
      | some inner =>
          simp only [hopen] at hvalue
          simp only [hvalue]

theorem parse_skipEntries_close {bracket : Bracket} {first : Bool} {s rest : List Char}
    (h : parse (bracket.skipToEntry first) s = .ok (.close, rest)) :
    parse (skipEntries bracket first) s = .ok ((), rest) := by
  rw [parse_skipEntries]
  simp only [h]

/-- The tokens after an entry end its value. -/
theorem ends_entryTokens {c : Char} (hc : c ∈ [']', '}']) {parts : List (List Token)}
    {rest text : List Char} (h : Spaced (entryTokens false parts ++ [[c]]) rest text) :
    Ends text := by
  cases parts with
  | nil => exact Spaced.ends h (List.mem_cons_of_mem _ hc)
  | cons part parts =>
      rw [entryTokens_cons, List.append_assoc] at h
      exact Spaced.ends h List.mem_cons_self

/-- The tokens of an entry that is skipped. -/
def Bracket.SkipsEntry (bracket : Bracket) (part : List Token) : Prop :=
  ∃ label value spelling, bracket.Labels label ∧ Spells value spelling ∧ Skips spelling ∧
    part = label ++ spelling

/-- **The entries of a container** are skipped, and the bracket that closes it. -/
theorem parse_skipEntries_of_spelled {bracket : Bracket} {parts : List (List Token)}
    (h : ∀ part ∈ parts, bracket.SkipsEntry part) (first : Bool) {rest text : List Char}
    (spaced : Spaced (entryTokens first parts ++ [[bracket.closing]]) rest text) :
    parse (skipEntries bracket first) text = .ok ((), rest) := by
  induction parts generalizing first text with
  | nil =>
      rw [entryTokens_nil, List.nil_append] at spaced
      exact parse_skipEntries_close (bracket.parse_skipToEntry_close first spaced)
  | cons part parts ih =>
      obtain ⟨⟨label, value, spelling, hlabel, spells, skips, rfl⟩, hothers⟩ :=
        List.forall_mem_cons.mp h
      rw [entryTokens_cons, List.append_assoc, List.append_assoc, List.append_assoc] at spaced
      obtain ⟨afterLead, hentry, hafter⟩ :=
        bracket.parse_skipToEntry_entry first hlabel spells spaced
      obtain ⟨afterValue, hvalue, hrest⟩ := Spaced.append_iff.mp hafter
      have hclosing : bracket.closing ∈ [']', '}'] := by cases bracket <;> decide
      have hskip := skips afterValue afterLead (ends_entryTokens hclosing hrest) hvalue
      rw [parse_skipEntries_entry hentry hskip]
      exact ih hothers false hrest

/-- A container whose entries are skipped is skipped. -/
theorem skips_container (bracket : Bracket) {parts : List (List Token)}
    (h : ∀ part ∈ parts, bracket.SkipsEntry part) :
    Skips ([bracket.opening] :: (commaSeparated parts ++ [[bracket.closing]])) := by
  intro rest text ends spaced
  have hblank : isBlank bracket.opening = false := by cases bracket <;> decide
  have hopening : Bracket.ofOpening? bracket.opening = some bracket := by cases bracket <;> rfl
  obtain ⟨after, htext, hafter⟩ := spaced.skipBlanks_eq hblank
  simp only [parse_skipValue, parse_openValue, htext, hopening, List.nil_append]
  exact parse_skipEntries_of_spelled h true hafter

/-! ### Any value -/

theorem length_le_entryTokens {part : List Token} {parts : List (List Token)} (h : part ∈ parts)
    (first : Bool) : part.length ≤ (entryTokens first parts).length := by
  induction parts generalizing first with
  | nil => cases h
  | cons head parts ih =>
      rw [entryTokens_cons, List.length_append, List.length_append]
      rcases List.mem_cons.mp h with rfl | hmem
      · omega
      · have := ih hmem false
        omega

theorem exists_of_mem_right {α β : Type} {R : α → β → Prop} {first : List α} {second : List β}
    (h : List.Forall₂ R first second) {b : β} (hb : b ∈ second) : ∃ a, R a b := by
  induction h with
  | nil => cases hb
  | cons hab _ ih =>
      rcases List.mem_cons.mp hb with rfl | hmem
      · exact ⟨_, hab⟩
      · exact ih hmem

/-- **Any value** is skipped, by induction on the number of its tokens. -/
theorem Spells.skips {value : Value} {tokens : List Token} (h : Spells value tokens) :
    Skips tokens := by
  induction hlength : tokens.length using Nat.strongRecOn generalizing value tokens with
  | _ length ih =>
      subst hlength
      cases h with
      | null => exact skips_null
      | boolean => exact skips_boolean _
      | number spelled => exact skips_number spelled
      | string quotes => exact skips_string quotes
      | @array elements parts spelled =>
          refine skips_container .list fun part hpart => ?_
          obtain ⟨value, spells⟩ := exists_of_mem_right spelled hpart
          have hshorter := length_le_entryTokens hpart true
          simp only [entryTokens, if_true] at hshorter
          refine ⟨[], value, part, rfl, spells, ih _ ?_ spells rfl, rfl⟩
          simp only [List.length_cons, List.length_append]
          omega
      | object hkeys hvalues =>
          refine skips_container .object fun part hpart => ?_
          obtain ⟨member, key, spelling, quotes, spells, rfl⟩ :=
            exists_of_mem_right (forall₂_memberSpelled hkeys hvalues) hpart
          have hshorter := length_le_entryTokens hpart true
          simp only [entryTokens, if_true, List.length_cons] at hshorter
          refine ⟨[key, [':']], member.2, spelling, ⟨_, key, quotes, rfl⟩, spells,
            ih _ ?_ spells rfl, rfl⟩
          simp only [List.length_cons, List.length_append]
          omega

end PageBehaviors.Json
