import PageBehaviors.Json.Record
import PageBehaviors.Proofs.Json.Acceptance

/-!
# Records are read from JSON texts

The members of an object and the elements of a list are read in their own way when a record is made
of them, known members as their field tells and the others by skipping.  What is taken has the form
of a value all the same, whatever the record makes of it, and so a text that is read as a record is
a JSON text.

## Main definitions and statements

* `Json.Field.IsStrict`, `Json.Shape.IsStrict` — only values are read into a field, or into any.
* `Json.Shape.IsStrict.contains_of_readMembers`, `Json.Shape.contains_of_readElements` — the two
  forms of a record.
* `Json.Shape.IsStrict.isText_of_readAll` — texts that are read as a record.
-/

namespace PageBehaviors.Json

/-! ### Scalars that are kept -/

theorem accepts_readText : Accepts readText IsValue := by
  intro s rest value h
  rw [parse_readText] at h
  split at h
  next => cases h
  next c after hs =>
    split at h
    next hquote =>
      obtain ⟨inside, closes, hinside⟩ := readsOnly_readString h
      refine ⟨_, .string closes, .of_skipBlanks ?_ .done⟩
      rw [hs, hquote, hinside, List.cons_append]
    next => cases h

theorem accepts_readBoolean : Accepts readBoolean IsValue := by
  intro s rest value h
  rw [parse_readBoolean] at h
  split at h
  next => cases h
  next c after hs =>
    split at h
    next ht =>
      obtain ⟨_, hread, -⟩ := exists_of_map h fun _ => rfl
      have hword : c :: after = booleanToken true ++ rest :=
        eq_append_of_readIdentifier (by rw [ht]; rfl) hread
      exact ⟨_, @IsValue.boolean true, .of_skipBlanks (hs.trans hword) .done⟩
    next =>
      split at h
      next hf =>
        obtain ⟨_, hread, -⟩ := exists_of_map h fun _ => rfl
        have hword : c :: after = booleanToken false ++ rest :=
          eq_append_of_readIdentifier (by rw [hf]; rfl) hread
        exact ⟨_, @IsValue.boolean false, .of_skipBlanks (hs.trans hword) .done⟩
      next => cases h

/-! ### Records -/

variable {R T : Type}

/-- The field takes a value, whatever it makes of it. -/
def Field.IsStrict (field : Field R) : Prop :=
  ∀ record, Accepts (field.read record) IsValue

/-- All fields of a record take values. -/
def Shape.IsStrict (shape : Shape R) : Prop :=
  ∀ field ∈ shape.fields, field.IsStrict

theorem Field.isStrict_text (name : String) (put : String → R → R) :
    (Field.text name put).IsStrict :=
  fun record => accepts_readText.map fun value => put value record

theorem Field.isStrict_boolean (name : String) (put : Bool → R → R) :
    (Field.boolean name put).IsStrict :=
  fun record => accepts_readBoolean.map fun value => put value record

theorem of_parse_nextKeyAfterComma {s rest : List Char} {step : Step}
    (h : parse nextKeyAfterComma s = .ok (step, rest)) :
    step = .entry ∧ skipBlanks s = '"' :: rest := by
  rw [parse_nextKeyAfterComma] at h
  split at h
  next => cases h
  next c after hs =>
    split at h
    next hquote =>
      cases h
      exact ⟨rfl, by rw [hs, hquote]⟩
    next => split at h <;> cases h

/-- The closing brace, or the quote of a key; so whatever the key leads to is reached. -/
theorem of_parse_nextKey {first : Bool} {s rest : List Char} {step : Step}
    (h : parse (nextKey first) s = .ok (step, rest)) :
    step = .close ∧ skipBlanks s = '}' :: rest ∨
      step = .entry ∧ ∀ ⦃value⦄,
        (∀ start, skipBlanks start = '"' :: rest → Bracket.object.Reaches value start) →
          Bracket.object.ReachesNext first value s := by
  rw [parse_nextKey] at h
  split at h
  next => cases h
  next c after hs =>
    split at h
    next hbrace =>
      cases h
      exact Or.inl ⟨rfl, by rw [hs, hbrace]⟩
    next =>
      right
      split at h
      next hfirst =>
        split at h
        next hquote =>
          cases h
          rw [hquote] at hs
          exact ⟨rfl, fun value hkey => Bracket.reachesNext_first hfirst (hkey s hs)⟩
        next => cases h
      next hfirst =>
        split at h
        next hcomma =>
          obtain ⟨hstep, hquote⟩ := of_parse_nextKeyAfterComma h
          rw [hcomma] at hs
          exact ⟨hstep, fun value hkey =>
            Bracket.reachesNext_comma hfirst hs (hkey after hquote)⟩
        next => cases h

/-- Before an element of a list there are only blanks. -/
theorem reaches_element {s rest : List Char} (hs : skipBlanks s = rest) :
    Bracket.list.Reaches rest s := by
  apply Bracket.Reaches.of_skipBlanks
  rw [hs]
  exact Bracket.reaches_of_spaced (show Bracket.list.IsLabel [] from rfl) .done

theorem of_parse_nextElementAfterComma {s rest : List Char} {step : Step}
    (h : parse nextElementAfterComma s = .ok (step, rest)) :
    step = .entry ∧ Bracket.list.Reaches rest s := by
  rw [parse_nextElementAfterComma] at h
  split at h
  next => cases h
  next c after hs =>
    split at h
    next => cases h
    next =>
      cases h
      exact ⟨rfl, reaches_element hs⟩

/-- The closing bracket, or an element. -/
theorem of_parse_nextElement {first : Bool} {s rest : List Char} {step : Step}
    (h : parse (nextElement first) s = .ok (step, rest)) :
    step = .close ∧ skipBlanks s = ']' :: rest ∨
      step = .entry ∧ Bracket.list.ReachesNext first rest s := by
  rw [parse_nextElement] at h
  split at h
  next => cases h
  next c after hs =>
    split at h
    next hbracket =>
      cases h
      exact Or.inl ⟨rfl, by rw [hs, hbracket]⟩
    next =>
      right
      split at h
      next hfirst =>
        cases h
        exact ⟨rfl, Bracket.reachesNext_first hfirst (reaches_element hs)⟩
      next hfirst =>
        split at h
        next hcomma =>
          obtain ⟨hstep, helement⟩ := of_parse_nextElementAfterComma h
          rw [hcomma] at hs
          exact ⟨hstep, Bracket.reachesNext_comma hfirst hs helement⟩
        next => cases h

theorem of_parse_readListEnd {s rest : List Char} {value : Unit}
    (h : parse readListEnd s = .ok (value, rest)) : skipBlanks s = ']' :: rest := by
  rw [parse_readListEnd] at h
  split at h
  next => cases h
  next c after hs =>
    split at h
    next hbracket =>
      cases h
      rw [hs, hbracket]
    next => split at h <;> cases h

namespace Shape.IsStrict

variable {shape : Shape R} (h : shape.IsStrict)

include h

theorem accepts_readValue (name : String) (record : R) :
    Accepts (shape.readValue name record) IsValue := by
  intro s rest value hread
  rw [parse_readValue] at hread
  split at hread
  next field hfield => exact h field (List.mem_of_find?_eq_some hfield) record hread
  next =>
    obtain ⟨_, hskip, -⟩ := exists_of_map hread fun _ => rfl
    exact accepts_skipValue hskip

/-- A member from the characters of its key on: the key leads to the value. -/
theorem of_parse_readMember {seen : List String} {record : R} {s rest : List Char}
    {member : List String × R}
    (hread : parse (shape.readMember seen record) s = .ok (member, rest)) :
    ∃ middle value, (∀ start, skipBlanks start = '"' :: s → Bracket.object.Reaches middle start) ∧
      IsValue value ∧ Spaced value rest middle := by
  rw [parse_readMember] at hread
  cases hkey : parse readString s with
  | error failure => simp [hkey] at hread
  | ok taken =>
      obtain ⟨key, afterKey⟩ := taken
      simp only [hkey] at hread
      split at hread
      next => cases hread
      next =>
        cases hcolon : parse readColon afterKey with
        | error failure => simp [hcolon] at hread
        | ok taken =>
            obtain ⟨_, afterColon⟩ := taken
            simp only [hcolon] at hread
            obtain ⟨_, hvalue, -⟩ := exists_of_map hread fun _ => rfl
            obtain ⟨value, isValue, spaced⟩ := h.accepts_readValue key record hvalue
            refine ⟨afterColon, value, fun start hstart => ?_, isValue, spaced⟩
            obtain ⟨inside, closes, hinside⟩ := readsOnly_readString hkey
            rw [hinside] at hstart
            obtain ⟨label, isLabel, hlabel⟩ := spaced_key hstart closes hcolon
            exact Bracket.reaches_of_spaced isLabel hlabel

/-- **The members of an object**, by induction on the length of the text. -/
theorem contains_of_readMembers {first : Bool} {seen : List String} {record result : R}
    {s rest : List Char}
    (hread : parse (shape.readMembers first seen record) s = .ok (result, rest)) :
    Bracket.object.Contains first rest s := by
  induction hlength : s.length using Nat.strongRecOn generalizing first seen record s with
  | _ length ih =>
      subst hlength
      rw [parse_readMembers] at hread
      cases hnext : parse (nextKey first) s with
      | error failure => simp [hnext] at hread
      | ok next =>
          obtain ⟨step, afterQuote⟩ := next
          have hquote := length_lt_of_parse hnext
          rcases of_parse_nextKey hnext with ⟨rfl, hclosing⟩ | ⟨rfl, hreach⟩
          · simp only [hnext] at hread
            cases hread
            exact Bracket.contains_close hclosing
          cases hmember : parse (shape.readMember seen record) afterQuote with
          | error failure => simp [hnext, hmember] at hread
          | ok taken =>
              obtain ⟨member, others⟩ := taken
              have hshorter := length_lt_of_parse hmember
              simp only [hnext, hmember] at hread
              obtain ⟨middle, value, hkey, isValue, spaced⟩ := h.of_parse_readMember hmember
              exact (hreach hkey).contains isValue spaced (ih _ (by omega) hread rfl)

end Shape.IsStrict

/-- **The elements of a list**, by induction on the fields that they are read into. -/
theorem Shape.contains_of_readElements {fields : List (Field R)}
    (h : ∀ field ∈ fields, field.IsStrict) {first : Bool} {record result : R}
    {s rest : List Char} (hread : parse (readElements first record fields) s = .ok (result, rest)) :
    Bracket.list.Contains first rest s := by
  induction fields generalizing first record s with
  | nil =>
      rw [parse_readElements_nil] at hread
      obtain ⟨_, hend, -⟩ := exists_of_map hread fun _ => rfl
      exact Bracket.contains_close (of_parse_readListEnd hend)
  | cons field fields ih =>
      obtain ⟨hfield, hfields⟩ := List.forall_mem_cons.mp h
      rw [parse_readElements_cons] at hread
      cases hnext : parse (nextElement first) s with
      | error failure => simp [hnext] at hread
      | ok next =>
          obtain ⟨step, afterLead⟩ := next
          rcases of_parse_nextElement hnext with ⟨rfl, hclosing⟩ | ⟨rfl, hreach⟩
          · simp only [hnext] at hread
            cases hread
            exact Bracket.contains_close hclosing
          cases helement : parse (field.read record) afterLead with
          | error failure => simp [hnext, helement] at hread
          | ok taken =>
              obtain ⟨element, others⟩ := taken
              simp only [hnext, helement] at hread
              obtain ⟨value, isValue, spaced⟩ := hfield record helement
              exact hreach.contains isValue spaced (ih hfields hread)

namespace Shape.IsStrict

variable {shape : Shape R} (h : shape.IsStrict) (initial : R)

include h

/-- **Values that are read as a record** have the form of a value. -/
theorem accepts_read : Accepts (shape.read initial) IsValue := by
  intro s rest value hread
  rw [parse_read] at hread
  split at hread
  next => cases hread
  next c after hs =>
    split at hread
    next hbrace =>
      exact (h.contains_of_readMembers hread).exists_value (by rw [hs, hbrace]; rfl)
    next =>
      split at hread
      next hbracket =>
        exact (contains_of_readElements h hread).exists_value (by rw [hs, hbracket]; rfl)
      next => cases hread

theorem isStrict_record (name : String) (put : R → T → T) :
    (Field.record name shape initial put).IsStrict :=
  fun record => (h.accepts_read initial).map fun value => put value record

/-- **A text that is read as a record** is a JSON text. -/
theorem isText_of_readAll {text : String} {record : R}
    (hread : shape.readAll initial text.toList = .ok record) : IsText text := by
  rw [readAll] at hread
  cases hrecord : parse (shape.read initial) text.toList with
  | error failure => simp [hrecord] at hread
  | ok taken =>
      obtain ⟨result, others⟩ := taken
      obtain ⟨tokens, isValue, spaced⟩ := h.accepts_read initial hrecord
      refine ⟨tokens, isValue, others, ?_, spaced⟩
      simp only [hrecord] at hread
      split at hread
      next hblank =>
        obtain ⟨blanks, blank, hothers⟩ := exists_blanks_append_skipBlanks others
        rw [hothers, hblank, List.append_nil]
        exact blank
      next => cases hread

end Shape.IsStrict

end PageBehaviors.Json
