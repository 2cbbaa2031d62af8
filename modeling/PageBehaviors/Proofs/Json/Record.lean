import PageBehaviors.Json.Record
import PageBehaviors.Proofs.Json.Skip
import PageBehaviors.Proofs.Json.Slots

/-!
# Reading records

A reader gives what a value stands for, whatever tokens spell the value, or fails if it stands for
nothing.  This is shown for the two types of scalars first.  A record is then read as its members,
or its elements, are stored in turn, and so its reader gives the record that the value stands for.
Records are fields of records in their turn.

## Main definitions and statements

* `Json.Means` — a reader gives what a value stands for.
* `Json.Field.Fills` — a field is read as its slot tells.
* `Json.Shape.Follows` — all fields of a record are.
* `Json.Shape.Follows.means_read` — reading a record.
* `Json.Shape.Follows.toOption_readAll` — reading a text that holds one record.
-/

namespace PageBehaviors.Json

/-- A reader gives what a value stands for and leaves what follows, or fails if the value stands
for nothing. -/
def Means {α : Type} {bound : List Char → Nat} (reader : (s : List Char) → Reading α (bound s))
    (meaning : Value → Option α) : Prop :=
  ∀ ⦃value tokens rest text⦄, Spells value tokens → Ends rest → Spaced tokens rest text →
    (parse reader text).toOption = (meaning value).map fun result => (result, rest)

section

variable {α β : Type} {parsed : Except Failure α}

theorem toOption_eq_some {result : α} : parsed.toOption = some result ↔ parsed = .ok result := by
  cases parsed <;> simp [Except.toOption]

theorem toOption_eq_none : parsed.toOption = none ↔ ∃ failure, parsed = .error failure := by
  cases parsed <;> simp [Except.toOption]

theorem toOption_map (f : α → β) : (parsed.map f).toOption = parsed.toOption.map f := by
  cases parsed <;> rfl

end

/-- A reader gives the meaning of a value, or the value has none. -/
theorem Means.read_or_fail {α : Type} {bound : List Char → Nat}
    {reader : (s : List Char) → Reading α (bound s)} {meaning : Value → Option α}
    (h : Means reader meaning) {value : Value} {tokens : List Token} {rest text : List Char}
    (spells : Spells value tokens) (ends : Ends rest) (spaced : Spaced tokens rest text) :
    (∃ result, meaning value = some result ∧ parse reader text = .ok (result, rest)) ∨
      ∃ failure, meaning value = none ∧ parse reader text = .error failure := by
  have hread := h spells ends spaced
  cases hmeaning : meaning value with
  | none =>
      rw [hmeaning, Option.map_none, toOption_eq_none] at hread
      obtain ⟨failure, hfailure⟩ := hread
      exact Or.inr ⟨failure, rfl, hfailure⟩
  | some result =>
      rw [hmeaning, Option.map_some, toOption_eq_some] at hread
      exact Or.inl ⟨result, rfl, hread⟩

/-! ### Scalars -/

namespace Value.Begins

variable {value : Value}

theorem eq_string (h : value.Begins '"') : ∃ s, value = .string s := by
  cases value with
  | string s => exact ⟨s, rfl⟩
  | boolean b => cases b <;> simp [Begins] at h
  | _ => simp [Begins] at h

theorem eq_true (h : value.Begins 't') : value = .boolean true := by
  cases value with
  | boolean b => cases b <;> simp [Begins] at h ⊢
  | _ => simp [Begins] at h

theorem eq_false (h : value.Begins 'f') : value = .boolean false := by
  cases value with
  | boolean b => cases b <;> simp [Begins] at h ⊢
  | _ => simp [Begins] at h

theorem eq_array (h : value.Begins '[') : ∃ elements, value = .array elements := by
  cases value with
  | array elements => exact ⟨elements, rfl⟩
  | boolean b => cases b <;> simp [Begins] at h
  | _ => simp [Begins] at h

theorem eq_object (h : value.Begins '{') : ∃ members, value = .object members := by
  cases value with
  | object members => exact ⟨members, rfl⟩
  | boolean b => cases b <;> simp [Begins] at h
  | _ => simp [Begins] at h

variable {c : Char} (h : value.Begins c)

include h

theorem text?_eq_none (hc : c ≠ '"') : value.text? = none := by
  cases value with
  | string s => exact absurd h hc
  | _ => rfl

theorem boolean?_eq_none (ht : c ≠ 't') (hf : c ≠ 'f') : value.boolean? = none := by
  cases value with
  | boolean b =>
      cases b with
      | true => exact absurd h ht
      | false => exact absurd h hf
  | _ => rfl

theorem recordOf_eq_none {R : Type} (slots : List (Slot R)) (initial : R) (hobject : c ≠ '{')
    (harray : c ≠ '[') : recordOf slots initial value = none := by
  cases value with
  | object members => exact absurd h hobject
  | array elements => exact absurd h harray
  | _ => rfl

end Value.Begins

theorem means_readText : Means readText Value.text? := by
  intro value tokens rest text spells ends spaced
  obtain ⟨c, token, others, rfl, hc⟩ := spells.begins
  obtain ⟨after, htext, hafter⟩ := spaced.skipBlanks_eq hc.isBlank_eq
  rw [parse_readText, htext]
  by_cases hquote : c = '"'
  · subst hquote
    obtain ⟨s, rfl⟩ := hc.eq_string
    cases spells with
    | string quotes =>
        obtain ⟨inside, htoken, hread⟩ := parse_readString_of_quotes quotes
        cases htoken
        cases hafter
        simp only [if_true, hread]
        rfl
  · simp only [if_neg hquote, hc.text?_eq_none hquote]
    rfl

theorem means_readBoolean : Means readBoolean Value.boolean? := by
  intro value tokens rest text spells ends spaced
  obtain ⟨c, token, others, rfl, hc⟩ := spells.begins
  obtain ⟨after, htext, hafter⟩ := spaced.skipBlanks_eq hc.isBlank_eq
  rw [parse_readBoolean, htext]
  by_cases htrue : c = 't'
  · subst htrue
    obtain rfl := hc.eq_true
    cases spells
    cases hafter
    show ((parse (readIdentifier "rue") ("rue".toList ++ rest)).map fun taken =>
      (true, taken.2)).toOption = _
    rw [parse_readIdentifier_append]
    rfl
  by_cases hfalse : c = 'f'
  · subst hfalse
    obtain rfl := hc.eq_false
    cases spells
    cases hafter
    show ((parse (readIdentifier "alse") ("alse".toList ++ rest)).map fun taken =>
      (false, taken.2)).toOption = _
    rw [parse_readIdentifier_append]
    rfl
  simp only [if_neg htrue, if_neg hfalse, hc.boolean?_eq_none htrue hfalse]
  rfl

variable {R : Type}

/-! ### Fields -/

/-- A field is read into a record as its slot tells. -/
def Field.Fills (field : Field R) (slot : Slot R) : Prop :=
  field.name = slot.name ∧ ∀ record, Means (field.read record) fun value =>
    slot.store record (some value)

/-- What a reader of a record gives when its value is changed. -/
theorem Means.map {α β : Type} {bound : List Char → Nat}
    {reader : (s : List Char) → Reading α (bound s)} {meaning : Value → Option α}
    (h : Means reader meaning) (f : α → β) :
    Means (fun s => (reader s).map f) fun value => (meaning value).map f := by
  intro value tokens rest text spells ends spaced
  have hparse : parse (fun s => (reader s).map f) text =
      (parse reader text).map fun taken => (f taken.1, taken.2) := by
    rw [parse, Reading.result_map, parse]
  rw [hparse, toOption_map, h spells ends spaced, Option.map_map, Option.map_map]
  rfl

theorem Field.fills_typed {α : Type} {reader : (s : List Char) → Reading α s.length}
    {type : Value → Option α} (h : Means reader type) (name : String) (put : α → R → R) :
    Field.Fills ⟨name, fun record s => (reader s).map fun value => put value record⟩
      (.typed name type put) := by
  refine ⟨rfl, fun record => ?_⟩
  intro value tokens rest text spells ends spaced
  rw [h.map (fun value => put value record) spells ends spaced]
  simp only [Slot.store, Slot.typed, Option.map_map]
  rfl

theorem Field.fills_text (name : String) (put : String → R → R) :
    (Field.text name put).Fills (.typed name Value.text? put) :=
  fills_typed means_readText name put

theorem Field.fills_boolean (name : String) (put : Bool → R → R) :
    (Field.boolean name put).Fills (.typed name Value.boolean? put) :=
  fills_typed means_readBoolean name put

/-! ### Members of an object -/

section

variable {tokens : List Token} {rest text : List Char}

/-- Past the last member stands the brace that closes the object. -/
theorem parse_nextKey_close (first : Bool) (h : Spaced [['}']] rest text) :
    parse (nextKey first) text = .ok (.close, rest) := by
  obtain ⟨after, htext, hafter⟩ := h.skipBlanks_eq (by decide)
  cases hafter
  simp [parse_nextKey, htext]

/-- A key is found after a comma, or right away if it is the first one. -/
theorem parse_nextKey_entry {inside : List Char} (first : Bool)
    (h : Spaced ((if first then [] else [[',']]) ++ (('"' :: inside) :: tokens)) rest text) :
    ∃ after, parse (nextKey first) text = .ok (.entry, inside ++ after) ∧
      Spaced tokens rest after := by
  cases first with
  | true =>
      obtain ⟨after, htext, hafter⟩ := Spaced.skipBlanks_eq h (by decide)
      exact ⟨after, by simp [parse_nextKey, htext], hafter⟩
  | false =>
      obtain ⟨afterComma, hcomma, hkey⟩ := Spaced.skipBlanks_eq h (by decide)
      obtain ⟨after, htext, hafter⟩ := Spaced.skipBlanks_eq hkey (by decide)
      exact ⟨after, by simp [parse_nextKey, parse_nextKeyAfterComma, hcomma, htext], hafter⟩

/-- Past the last element stands the bracket that closes the array. -/
theorem parse_nextElement_close (first : Bool) (h : Spaced [[']']] rest text) :
    parse (nextElement first) text = .ok (.close, rest) := by
  obtain ⟨after, htext, hafter⟩ := h.skipBlanks_eq (by decide)
  cases hafter
  simp [parse_nextElement, htext]

/-- An element is found after a comma, or right away if it is the first one. -/
theorem parse_nextElement_entry {value : Value} {spelling : List Token} (first : Bool)
    (spells : Spells value spelling)
    (h : Spaced ((if first then [] else [[',']]) ++ (spelling ++ tokens)) rest text) :
    ∃ after, parse (nextElement first) text = .ok (.entry, after) ∧
      Spaced (spelling ++ tokens) rest after := by
  cases first with
  | true =>
      obtain ⟨c, after, htext, hc, hspaced⟩ := spells.skipBlanks_eq h
      exact ⟨c :: after, by simp [parse_nextElement, htext, hc.ne_closing.1], hspaced⟩
  | false =>
      obtain ⟨afterComma, hcomma, hvalue⟩ := Spaced.skipBlanks_eq h (by decide)
      obtain ⟨c, after, htext, hc, hspaced⟩ := spells.skipBlanks_eq hvalue
      refine ⟨c :: after, ?_, hspaced⟩
      simp [parse_nextElement, parse_nextElementAfterComma, hcomma, htext, hc.ne_closing.1]

/-- A list ends where its last field has been read; another element is refused. -/
theorem toOption_readListEnd {elements : List Value} {parts : List (List Token)}
    (h : List.Forall₂ Spells elements parts) (first : Bool)
    (spaced : Spaced (entryTokens first parts ++ [[']']]) rest text) :
    (parse readListEnd text).toOption = if elements = [] then some ((), rest) else none := by
  rw [parse_readListEnd]
  cases h with
  | nil =>
      rw [entryTokens_nil, List.nil_append] at spaced
      obtain ⟨after, htext, hafter⟩ := spaced.skipBlanks_eq (by decide)
      cases hafter
      simp [htext, Except.toOption]
  | cons spells others =>
      rw [entryTokens_cons, List.append_assoc, List.append_assoc] at spaced
      rw [if_neg (List.cons_ne_nil _ _)]
      cases first with
      | true =>
          obtain ⟨c, after, htext, hc, -⟩ := spells.skipBlanks_eq spaced
          simp only [htext, if_neg hc.ne_closing.1]
          split <;> rfl
      | false =>
          obtain ⟨after, htext, -⟩ := Spaced.skipBlanks_eq spaced (by decide)
          simp [htext, Except.toOption]

end

namespace Shape

variable {shape : Shape R} {slots : List (Slot R)}

/-- The field of a name is read as the slot of that name tells. -/
theorem field?_fills (fills : List.Forall₂ Field.Fills shape.fields slots) (name : String) :
    Option.Rel Field.Fills (shape.field? name) (slots.find? fun slot => slot.name == name) := by
  rw [field?]
  generalize shape.fields = fields at fills
  induction fills with
  | nil => exact .none
  | @cons field slot fields slots hfield _ ih =>
      rw [List.find?_cons, List.find?_cons, hfield.1]
      cases slot.name == name with
      | true => exact .some hfield
      | false => exact ih

/-- **The members of an object** are stored in their order. -/
theorem toOption_readMembers (fills : List.Forall₂ Field.Fills shape.fields slots)
    {members : List (String × Value)} {parts : List (List Token)}
    (h : List.Forall₂ MemberSpelled members parts) (first : Bool) (seen : List String)
    (record : R) {rest text : List Char}
    (spaced : Spaced (entryTokens first parts ++ [['}']]) rest text) :
    (parse (shape.readMembers first seen record) text).toOption =
      (storeMembers slots seen members record).map fun result => (result, rest) := by
  induction h generalizing first seen record text with
  | nil =>
      rw [entryTokens_nil, List.nil_append] at spaced
      rw [parse_readMembers, parse_nextKey_close first spaced]
      rfl
  | @cons member part members parts spelled _ ih =>
      obtain ⟨name, value⟩ := member
      obtain ⟨key, spelling, quotes, spells, rfl⟩ := spelled
      obtain ⟨inside, rfl, hkey⟩ := parse_readString_of_quotes quotes
      rw [entryTokens_cons, List.append_assoc, List.append_assoc] at spaced
      obtain ⟨afterKey, hnext, hcolon⟩ := parse_nextKey_entry first spaced
      obtain ⟨afterColon, hread, hentry⟩ := parse_readColon_of_spaced hcolon
      obtain ⟨afterValue, hvalue, hothers⟩ := Spaced.append_iff.mp hentry
      have ends := ends_entryTokens (by decide) hothers
      rw [parse_readMembers, hnext, storeMembers]
      simp only [parse_readMember, hkey, hread, parse_readValue]
      -- the name is known to both, or to neither
      have known := field?_fills fills name
      generalize shape.field? name = field? at known ⊢
      generalize (slots.find? fun slot => slot.name == name) = slot? at known ⊢
      cases known with
      | none =>
          simp only [Option.isSome_none, Bool.false_eq_true, false_and, if_false,
            spells.skips _ _ ends hvalue, Except.map]
          exact ih false (name :: seen) record hothers
      | @some field slot hfield =>
          simp only [Option.isSome_some, true_and]
          by_cases hseen : name ∈ seen
          · simp only [if_pos hseen]
            rfl
          · simp only [if_neg hseen]
            rcases (hfield.2 record).read_or_fail spells ends hvalue with
              ⟨stored, hstore, hstored⟩ | ⟨failure, hstore, hfailure⟩
            · simp only [hstore, hstored, Except.map, Option.bind_some]
              exact ih false (name :: seen) stored hothers
            · simp only [hstore, hfailure]
              rfl

end Shape

/-! ### Elements of an array -/

/-- **The elements of an array** are stored in the order of the fields. -/
theorem Shape.toOption_readElements {fields : List (Field R)} {slots : List (Slot R)}
    (fills : List.Forall₂ Field.Fills fields slots) {elements : List Value}
    {parts : List (List Token)} (h : List.Forall₂ Spells elements parts) (first : Bool)
    (record : R) {rest text : List Char}
    (spaced : Spaced (entryTokens first parts ++ [[']']]) rest text) :
    (parse (readElements first record fields) text).toOption =
      (storeElements slots elements record).map fun result => (result, rest) := by
  induction fills generalizing elements parts first record text with
  | nil =>
      have hend := toOption_readListEnd h first spaced
      rw [parse_readElements_nil, toOption_map, hend]
      cases elements with
      | nil => rfl
      | cons value elements => rfl
  | @cons field slot fields slots hfield _ ih =>
      cases h with
      | nil =>
          rw [entryTokens_nil, List.nil_append] at spaced
          rw [parse_readElements_cons, parse_nextElement_close first spaced]
          rfl
      | @cons value part elements parts spells others =>
          rw [entryTokens_cons, List.append_assoc, List.append_assoc] at spaced
          obtain ⟨after, hnext, hentry⟩ := parse_nextElement_entry first spells spaced
          obtain ⟨afterValue, hvalue, hothers⟩ := Spaced.append_iff.mp hentry
          have ends := ends_entryTokens (by decide) hothers
          rw [parse_readElements_cons, hnext, storeElements]
          rcases (hfield.2 record).read_or_fail spells ends hvalue with
            ⟨stored, hstore, hstored⟩ | ⟨failure, hstore, hfailure⟩
          · simp only [hstore, hstored, Option.bind_some]
            exact ih others false stored hothers
          · simp only [hstore, hfailure]
            rfl

/-! ### Whole records -/

/-- The fields of a record are read as the slots tell, and change different parts of it. -/
structure Shape.Follows (shape : Shape R) (slots : List (Slot R)) : Prop where
  fills : List.Forall₂ Field.Fills shape.fields slots
  independent : Independent slots

section

variable {shape : Shape R} {slots : List (Slot R)} (h : shape.Follows slots) (initial : R)

include h

/-- **Reading a record** gives the record that the value stands for. -/
theorem Shape.Follows.means_read : Means (shape.read initial) (recordOf slots initial) := by
  intro value tokens rest text spells ends spaced
  obtain ⟨c, token, others, rfl, hc⟩ := spells.begins
  obtain ⟨after, htext, hafter⟩ := spaced.skipBlanks_eq hc.isBlank_eq
  rw [Shape.parse_read, htext]
  by_cases hobject : c = '{'
  · subst hobject
    obtain ⟨members, rfl⟩ := hc.eq_object
    cases spells with
    | object hkeys hvalues =>
        rw [recordOf_object h.independent]
        have spelled := forall₂_memberSpelled hkeys hvalues
        exact shape.toOption_readMembers h.fills spelled true [] initial hafter
  by_cases harray : c = '['
  · subst harray
    obtain ⟨elements, rfl⟩ := hc.eq_array
    cases spells with
    | array spelled =>
        rw [recordOf_array h.independent]
        exact Shape.toOption_readElements h.fills spelled true initial hafter
  simp only [if_neg hobject, if_neg harray, hc.recordOf_eq_none slots initial hobject harray]
  rfl

theorem Field.fills_record {T : Type} (name : String) (put : R → T → T) :
    (Field.record name shape initial put).Fills
      (.typed name (recordOf slots initial) put) :=
  fills_typed (h.means_read initial) name put

/-- **A text that holds one record** and nothing else gives the record that its value stands
for. -/
theorem Shape.Follows.toOption_readAll {text : String} {value : Value}
    (denotes : Denotes text value) :
    (shape.readAll initial text.toList).toOption = recordOf slots initial value := by
  obtain ⟨tokens, spells, trailing, blank, spaced⟩ := denotes
  rw [Shape.readAll]
  rcases (h.means_read initial).read_or_fail spells (ends_blank blank) spaced with
    ⟨record, hrecord, hread⟩ | ⟨failure, hrecord, hfailure⟩
  · simp only [hrecord, hread, skipBlanks_blank blank]
    rfl
  · simp only [hrecord, hfailure]
    rfl

end

end PageBehaviors.Json
