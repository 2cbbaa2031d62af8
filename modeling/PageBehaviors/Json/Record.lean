import PageBehaviors.Json.Skip

/-!
# Records

A record is read from an object, whose members may stand in any order and are found by name, or
from a list, whose elements are the fields in their order.  What is left out keeps the value it had
before.  Members of other names are skipped; a field that is given twice is refused.

## Main definitions

* `Json.wrongType` — the failure for a value of another type than the wanted one.
* `Json.Field`, `Json.Shape` — a field with its reader; the fields of a record.
* `Json.Shape.read` — reading a record.
* `Json.Shape.readAll` — reading a record that is a whole text.
-/

namespace PageBehaviors.Json

/-! ### Type mismatches -/

/-- Read the value that a message is to name.  Containers are not entered. -/
def readFound : (s : List Char) → Except Failure (Found × List Char)
  | [] => .error (.atNext .eofValue [])
  | c :: rest =>
    -- a word is known by its first letter, so a misspelt one is no type mismatch
    if c = 'n' then ((readIdentifier "ull" rest).map fun _ => Found.null).result
    else if c = 't' then ((readIdentifier "rue" rest).map fun _ => Found.boolean true).result
    else if c = 'f' then ((readIdentifier "alse" rest).map fun _ => Found.boolean false).result
    else if c = '"' then ((readString rest).map Found.string).result
    else if c = '-' ∨ c.isDigit then
      match readNumeral .eofValue (c :: rest) with
      | .error failure => .error failure
      | .ok ⟨numeral, others, _⟩ => (numeral.found? others).map fun found => (found, others)
    else if c = '[' then .ok (.sequence, c :: rest)
    else if c = '{' then .ok (.map, c :: rest)
    else .error (.atNext .expectedValue (c :: rest))

/-- The failure for a value that is not of the wanted type: usually the mismatch, but a value that
cannot be read at all is reported as such. -/
def wrongType (expected : Expected) (s : List Char) : Failure :=
  match readFound s with
  | .error failure => failure
  | .ok (found, rest) => .before (.invalidType found expected) rest

/-! ### Scalars -/

/-- Read a string value. -/
def readText (s : List Char) : Reading String s.length :=
  match h : skipBlanks s with
  | [] => .error (.atNext .eofValue [])
  | c :: rest =>
    have shorter := length_lt_of_skipBlanks h
    if c = '"' then
      (readString rest).widen (length_le_of_lt shorter)
    else
      .error (wrongType .string (c :: rest))

theorem parse_readText (s : List Char) :
    parse readText s =
      match skipBlanks s with
      | [] => .error (.atNext .eofValue [])
      | c :: rest =>
        if c = '"' then parse readString rest else .error (wrongType .string (c :: rest)) := by
  unfold parse readText
  split <;> simp [*]

/-- Read a truth value. -/
def readBoolean (s : List Char) : Reading Bool s.length :=
  match h : skipBlanks s with
  | [] => .error (.atNext .eofValue [])
  | c :: rest =>
    have shorter := length_lt_of_skipBlanks h
    if c = 't' then
      ((readIdentifier "rue" rest).map fun _ => true).widen shorter
    else if c = 'f' then
      ((readIdentifier "alse" rest).map fun _ => false).widen shorter
    else
      .error (wrongType .boolean (c :: rest))

theorem parse_readBoolean (s : List Char) :
    parse readBoolean s =
      match skipBlanks s with
      | [] => .error (.atNext .eofValue [])
      | c :: rest =>
        if c = 't' then (parse (readIdentifier "rue") rest).map fun taken => (true, taken.2)
        else if c = 'f' then (parse (readIdentifier "alse") rest).map fun taken => (false, taken.2)
        else .error (wrongType .boolean (c :: rest)) := by
  unfold parse readBoolean
  split <;> simp [*]

/-! ### Fields -/

/-- A field of a record `R`: its name, and how its value is read into a record. -/
structure Field (R : Type) where
  name : String
  read : R → (s : List Char) → Reading R s.length

/-- A record: its name and its fields in their order. -/
structure Shape (R : Type) where
  name : String
  fields : List (Field R)

namespace Field

variable {R : Type}

/-- A field that holds a text. -/
def text (name : String) (put : String → R → R) : Field R where
  name := name
  read record s := (readText s).map fun value => put value record

/-- A field that holds a truth value. -/
def boolean (name : String) (put : Bool → R → R) : Field R where
  name := name
  read record s := (readBoolean s).map fun value => put value record

end Field

/-! ### Members of an object -/

/-- Read up to the characters of the key that follows a comma. -/
def nextKeyAfterComma (s : List Char) : Reading Step s.length :=
  match h : skipBlanks s with
  | [] => .error (.atNext .eofValue [])
  | c :: rest =>
    if c = '"' then
      .ok ⟨.entry, rest, length_lt_of_skipBlanks h⟩
    else if c = '}' then
      .error (.atNext .trailingComma (c :: rest))
    else
      .error (.atNext .keyMustBeString (c :: rest))

theorem parse_nextKeyAfterComma (s : List Char) :
    parse nextKeyAfterComma s =
      match skipBlanks s with
      | [] => .error (.atNext .eofValue [])
      | c :: rest =>
        if c = '"' then .ok (.entry, rest)
        else if c = '}' then .error (.atNext .trailingComma (c :: rest))
        else .error (.atNext .keyMustBeString (c :: rest)) := by
  unfold parse nextKeyAfterComma
  split <;> simp [*]

/-- Read up to the characters of the next key, or past the brace that closes the object. -/
def nextKey (first : Bool) (s : List Char) : Reading Step s.length :=
  match h : skipBlanks s with
  | [] => .error (.atNext .eofObject [])
  | c :: rest =>
    have shorter := length_lt_of_skipBlanks h
    if c = '}' then
      .ok ⟨.close, rest, shorter⟩
    else if first then
      if c = '"' then
        .ok ⟨.entry, rest, shorter⟩
      else
        .error (.atNext .keyMustBeString (c :: rest))
    else if c = ',' then
      (nextKeyAfterComma rest).widen (length_le_of_lt shorter)
    else
      .error (.atNext .expectedObjectSeparator (c :: rest))

theorem parse_nextKey (first : Bool) (s : List Char) :
    parse (nextKey first) s =
      match skipBlanks s with
      | [] => .error (.atNext .eofObject [])
      | c :: rest =>
        if c = '}' then .ok (.close, rest)
        else if first then
          if c = '"' then .ok (.entry, rest) else .error (.atNext .keyMustBeString (c :: rest))
        else if c = ',' then parse nextKeyAfterComma rest
        else .error (.atNext .expectedObjectSeparator (c :: rest)) := by
  unfold parse nextKey
  split <;> simp [*]

/-- What is left after blanks and the brace that closes an object, if it stands there. -/
def afterBrace (s : List Char) : List Char :=
  match skipBlanks s with
  | [] => []
  | c :: rest => if c = '}' then rest else c :: rest

namespace Shape

variable {R : Type}

/-- The field of the given name. -/
def field? (shape : Shape R) (name : String) : Option (Field R) :=
  shape.fields.find? fun field => field.name == name

/-- Read the value of a member: into the record if its name is known, else to skip it. -/
def readValue (shape : Shape R) (name : String) (record : R) (s : List Char) :
    Reading R s.length :=
  match shape.field? name with
  | some field => field.read record s
  | none => (skipValue s).map fun _ => record

theorem parse_readValue (shape : Shape R) (name : String) (record : R) (s : List Char) :
    parse (shape.readValue name record) s =
      match shape.field? name with
      | some field => parse (field.read record) s
      | none => (parse skipValue s).map fun taken => (record, taken.2) := by
  unfold parse readValue
  cases shape.field? name <;> simp

/-- Read a member from the characters of its key on.  `seen` are the names given so far. -/
def readMember (shape : Shape R) (seen : List String) (record : R) (s : List Char) :
    Reading (List String × R) s.length :=
  match readString s with
  | .error failure => .error failure
  | .ok ⟨key, afterKey, keyShort⟩ =>
    if (shape.field? key).isSome ∧ key ∈ seen then
      .error (.before (.duplicateField key) (afterBrace afterKey))
    else
      match readColon afterKey with
      | .error failure => .error failure
      | .ok ⟨_, afterColon, colonShort⟩ =>
        ((shape.readValue key record afterColon).map fun value => (key :: seen, value)).widen
          (length_le_of_lt (Nat.lt_trans colonShort keyShort))

theorem parse_readMember (shape : Shape R) (seen : List String) (record : R) (s : List Char) :
    parse (shape.readMember seen record) s =
      match parse readString s with
      | .error failure => .error failure
      | .ok (key, afterKey) =>
        if (shape.field? key).isSome ∧ key ∈ seen then
          .error (.before (.duplicateField key) (afterBrace afterKey))
        else
          match parse readColon afterKey with
          | .error failure => .error failure
          | .ok (_, afterColon) =>
            (parse (shape.readValue key record) afterColon).map fun taken =>
              ((key :: seen, taken.1), taken.2) := by
  unfold parse readMember
  cases readString s with
  | error => rfl
  | ok taken =>
    obtain ⟨key, afterKey, _⟩ := taken
    simp only [Reading.result_ite, Reading.result_error, Reading.result_ok]
    cases hc : readColon afterKey <;> simp

/-- Read the members of an object and the brace that closes it. -/
def readMembers (shape : Shape R) (first : Bool) (seen : List String) (record : R)
    (s : List Char) : Reading R s.length :=
  match nextKey first s with
  | .error failure => .error failure
  | .ok ⟨.close, rest, short⟩ => .ok ⟨record, rest, short⟩
  | .ok ⟨.entry, afterQuote, quoteShort⟩ =>
    match shape.readMember seen record afterQuote with
    | .error failure => .error failure
    | .ok ⟨member, rest, memberShort⟩ =>
      (shape.readMembers false member.1 member.2 rest).widen
        (length_le_of_lt (Nat.lt_trans memberShort quoteShort))
termination_by s.length

theorem parse_readMembers (shape : Shape R) (first : Bool) (seen : List String) (record : R)
    (s : List Char) :
    parse (shape.readMembers first seen record) s =
      match parse (nextKey first) s with
      | .error failure => .error failure
      | .ok (.close, rest) => .ok (record, rest)
      | .ok (.entry, afterQuote) =>
        match parse (shape.readMember seen record) afterQuote with
        | .error failure => .error failure
        | .ok (member, rest) => parse (shape.readMembers false member.1 member.2) rest := by
  unfold parse
  rw [readMembers]
  cases hn : nextKey first s with
  | error => rfl
  | ok next =>
    obtain ⟨step, afterQuote, _⟩ := next
    cases step with
    | close => rfl
    | entry => cases hm : shape.readMember seen record afterQuote <;> simp [hm]

end Shape

/-! ### Elements of a list -/

/-- Read up to the element that follows a comma. -/
def nextElementAfterComma (s : List Char) : Reading Step (s.length + 1) :=
  match h : skipBlanks s with
  | [] => .error (.atNext .eofValue [])
  | c :: rest =>
    if c = ']' then
      .error (.atNext .trailingComma (c :: rest))
    else
      .ok ⟨.entry, c :: rest, length_cons_lt_succ c (length_lt_of_skipBlanks h)⟩

theorem parse_nextElementAfterComma (s : List Char) :
    parse nextElementAfterComma s =
      match skipBlanks s with
      | [] => .error (.atNext .eofValue [])
      | c :: rest =>
        if c = ']' then .error (.atNext .trailingComma (c :: rest))
        else .ok (.entry, c :: rest) := by
  unfold parse nextElementAfterComma
  split <;> simp [*]

/-- Read up to the next element, or past the bracket that closes the list. -/
def nextElement (first : Bool) (s : List Char) : Reading Step (s.length + 1) :=
  match h : skipBlanks s with
  | [] => .error (.atNext .eofList [])
  | c :: rest =>
    have shorter := length_lt_of_skipBlanks h
    if c = ']' then
      .ok ⟨.close, rest, length_lt_succ_of_lt shorter⟩
    else if first then
      .ok ⟨.entry, c :: rest, length_cons_lt_succ c shorter⟩
    else if c = ',' then
      (nextElementAfterComma rest).widen (length_succ_le_succ shorter)
    else
      .error (.atNext .expectedListSeparator (c :: rest))

theorem parse_nextElement (first : Bool) (s : List Char) :
    parse (nextElement first) s =
      match skipBlanks s with
      | [] => .error (.atNext .eofList [])
      | c :: rest =>
        if c = ']' then .ok (.close, rest)
        else if first then .ok (.entry, c :: rest)
        else if c = ',' then parse nextElementAfterComma rest
        else .error (.atNext .expectedListSeparator (c :: rest)) := by
  unfold parse nextElement
  split <;> simp [*]

/-- The failure for a comma after the last field of a list. -/
def surplusComma (s : List Char) : Failure :=
  match skipBlanks s with
  | [] => .atNext .trailingCharacters []
  | c :: rest => .atNext (if c = ']' then .trailingComma else .trailingCharacters) (c :: rest)

/-- Read the bracket that closes a list after its last field. -/
def readListEnd (s : List Char) : Reading Unit s.length :=
  match h : skipBlanks s with
  | [] => .error (.atNext .eofList [])
  | c :: rest =>
    if c = ']' then
      .ok ⟨(), rest, length_lt_of_skipBlanks h⟩
    else if c = ',' then
      .error (surplusComma rest)
    else
      .error (.atNext .trailingCharacters (c :: rest))

theorem parse_readListEnd (s : List Char) :
    parse readListEnd s =
      match skipBlanks s with
      | [] => .error (.atNext .eofList [])
      | c :: rest =>
        if c = ']' then .ok ((), rest)
        else if c = ',' then .error (surplusComma rest)
        else .error (.atNext .trailingCharacters (c :: rest)) := by
  unfold parse readListEnd
  split <;> simp [*]

namespace Shape

variable {R : Type}

/-- Read the elements of a list into the given fields, and the bracket that closes it. -/
def readElements (first : Bool) (record : R) :
    (fields : List (Field R)) → (s : List Char) → Reading R (s.length + 1)
  | [], s => ((readListEnd s).map fun _ => record).widen (length_le_succ s)
  | field :: fields, s =>
    match nextElement first s with
    | .error failure => .error failure
    | .ok ⟨.close, rest, short⟩ => .ok ⟨record, rest, short⟩
    | .ok ⟨.entry, afterLead, leadShort⟩ =>
      match field.read record afterLead with
      | .error failure => .error failure
      | .ok ⟨element, rest, elementShort⟩ =>
        (readElements false element fields rest).widen
          (length_succ_le_succ_of_lt leadShort elementShort)

theorem parse_readElements_nil (first : Bool) (record : R) (s : List Char) :
    parse (readElements first record []) s =
      (parse readListEnd s).map fun taken => (record, taken.2) := by
  simp [parse, readElements]

theorem parse_readElements_cons (first : Bool) (record : R) (field : Field R)
    (fields : List (Field R)) (s : List Char) :
    parse (readElements first record (field :: fields)) s =
      match parse (nextElement first) s with
      | .error failure => .error failure
      | .ok (.close, rest) => .ok (record, rest)
      | .ok (.entry, afterLead) =>
        match parse (field.read record) afterLead with
        | .error failure => .error failure
        | .ok (element, rest) => parse (readElements false element fields) rest := by
  unfold parse
  rw [readElements]
  cases hn : nextElement first s with
  | error => rfl
  | ok next =>
    obtain ⟨step, afterLead, _⟩ := next
    cases step with
    | close => rfl
    | entry => cases hf : field.read record afterLead <;> simp [hf]

/-! ### Whole records -/

/-- Read a record, where fields that are left out keep their value in `initial`. -/
def read (shape : Shape R) (initial : R) (s : List Char) : Reading R s.length :=
  match h : skipBlanks s with
  | [] => .error (.atNext .eofValue [])
  | c :: rest =>
    have shorter := length_lt_of_skipBlanks h
    if c = '{' then
      (shape.readMembers true [] initial rest).widen (length_le_of_lt shorter)
    else if c = '[' then
      (readElements true initial shape.fields rest).widen shorter
    else
      .error (wrongType (.record shape.name) (c :: rest))

theorem parse_read (shape : Shape R) (initial : R) (s : List Char) :
    parse (shape.read initial) s =
      match skipBlanks s with
      | [] => .error (.atNext .eofValue [])
      | c :: rest =>
        if c = '{' then parse (shape.readMembers true [] initial) rest
        else if c = '[' then parse (readElements true initial shape.fields) rest
        else .error (wrongType (.record shape.name) (c :: rest)) := by
  unfold parse read
  split <;> simp [*]

/-- Read a text that holds one record and nothing else. -/
def readAll (shape : Shape R) (initial : R) (s : List Char) : Except Failure R :=
  match parse (shape.read initial) s with
  | .error failure => .error failure
  | .ok (record, others) =>
    match skipBlanks others with
    | [] => .ok record
    | c :: rest => .error (.atNext .trailingCharacters (c :: rest))

end Shape

/-- A field that holds a record of its own. -/
def Field.record {R T : Type} (name : String) (shape : Shape T) (initial : T) (put : T → R → R) :
    Field R where
  name := name
  read record s := (shape.read initial s).map fun value => put value record

end PageBehaviors.Json
