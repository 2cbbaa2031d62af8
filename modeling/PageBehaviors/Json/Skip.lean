import PageBehaviors.Json.Number
import PageBehaviors.Json.Quotation

/-!
# Values that are skipped

A member that no record knows may hold any value.  Its text is checked, however deeply it is
nested, and nothing is kept of it.

## Main definitions

* `Json.Bracket` — the two kinds of containers.
* `Json.skipScalar`, `Json.openValue` — values that are no containers; the beginning of any value.
* `Json.skipEntries`, `Json.skipValue` — the entries of a container; any value.
-/

namespace PageBehaviors.Json

/-- The two kinds of containers. -/
inductive Bracket where
  | list
  | object
  deriving DecidableEq, Repr

namespace Bracket

/-- The container that a character opens. -/
def ofOpening? (c : Char) : Option Bracket :=
  if c = '[' then some list
  else if c = '{' then some object
  else none

/-- The character that closes a container. -/
def closing : Bracket → Char
  | list => ']'
  | object => '}'

/-- The problem with a container that is not closed. -/
def atEnd : Bracket → Problem
  | list => .eofList
  | object => .eofObject

/-- The problem with a missing comma. -/
def separator : Bracket → Problem
  | list => .expectedListSeparator
  | object => .expectedObjectSeparator

end Bracket

/-- Skip a value that is no container and begins with the first character. -/
def skipScalar : (s : List Char) → Reading Unit s.length
  | [] => .error (.atNext .eofValue [])
  | c :: rest =>
    if c = 'n' then readIdentifier "ull" rest
    else if c = 't' then readIdentifier "rue" rest
    else if c = 'f' then readIdentifier "alse" rest
    else if c = '"' then (skipString rest).widen (length_le_cons c rest)
    -- a skipped number that breaks off counts as misspelt, not as the end of the text
    else if c = '-' ∨ c.isDigit then (readNumeral .invalidNumber (c :: rest)).map fun _ => ()
    else .error (.atNext .expectedValue (c :: rest))

@[simp] theorem parse_skipScalar_nil :
    parse skipScalar [] = .error (.atNext .eofValue []) := by
  simp [parse, skipScalar]

theorem parse_skipScalar_cons (c : Char) (s : List Char) :
    parse skipScalar (c :: s) =
      if c = 'n' then parse (readIdentifier "ull") s
      else if c = 't' then parse (readIdentifier "rue") s
      else if c = 'f' then parse (readIdentifier "alse") s
      else if c = '"' then parse skipString s
      else if c = '-' ∨ c.isDigit then
        (parse (readNumeral .invalidNumber) (c :: s)).map fun taken => ((), taken.2)
      else .error (.atNext .expectedValue (c :: s)) := by
  simp [parse, skipScalar]

/-- Read the colon between a key and its value. -/
def readColon (s : List Char) : Reading Unit s.length :=
  match h : skipBlanks s with
  | [] => .error (.atNext .eofObject [])
  | c :: rest =>
    if c = ':' then
      .ok ⟨(), rest, length_lt_of_skipBlanks h⟩
    else
      .error (.atNext .expectedColon (c :: rest))

theorem parse_readColon (s : List Char) :
    parse readColon s =
      match skipBlanks s with
      | [] => .error (.atNext .eofObject [])
      | c :: rest =>
        if c = ':' then .ok ((), rest) else .error (.atNext .expectedColon (c :: rest)) := by
  unfold parse readColon
  split <;> simp [*]

/-- Skip a key and the colon after it. -/
def skipKey (s : List Char) : Reading Unit s.length :=
  match h : skipBlanks s with
  | [] => .error (.atNext .eofObject [])
  | c :: rest =>
    if c = '"' then
      match skipString rest with
      | .error failure => .error failure
      | .ok ⟨_, afterKey, keyShort⟩ =>
        (readColon afterKey).widen (length_le_of_lt
          (Nat.lt_trans keyShort (length_lt_of_skipBlanks h)))
    else
      .error (.atNext .keyMustBeString (c :: rest))

theorem parse_skipKey (s : List Char) :
    parse skipKey s =
      match skipBlanks s with
      | [] => .error (.atNext .eofObject [])
      | c :: rest =>
        if c = '"' then
          match parse skipString rest with
          | .error failure => .error failure
          | .ok (_, afterKey) => parse readColon afterKey
        else .error (.atNext .keyMustBeString (c :: rest)) := by
  unfold parse skipKey
  split
  · simp [*]
  · next c rest h =>
    simp only [h, Reading.result_ite, Reading.result_error]
    cases hk : skipString rest <;> simp

/-- Skip what stands before the value of an entry: nothing in a list, a key in an object. -/
def Bracket.skipLabel (bracket : Bracket) (s : List Char) : Reading Unit (s.length + 1) :=
  match bracket with
  | .list => .ok ⟨(), s, length_lt_succ s⟩
  | .object => (skipKey s).widen (length_le_succ s)

@[simp] theorem parse_skipLabel_list (s : List Char) :
    parse Bracket.list.skipLabel s = .ok ((), s) := by
  simp [parse, Bracket.skipLabel]

theorem parse_skipLabel_object (s : List Char) :
    parse Bracket.object.skipLabel s = parse skipKey s := by
  simp [parse, Bracket.skipLabel]

/-- What comes next in a container. -/
inductive Step where
  | entry
  | close
  deriving DecidableEq, Repr

/-- Skip to the value of the next entry, or past the bracket that closes the container.  `first`
tells that no entry has been read yet; the others follow a comma. -/
def Bracket.skipToEntry (bracket : Bracket) (first : Bool) (s : List Char) :
    Reading Step (s.length + 1) :=
  match h : skipBlanks s with
  | [] => .error (.atNext bracket.atEnd [])
  | c :: rest =>
    have shorter := length_lt_of_skipBlanks h
    if c = bracket.closing then
      .ok ⟨.close, rest, length_lt_succ_of_lt shorter⟩
    else if first then
      ((bracket.skipLabel (c :: rest)).map fun _ => .entry).widen (Nat.succ_le_succ shorter)
    else if c = ',' then
      ((bracket.skipLabel rest).map fun _ => .entry).widen (length_succ_le_succ shorter)
    else
      .error (.atNext bracket.separator (c :: rest))

theorem parse_skipToEntry (bracket : Bracket) (first : Bool) (s : List Char) :
    parse (bracket.skipToEntry first) s =
      match skipBlanks s with
      | [] => .error (.atNext bracket.atEnd [])
      | c :: rest =>
        if c = bracket.closing then .ok (.close, rest)
        else if first then
          (parse bracket.skipLabel (c :: rest)).map fun taken => (.entry, taken.2)
        else if c = ',' then
          (parse bracket.skipLabel rest).map fun taken => (.entry, taken.2)
        else .error (.atNext bracket.separator (c :: rest)) := by
  unfold parse Bracket.skipToEntry
  split <;> simp [*]

/-- Skip a value that is no container, or the bracket that opens one. -/
def openValue (s : List Char) : Reading (Option Bracket) s.length :=
  match h : skipBlanks s with
  | [] => .error (.atNext .eofValue [])
  | c :: rest =>
    have shorter := length_lt_of_skipBlanks h
    match Bracket.ofOpening? c with
    | some bracket => .ok ⟨some bracket, rest, shorter⟩
    | none => ((skipScalar (c :: rest)).map fun _ => none).widen shorter

theorem parse_openValue (s : List Char) :
    parse openValue s =
      match skipBlanks s with
      | [] => .error (.atNext .eofValue [])
      | c :: rest =>
        match Bracket.ofOpening? c with
        | some bracket => .ok (some bracket, rest)
        | none => (parse skipScalar (c :: rest)).map fun taken => (none, taken.2) := by
  unfold parse openValue
  split
  · simp [*]
  · next c rest h => cases hb : Bracket.ofOpening? c <;> simp [h, hb]

/-- Skip the entries of a container and the bracket that closes it.  `first` tells that no entry
has been read yet. -/
def skipEntries (bracket : Bracket) (first : Bool) (s : List Char) :
    Reading Unit (s.length + 1) :=
  match bracket.skipToEntry first s with
  | .error failure => .error failure
  | .ok ⟨.close, rest, short⟩ => .ok ⟨(), rest, short⟩
  | .ok ⟨.entry, afterLead, leadShort⟩ =>
    match openValue afterLead with
    | .error failure => .error failure
    | .ok ⟨none, rest, valueShort⟩ =>
      (skipEntries bracket false rest).widen (length_succ_le_succ_of_lt leadShort valueShort)
    | .ok ⟨some inner, contents, valueShort⟩ =>
      match skipEntries inner true contents with
      | .error failure => .error failure
      | .ok ⟨_, rest, innerShort⟩ => (skipEntries bracket false rest).widen (by omega)
termination_by s.length

theorem parse_skipEntries (bracket : Bracket) (first : Bool) (s : List Char) :
    parse (skipEntries bracket first) s =
      match parse (bracket.skipToEntry first) s with
      | .error failure => .error failure
      | .ok (.close, rest) => .ok ((), rest)
      | .ok (.entry, afterLead) =>
        match parse openValue afterLead with
        | .error failure => .error failure
        | .ok (none, rest) => parse (skipEntries bracket false) rest
        | .ok (some inner, rest) =>
          match parse (skipEntries inner true) rest with
          | .error failure => .error failure
          | .ok (_, afterValue) => parse (skipEntries bracket false) afterValue := by
  unfold parse
  rw [skipEntries]
  cases hn : bracket.skipToEntry first s with
  | error => rfl
  | ok next =>
    obtain ⟨step, afterLead, _⟩ := next
    cases step with
    | close => rfl
    | entry =>
      cases hv : openValue afterLead with
      | error => simp [hv]
      | ok value =>
        obtain ⟨bracket?, contents, _⟩ := value
        cases bracket? with
        | none => simp [hv]
        | some inner => cases hi : skipEntries inner true contents <;> simp [hv, hi]

/-- Skip one value of any kind. -/
def skipValue (s : List Char) : Reading Unit s.length :=
  match openValue s with
  | .error failure => .error failure
  | .ok ⟨none, rest, short⟩ => .ok ⟨(), rest, short⟩
  | .ok ⟨some bracket, rest, short⟩ => (skipEntries bracket true rest).widen short

theorem parse_skipValue (s : List Char) :
    parse skipValue s =
      match parse openValue s with
      | .error failure => .error failure
      | .ok (none, rest) => .ok ((), rest)
      | .ok (some bracket, rest) => parse (skipEntries bracket true) rest := by
  unfold parse skipValue
  cases openValue s with
  | error => rfl
  | ok value =>
    obtain ⟨bracket?, _, _⟩ := value
    cases bracket? <;> simp

end PageBehaviors.Json
