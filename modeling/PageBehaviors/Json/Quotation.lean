import PageBehaviors.Json.Reading

/-!
# Strings

A string is read up to its closing quote.  Characters outside the basic plane may be escaped as a
pair of surrogates; a surrogate without its partner is refused.  The strings of values that are
skipped are checked less strictly: any four hexadecimal digits will do after `\u`.

## Main definitions

* `Json.readHex` — the four digits of a `\u` escape.
* `Json.readEscape`, `Json.skipEscape` — the two ways of reading an escape.
* `Json.readCharacters` — the characters up to the closing quote.
* `Json.readString`, `Json.skipString` — strings that are kept and strings that are skipped.
-/

namespace PageBehaviors.Json

/-! ### Hexadecimal digits -/

/-- The value of a hexadecimal digit. -/
def hexDigit? (c : Char) : Option Nat :=
  if '0' ≤ c ∧ c ≤ '9' then some (c.toNat - '0'.toNat)
  else if 'a' ≤ c ∧ c ≤ 'f' then some (c.toNat - 'a'.toNat + 10)
  else if 'A' ≤ c ∧ c ≤ 'F' then some (c.toNat - 'A'.toNat + 10)
  else none

/-- The value of a numeral with the given hexadecimal digits. -/
def hexValue? (digits : List Char) : Option Nat :=
  digits.foldl (fun value c => value.bind fun v => (hexDigit? c).map (16 * v + ·)) (some 0)

/-- Read four bytes that are hexadecimal digits. -/
def readHex : (s : List Char) → Reading Nat s.length
  | a :: b :: c :: d :: rest =>
    match hexValue? [a, b, c, d] with
    | some value => .ok ⟨value, rest, by simp only [List.length_cons]; omega⟩
    | none => .error ⟨.invalidEscape, a :: b :: c :: d :: rest, 4⟩
  | s =>
    if byteCount s < 4 then .error (.atEnd .eofString) else .error ⟨.invalidEscape, s, 4⟩

theorem parse_readHex_cons (a b c d : Char) (rest : List Char) :
    parse readHex (a :: b :: c :: d :: rest) =
      match hexValue? [a, b, c, d] with
      | some value => .ok (value, rest)
      | none => .error ⟨.invalidEscape, a :: b :: c :: d :: rest, 4⟩ := by
  unfold parse readHex
  split <;> simp [*]

/-! ### Escapes -/

/-- The character that a letter stands for after a backslash. -/
def shortEscape? (c : Char) : Option Char :=
  if c = '"' ∨ c = '\\' ∨ c = '/' then some c
  else if c = 'b' then some '\x08'
  else if c = 'f' then some '\x0c'
  else if c = 'n' then some '\n'
  else if c = 'r' then some '\r'
  else if c = 't' then some '\t'
  else none

/-- Whether a number is the first half of a surrogate pair. -/
def isHighSurrogate (n : Nat) : Bool :=
  decide (0xd800 ≤ n ∧ n < 0xdc00)

/-- Whether a number is the second half of a surrogate pair. -/
def isLowSurrogate (n : Nat) : Bool :=
  decide (0xdc00 ≤ n ∧ n < 0xe000)

/-- The character that a surrogate pair stands for. -/
def ofSurrogates (high low : Nat) : Char :=
  Char.ofNat (0x10000 + (high - 0xd800) * 0x400 + (low - 0xdc00))

/-- Read the second half of a surrogate pair, which is an escape of its own. -/
def readLowSurrogate (high : Nat) (s : List Char) : Reading Char (s.length + 1) :=
  match readWord .eofString .unexpectedEndOfEscape ['\\', 'u'] s with
  | .error failure => .error failure
  | .ok ⟨_, marked, markShort⟩ =>
    match readHex marked with
    | .error failure => .error failure
    | .ok ⟨low, rest, lowShort⟩ =>
      if isLowSurrogate low then
        .ok ⟨ofSurrogates high low, rest, Nat.lt_trans lowShort markShort⟩
      else
        .error (.before .loneSurrogate rest)

theorem parse_readLowSurrogate (high : Nat) (s : List Char) :
    parse (readLowSurrogate high) s =
      match parse (readWord .eofString .unexpectedEndOfEscape ['\\', 'u']) s with
      | .error failure => .error failure
      | .ok (_, marked) =>
        match parse readHex marked with
        | .error failure => .error failure
        | .ok (low, rest) =>
          if isLowSurrogate low then .ok (ofSurrogates high low, rest)
          else .error (.before .loneSurrogate rest) := by
  unfold parse readLowSurrogate
  cases readWord .eofString .unexpectedEndOfEscape ['\\', 'u'] s with
  | error => rfl
  | ok mark =>
    obtain ⟨_, marked, _⟩ := mark
    cases h : readHex marked <;> simp [h]

/-- Read what follows `\u`. -/
def readCodePoint (s : List Char) : Reading Char s.length :=
  match readHex s with
  | .error failure => .error failure
  | .ok ⟨code, rest, short⟩ =>
    if isLowSurrogate code then
      .error (.before .loneSurrogate rest)
    else if isHighSurrogate code then
      (readLowSurrogate code rest).widen short
    else
      .ok ⟨Char.ofNat code, rest, short⟩

theorem parse_readCodePoint (s : List Char) :
    parse readCodePoint s =
      match parse readHex s with
      | .error failure => .error failure
      | .ok (code, rest) =>
        if isLowSurrogate code then .error (.before .loneSurrogate rest)
        else if isHighSurrogate code then parse (readLowSurrogate code) rest
        else .ok (Char.ofNat code, rest) := by
  unfold parse readCodePoint
  cases readHex s with
  | error => rfl
  | ok code =>
    simp only [Reading.result_ok]
    split
    · rfl
    · split <;> simp

/-- Read an escape after its backslash, where `code` reads what follows a `u`. -/
def readEscapeWith (code : (s : List Char) → Reading Char s.length) :
    (s : List Char) → Reading Char s.length
  | [] => .error (.atEnd .eofString)
  | c :: rest =>
    match shortEscape? c with
    | some value => .ok ⟨value, rest, length_lt_cons c rest⟩
    | none =>
      if c = 'u' then
        (code rest).widen (length_le_cons c rest)
      else
        .error (.atNext .invalidEscape (c :: rest))

/-- Read an escape after its backslash. -/
def readEscape (s : List Char) : Reading Char s.length :=
  readEscapeWith readCodePoint s

/-- Skip an escape after its backslash: which character it stands for does not matter. -/
def skipEscape (s : List Char) : Reading Char s.length :=
  readEscapeWith (fun s => (readHex s).map Char.ofNat) s

@[simp] theorem parse_readEscapeWith_nil (code : (s : List Char) → Reading Char s.length) :
    parse (readEscapeWith code) [] = .error (.atEnd .eofString) := by
  simp [parse, readEscapeWith]

theorem parse_readEscapeWith_cons (code : (s : List Char) → Reading Char s.length) (c : Char)
    (s : List Char) :
    parse (readEscapeWith code) (c :: s) =
      match shortEscape? c with
      | some value => .ok (value, s)
      | none => if c = 'u' then parse code s else .error (.atNext .invalidEscape (c :: s)) := by
  cases h : shortEscape? c <;> simp [parse, readEscapeWith, h]

theorem parse_readEscape (s : List Char) :
    parse readEscape s = parse (readEscapeWith readCodePoint) s := rfl

theorem parse_skipEscape (s : List Char) :
    parse skipEscape s =
      parse (readEscapeWith fun s => (readHex s).map Char.ofNat) s := rfl

/-! ### Whole strings -/

/-- Read the characters up to the closing quote, which is read too.  Control characters are refused
`control` bytes further on. -/
def readCharacters (escape : (s : List Char) → Reading Char s.length) (control : Nat) :
    (s : List Char) → Reading (List Char) s.length
  | [] => .error (.atEnd .eofString)
  | c :: rest =>
    if c = '"' then
      .ok ⟨[], rest, length_lt_cons c rest⟩
    else if c = '\\' then
      match escape rest with
      | .error failure => .error failure
      | .ok ⟨first, others, firstShort⟩ =>
        ((readCharacters escape control others).map (first :: ·)).widen
          (length_le_of_lt (length_lt_succ_of_lt firstShort))
    else if c.toNat < 0x20 then
      .error ⟨.controlCharacter, c :: rest, control⟩
    else
      ((readCharacters escape control rest).map (c :: ·)).widen (length_le_cons c rest)
termination_by s => s.length

@[simp] theorem parse_readCharacters_nil (escape : (s : List Char) → Reading Char s.length)
    (control : Nat) : parse (readCharacters escape control) [] = .error (.atEnd .eofString) := by
  simp [parse, readCharacters]

theorem parse_readCharacters_cons (escape : (s : List Char) → Reading Char s.length)
    (control : Nat) (c : Char) (s : List Char) :
    parse (readCharacters escape control) (c :: s) =
      if c = '"' then .ok ([], s)
      else if c = '\\' then
        match parse escape s with
        | .error failure => .error failure
        | .ok (first, rest) =>
          (parse (readCharacters escape control) rest).map fun taken =>
            (first :: taken.1, taken.2)
      else if c.toNat < 0x20 then .error ⟨.controlCharacter, c :: s, control⟩
      else
        (parse (readCharacters escape control) s).map fun taken => (c :: taken.1, taken.2) := by
  unfold parse
  rw [readCharacters]
  split
  · rfl
  · split
    · cases escape s <;> simp
    · split <;> simp

/-- Read a string after its opening quote. -/
def readString (s : List Char) : Reading String s.length :=
  (readCharacters readEscape 1 s).map String.ofList

/-- Skip a string after its opening quote. -/
def skipString (s : List Char) : Reading Unit s.length :=
  (readCharacters skipEscape 0 s).map fun _ => ()

theorem parse_readString (s : List Char) :
    parse readString s =
      (parse (readCharacters readEscape 1) s).map fun taken =>
        (String.ofList taken.1, taken.2) := by
  simp [parse, readString]

theorem parse_skipString (s : List Char) :
    parse skipString s =
      (parse (readCharacters skipEscape 0) s).map fun taken => ((), taken.2) := by
  simp [parse, skipString]

end PageBehaviors.Json
