import PageBehaviors.Json.Reading

/-!
# Numbers

Only the spelling of a number matters where its value is skipped.  Where a number stands in place
of another type its value is reported: as an integer if it is written without a point or exponent
and fits 64 bits, else as a double.  The double is computed from the leading digits that fit 64
bits, times a power of ten.

## Main definitions

* `Json.Numeral` — the parts of a number as written.
* `Json.readNumeral` — reading them.
* `Json.Numeral.found?` — the value, for a message.
-/

namespace PageBehaviors.Json

open Decimal (Binary64)

/-- The parts of a number as written. -/
structure Numeral where
  /-- Whether a minus stands in front. -/
  negative : Bool
  /-- The digits before the point. -/
  whole : List Char
  /-- The digits after the point; none if there is no point. -/
  fraction : List Char
  /-- The sign and the digits of the exponent. -/
  exponent : Option (Bool × List Char)
  deriving DecidableEq, Repr

/-! ### Spelling -/

/-- The digits that a text begins with. -/
def leadingDigits (s : List Char) : List Char :=
  s.takeWhile Char.isDigit

/-- What follows the digits that a text begins with. -/
def afterDigits (s : List Char) : List Char :=
  s.dropWhile Char.isDigit

theorem leadingDigits_append_afterDigits (s : List Char) :
    leadingDigits s ++ afterDigits s = s :=
  List.takeWhile_append_dropWhile

theorem length_afterDigits_le (s : List Char) : (afterDigits s).length ≤ s.length :=
  (List.dropWhile_sublist _).length_le

theorem length_afterDigits_lt_cons (c : Char) (s : List Char) :
    (afterDigits s).length < (c :: s).length :=
  Nat.lt_succ_of_le (length_afterDigits_le s)

/-- Read the digits before the point: a zero stands alone. -/
def readWhole (atEnd : Problem) : (s : List Char) → Reading (List Char) s.length
  | [] => .error (.atEnd atEnd)
  | c :: rest =>
    if c = '0' then
      if leadingDigits rest = [] then
        .ok ⟨['0'], rest, length_lt_cons c rest⟩
      else
        .error (.atNext .invalidNumber rest)
    else if c.isDigit then
      .ok ⟨c :: leadingDigits rest, afterDigits rest,
        length_afterDigits_lt_cons c rest⟩
    else
      .error (.atNext .invalidNumber (c :: rest))

/-- Read the digits after the point, with the point, if there is one. -/
def readFraction (atEnd : Problem) : (s : List Char) → Reading (List Char) (s.length + 1)
  | [] => .ok ⟨[], [], length_lt_succ []⟩
  | c :: rest =>
    if c = '.' then
      if leadingDigits rest = [] then
        .error (.atNext (if rest = [] then atEnd else .invalidNumber) rest)
      else
        .ok ⟨leadingDigits rest, afterDigits rest, by
          have := length_afterDigits_le rest
          simp only [List.length_cons]
          omega⟩
    else
      .ok ⟨[], c :: rest, length_lt_succ (c :: rest)⟩

/-- The sign of an exponent, and what follows it. -/
def exponentSign : List Char → Bool × List Char
  | [] => (false, [])
  | c :: rest =>
    if c = '+' then (false, rest)
    else if c = '-' then (true, rest)
    else (false, c :: rest)

theorem length_exponentSign_le (s : List Char) : (exponentSign s).2.length ≤ s.length := by
  cases s with
  | nil => exact Nat.le_refl _
  | cons c rest => grind [exponentSign]

/-- Read the exponent, with its letter, if there is one. -/
def readExponent (atEnd : Problem) :
    (s : List Char) → Reading (Option (Bool × List Char)) (s.length + 1)
  | [] => .ok ⟨none, [], length_lt_succ []⟩
  | c :: rest =>
    if c = 'e' ∨ c = 'E' then
      let negative := (exponentSign rest).1
      let digits := (exponentSign rest).2
      if leadingDigits digits = [] then
        .error (.atNext (if digits = [] then atEnd else .invalidNumber) digits)
      else
        .ok ⟨some (negative, leadingDigits digits), afterDigits digits, by
          have := length_afterDigits_le (exponentSign rest).2
          have := length_exponentSign_le rest
          simp only [List.length_cons, digits]
          omega⟩
    else
      .ok ⟨none, c :: rest, length_lt_succ (c :: rest)⟩

/-- Read a number after its sign.  `atEnd` is the problem with a text that ends too early. -/
def readUnsigned (atEnd : Problem) (negative : Bool) (s : List Char) : Reading Numeral s.length :=
  match readWhole atEnd s with
  | .error failure => .error failure
  | .ok ⟨whole, afterWhole, _⟩ =>
    match readFraction atEnd afterWhole with
    | .error failure => .error failure
    | .ok ⟨fraction, afterFraction, _⟩ =>
      match readExponent atEnd afterFraction with
      | .error failure => .error failure
      | .ok ⟨exponent, rest, _⟩ => .ok ⟨⟨negative, whole, fraction, exponent⟩, rest, by omega⟩

/-- Read a number. -/
def readNumeral (atEnd : Problem) : (s : List Char) → Reading Numeral s.length
  | [] => .error (.atEnd atEnd)
  | c :: rest =>
    if c = '-' then (readUnsigned atEnd true rest).widen (length_le_cons c rest)
    else readUnsigned atEnd false (c :: rest)

@[simp] theorem parse_readWhole_nil (atEnd : Problem) :
    parse (readWhole atEnd) [] = .error (.atEnd atEnd) := by
  simp [parse, readWhole]

theorem parse_readWhole_cons (atEnd : Problem) (c : Char) (s : List Char) :
    parse (readWhole atEnd) (c :: s) =
      if c = '0' then
        if leadingDigits s = [] then .ok (['0'], s) else .error (.atNext .invalidNumber s)
      else if c.isDigit then .ok (c :: leadingDigits s, afterDigits s)
      else .error (.atNext .invalidNumber (c :: s)) := by
  simp [parse, readWhole]

@[simp] theorem parse_readFraction_nil (atEnd : Problem) :
    parse (readFraction atEnd) [] = .ok ([], []) := by
  simp [parse, readFraction]

theorem parse_readFraction_cons (atEnd : Problem) (c : Char) (s : List Char) :
    parse (readFraction atEnd) (c :: s) =
      if c = '.' then
        if leadingDigits s = [] then
          .error (.atNext (if s = [] then atEnd else .invalidNumber) s)
        else .ok (leadingDigits s, afterDigits s)
      else .ok ([], c :: s) := by
  simp [parse, readFraction]

@[simp] theorem parse_readExponent_nil (atEnd : Problem) :
    parse (readExponent atEnd) [] = .ok (none, []) := by
  simp [parse, readExponent]

theorem parse_readExponent_cons (atEnd : Problem) (c : Char) (s : List Char) :
    parse (readExponent atEnd) (c :: s) =
      if c = 'e' ∨ c = 'E' then
        if leadingDigits (exponentSign s).2 = [] then
          .error (.atNext (if (exponentSign s).2 = [] then atEnd else .invalidNumber)
            (exponentSign s).2)
        else
          .ok (some ((exponentSign s).1, leadingDigits (exponentSign s).2),
            afterDigits (exponentSign s).2)
      else .ok (none, c :: s) := by
  simp [parse, readExponent]

theorem parse_readUnsigned (atEnd : Problem) (negative : Bool) (s : List Char) :
    parse (readUnsigned atEnd negative) s =
      match parse (readWhole atEnd) s with
      | .error failure => .error failure
      | .ok (whole, afterWhole) =>
        match parse (readFraction atEnd) afterWhole with
        | .error failure => .error failure
        | .ok (fraction, afterFraction) =>
          match parse (readExponent atEnd) afterFraction with
          | .error failure => .error failure
          | .ok (exponent, rest) => .ok (⟨negative, whole, fraction, exponent⟩, rest) := by
  unfold parse readUnsigned
  cases readWhole atEnd s with
  | error => rfl
  | ok whole =>
    cases hf : readFraction atEnd whole.rest with
    | error => simp [hf]
    | ok fraction => cases he : readExponent atEnd fraction.rest <;> simp [hf, he]

@[simp] theorem parse_readNumeral_nil (atEnd : Problem) :
    parse (readNumeral atEnd) [] = .error (.atEnd atEnd) := by
  simp [parse, readNumeral]

theorem parse_readNumeral_cons (atEnd : Problem) (c : Char) (s : List Char) :
    parse (readNumeral atEnd) (c :: s) =
      if c = '-' then parse (readUnsigned atEnd true) s
      else parse (readUnsigned atEnd false) (c :: s) := by
  simp [parse, readNumeral]

/-! ### Value -/

/-- The value of a decimal digit. -/
def digitValue (c : Char) : Nat :=
  c.toNat - '0'.toNat

/-- Append digits to a number as long as it stays within a limit; also the digits left over. -/
def absorb (limit : Nat) : (value : Nat) → (digits : List Char) → Nat × List Char
  | value, [] => (value, [])
  | value, d :: digits =>
    if 10 * value + digitValue d ≤ limit then
      absorb limit (10 * value + digitValue d) digits
    else
      (value, d :: digits)

/-- The greatest significand: 64 bits. -/
def significandLimit : Nat := 18446744073709551615

/-- The least integer is minus this: 64 bits with one of them for the sign. -/
def negativeLimit : Nat := 9223372036854775808

/-- The greatest exponent that is counted: 31 bits. -/
def exponentLimit : Nat := 2147483647

namespace Numeral

/-- The integer that a number without point and exponent stands for, if it fits 64 bits; minus zero
is not an integer. -/
def integer? (n : Numeral) : Option Int :=
  let (value, left) := absorb significandLimit 0 n.whole
  if n.fraction = [] ∧ n.exponent = none ∧ left = [] then
    if n.negative then
      if 0 < value ∧ value ≤ negativeLimit then some (-value) else none
    else
      some value
  else
    none

/-- The leading digits that fit 64 bits, and the power of ten that goes with them. -/
def significand (n : Numeral) : Nat × Int :=
  let (whole, dropped) := absorb significandLimit 0 n.whole
  let (value, left) := absorb significandLimit whole n.fraction
  -- a dropped digit of the whole part counts as a factor of ten, one of the fraction not at all
  (value, (dropped.length : Int) - ((n.fraction.length : Int) - left.length))

/-- The double with the given exponent part, for a message; `rest` is what follows the number. -/
def double? (n : Numeral) (rest : List Char) : Except Failure Binary64 :=
  let (value, power) := n.significand
  let (negative, digits) := n.exponent.getD (false, [])
  match absorb exponentLimit 0 digits with
  | (exponent, []) =>
    match Binary64.ofDecimal value (if negative then power - exponent else power + exponent) with
    | some magnitude => .ok magnitude
    | none => .error (.before .numberOutOfRange rest)
  | (_, _ :: left) =>
    -- an exponent past counting: either far below every double, or out of range
    if negative ∨ value = 0 then
      .ok Binary64.zero
    else
      .error (.before .numberOutOfRange (left ++ rest))

/-- The value of a number, for a message; `rest` is what follows the number. -/
def found? (n : Numeral) (rest : List Char) : Except Failure Found :=
  match n.integer? with
  | some value => .ok (.integer value)
  | none =>
    match n.double? rest with
    | .error failure => .error failure
    | .ok magnitude => .ok (.float n.negative magnitude)

end Numeral

end PageBehaviors.Json
