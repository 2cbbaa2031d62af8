import PageBehaviors.Json.Position

/-!
# Reading from the front of a text

A reader takes the text that is left and gives back a value and what is left after it, or fails.
That the rest has become shorter is part of the result, so a reader that calls itself on the rest
is seen to end.

## Main definitions

* `Json.Taken` — a value and the rest of the text, with a bound on the length of the rest.
* `Json.Reading` — the result of a reader.
* `Json.parse` — a reader without the bound.
* `Json.skipBlanks`, `Json.readWord` — blanks between tokens, fixed spellings.

## Design notes

The type of a `Json.Reading` mentions the length of the text, so inside a fact about a reader the
text cannot be replaced by an equal one.  `Json.parse` forgets the bound and has no such limit.
Each reader therefore comes with an equation for `Json.parse`, named after it, and facts are proved
from these equations alone.
-/

namespace PageBehaviors.Json

/-- A value read from the front of a text, and the rest, which is shorter than `bound`. -/
structure Taken (α : Type) (bound : Nat) where
  value : α
  rest : List Char
  short : rest.length < bound

/-- What reading from the front of a text gives. -/
abbrev Reading (α : Type) (bound : Nat) : Type :=
  Except Failure (Taken α bound)

namespace Reading

variable {α β : Type} {m n : Nat}

/-- The same result under a wider bound. -/
def widen (h : m ≤ n) : Reading α m → Reading α n
  | .error failure => .error failure
  | .ok taken => .ok ⟨taken.value, taken.rest, Nat.lt_of_lt_of_le taken.short h⟩

/-- The result with its value changed. -/
def map (f : α → β) : Reading α n → Reading β n
  | .error failure => .error failure
  | .ok taken => .ok ⟨f taken.value, taken.rest, taken.short⟩

/-- The value and the rest, without the bound. -/
def result : Reading α n → Except Failure (α × List Char)
  | .error failure => .error failure
  | .ok taken => .ok (taken.value, taken.rest)

@[simp] theorem result_error (failure : Failure) :
    result (.error failure : Reading α n) = .error failure := rfl

@[simp] theorem result_ok (taken : Taken α n) :
    result (.ok taken) = .ok (taken.value, taken.rest) := rfl

@[simp] theorem result_ite (p : Prop) [Decidable p] (first second : Reading α n) :
    (if p then first else second).result = if p then first.result else second.result := by
  split <;> rfl

@[simp] theorem result_widen (h : m ≤ n) (reading : Reading α m) :
    (reading.widen h).result = reading.result := by
  cases reading <;> rfl

@[simp] theorem result_map (f : α → β) (reading : Reading α n) :
    (reading.map f).result = reading.result.map fun taken => (f taken.1, taken.2) := by
  cases reading <;> rfl

end Reading

/-- What a reader gives, without the bound.  Facts about readers are stated in this form, in which
one text can be replaced by an equal one. -/
def parse {α : Type} {bound : List Char → Nat} (reader : (s : List Char) → Reading α (bound s))
    (s : List Char) : Except Failure (α × List Char) :=
  (reader s).result

theorem length_lt_of_parse {α : Type} {bound : List Char → Nat}
    {reader : (s : List Char) → Reading α (bound s)} {s rest : List Char} {value : α}
    (h : parse reader s = .ok (value, rest)) : rest.length < bound s := by
  unfold parse at h
  cases hr : reader s with
  | error failure => simp [hr] at h
  | ok taken =>
    simp only [hr, Reading.result_ok, Except.ok.injEq, Prod.mk.injEq] at h
    exact h.2 ▸ taken.short

/-! ### Lengths of rests -/

theorem length_lt_cons (c : Char) (s : List Char) : s.length < (c :: s).length :=
  Nat.lt_succ_self _

theorem length_le_cons (c : Char) (s : List Char) : s.length ≤ (c :: s).length :=
  Nat.le_succ _

theorem length_lt_succ (s : List Char) : s.length < s.length + 1 :=
  Nat.lt_succ_self _

theorem length_le_succ (s : List Char) : s.length ≤ s.length + 1 :=
  Nat.le_succ _

theorem length_le_of_lt {s t : List Char} (h : t.length < s.length) : t.length ≤ s.length :=
  Nat.le_of_lt h

theorem length_lt_succ_of_lt {s t : List Char} (h : t.length < s.length) :
    t.length < s.length + 1 :=
  Nat.lt_succ_of_lt h

theorem length_succ_le_succ {s t : List Char} (h : t.length < s.length) :
    t.length + 1 ≤ s.length + 1 :=
  Nat.succ_le_succ (Nat.le_of_lt h)

theorem length_succ_le_succ_of_lt {s t u : List Char} (h : t.length < s.length + 1)
    (h' : u.length < t.length) : u.length + 1 ≤ s.length + 1 := by
  omega

theorem length_cons_lt_succ {s t : List Char} (c : Char) (h : t.length < s.length) :
    (c :: t).length < s.length + 1 :=
  Nat.succ_lt_succ h

/-! ### Blanks -/

/-- The blanks that may stand between tokens. -/
def isBlank (c : Char) : Bool :=
  c == ' ' || c == '\n' || c == '\t' || c == '\r'

/-- A text from its first character that is no blank. -/
def skipBlanks (s : List Char) : List Char :=
  s.dropWhile isBlank

theorem length_skipBlanks_le (s : List Char) : (skipBlanks s).length ≤ s.length :=
  (List.dropWhile_sublist _).length_le

theorem length_lt_of_skipBlanks {s t : List Char} {c : Char} (h : skipBlanks s = c :: t) :
    t.length < s.length := by
  have := length_skipBlanks_le s
  simp only [h, List.length_cons] at this
  omega

@[simp] theorem skipBlanks_nil : skipBlanks [] = [] := rfl

theorem skipBlanks_cons_blank {c : Char} (h : isBlank c = true) (s : List Char) :
    skipBlanks (c :: s) = skipBlanks s := by
  simp [skipBlanks, h]

theorem skipBlanks_cons {c : Char} (h : isBlank c = false) (s : List Char) :
    skipBlanks (c :: s) = c :: s := by
  simp [skipBlanks, h]

/-! ### Fixed spellings -/

/-- Read a fixed spelling.  The character that differs from it counts as read, by its first
byte. -/
def readWord (atEnd other : Problem) :
    (word : List Char) → (s : List Char) → Reading Unit (s.length + 1)
  | [], s => .ok ⟨(), s, length_lt_succ s⟩
  | _ :: _, [] => .error (.atEnd atEnd)
  | w :: word, c :: s =>
    if c = w then
      (readWord atEnd other word s).widen (length_le_succ (c :: s))
    else
      .error (.atNext other (c :: s))

/-- Read the rest of `null`, `true` or `false`. -/
def readIdentifier (word : String) (s : List Char) : Reading Unit (s.length + 1) :=
  readWord .eofValue .expectedIdentifier word.toList s

@[simp] theorem parse_readWord_nil (atEnd other : Problem) (s : List Char) :
    parse (readWord atEnd other []) s = .ok ((), s) := by
  simp [parse, readWord]

@[simp] theorem parse_readWord_cons_nil (atEnd other : Problem) (w : Char) (word : List Char) :
    parse (readWord atEnd other (w :: word)) [] = .error (.atEnd atEnd) := by
  simp [parse, readWord]

theorem parse_readWord_cons_cons (atEnd other : Problem) (w c : Char) (word s : List Char) :
    parse (readWord atEnd other (w :: word)) (c :: s) =
      if c = w then parse (readWord atEnd other word) s else .error (.atNext other (c :: s)) := by
  unfold parse
  rw [readWord]
  split <;> simp

end PageBehaviors.Json
