import Mathlib.Data.List.Forall2
import Mathlib.Tactic.ByContra
import Mathlib.Tactic.Tauto
import PageBehaviors.Json.Number
import PageBehaviors.Json.Writer

/-!
# The grammar of JSON texts

Which texts are JSON, and which value each of them stands for, said without any reader.  A value is
spelled by tokens, and a text is made of tokens with any blanks around them.  Only numbers and
strings have more than one token to choose from: the letter and the sign of an exponent are free,
and any character of a string may be escaped, in one of several ways.

A spelling is always read in front of something.  `Spaced` therefore relates tokens and what
follows them to the whole text, and `Ends` says when what follows cannot be taken for more digits
of a number.

## Main definitions

* `Json.Value` — JSON values.
* `Json.Quotes` — the tokens of a string; `Json.Characters`, `Json.CodePoint` — what they are made
  of.
* `Json.Numeral.Spelled` — the tokens of a number.
* `Json.Spells` — the tokens of a value.
* `Json.Spaced`, `Json.Denotes` — texts made of tokens; texts that stand for a value.
-/

namespace PageBehaviors.Json

/-- JSON values.  The members of an object are kept in their order, repetitions included. -/
inductive Value where
  | null
  | boolean (value : Bool)
  | number (value : Numeral)
  | string (value : String)
  | array (elements : List Value)
  | object (members : List (String × Value))

/-! ### Strings -/

/-- A hexadecimal digit, of either case, and its value. -/
def HexDigit (value : Nat) (digit : Char) : Prop :=
  value < 16 ∧ (digit = Nat.digitChar value ∨ digit = (Nat.digitChar value).toUpper)

instance (value : Nat) (digit : Char) : Decidable (HexDigit value digit) :=
  inferInstanceAs (Decidable (_ ∧ _))

/-- Four hexadecimal digits and their value. -/
inductive FourHexDigits : Nat → List Char → Prop
  | mk {a b c d : Nat} {w x y z : Char} (ha : HexDigit a w) (hb : HexDigit b x) (hc : HexDigit c y)
      (hd : HexDigit d z) : FourHexDigits (((a * 16 + b) * 16 + c) * 16 + d) [w, x, y, z]

/-- What may follow `\u` to escape a character: its number, or the two halves of a surrogate
pair. -/
inductive CodePoint : Char → List Char → Prop
  | single {n : Nat} {digits : List Char} (spelled : FourHexDigits n digits)
      (scalar : n < 0xd800 ∨ 0xdfff < n) : CodePoint (Char.ofNat n) digits
  | pair {high low : Nat} {first second : List Char} (spelled : FourHexDigits high first)
      (isHigh : 0xd800 ≤ high ∧ high ≤ 0xdbff) (spelled' : FourHexDigits low second)
      (isLow : 0xdc00 ≤ low ∧ low ≤ 0xdfff) :
      CodePoint (Char.ofNat (0x10000 + (high - 0xd800) * 0x400 + (low - 0xdc00)))
        (first ++ '\\' :: 'u' :: second)

/-- The letters that may follow a backslash, and what they escape. -/
def letterEscapes : List (Char × Char) :=
  [('"', '"'), ('\\', '\\'), ('/', '/'), ('b', '\x08'), ('f', '\x0c'), ('n', '\n'), ('r', '\r'),
    ('t', '\t')]

/-- What may stand between the quotes of a string with the given characters. -/
inductive Characters : List Char → List Char → Prop
  | nil : Characters [] []
  /-- A character that stands for itself. -/
  | plain {c : Char} {chars text : List Char} (quote : c ≠ '"') (backslash : c ≠ '\\')
      (control : 0x20 ≤ c.toNat) (others : Characters chars text) :
      Characters (c :: chars) (c :: text)
  /-- A character that is escaped by a letter. -/
  | letter {l c : Char} {chars text : List Char} (escape : (l, c) ∈ letterEscapes)
      (others : Characters chars text) : Characters (c :: chars) ('\\' :: l :: text)
  /-- A character that is escaped by its number. -/
  | code {c : Char} {chars code text : List Char} (spelled : CodePoint c code)
      (others : Characters chars text) :
      Characters (c :: chars) ('\\' :: 'u' :: (code ++ text))

/-- The tokens of a string. -/
def Quotes (s : String) (token : Token) : Prop :=
  ∃ text, Characters s.toList text ∧ token = '"' :: (text ++ ['"'])

/-! ### Numbers -/

/-- One digit or more. -/
def IsDigits (s : List Char) : Prop :=
  s ≠ [] ∧ ∀ c ∈ s, c.isDigit = true

instance (s : List Char) : Decidable (IsDigits s) :=
  @instDecidableAnd _ _ inferInstance (List.decidableBAll (fun c => c.isDigit = true) s)

namespace Numeral

/-- The digits before the point: a zero, or digits that do not begin with one. -/
def WholePart (digits : List Char) : Prop :=
  digits = ['0'] ∨ IsDigits digits ∧ digits.head? ≠ some '0'

/-- The digits after the point, and how they are written. -/
inductive FractionPart : List Char → List Char → Prop
  | absent : FractionPart [] []
  | present {digits : List Char} (h : IsDigits digits) : FractionPart digits ('.' :: digits)

/-- How the sign of an exponent may be written. -/
inductive ExponentSign : Bool → List Char → Prop
  | absent : ExponentSign false []
  | plus : ExponentSign false ['+']
  | minus : ExponentSign true ['-']

/-- The exponent, and how it may be written. -/
inductive ExponentPart : Option (Bool × List Char) → List Char → Prop
  | absent : ExponentPart none []
  | present {letter : Char} {negative : Bool} {sign digits : List Char}
      (hletter : letter = 'e' ∨ letter = 'E') (hsign : ExponentSign negative sign)
      (h : IsDigits digits) : ExponentPart (some (negative, digits)) (letter :: (sign ++ digits))

/-- The tokens of a number. -/
def Spelled (n : Numeral) (token : Token) : Prop :=
  ∃ fraction exponent, WholePart n.whole ∧ FractionPart n.fraction fraction ∧
    ExponentPart n.exponent exponent ∧
    token = (if n.negative then ['-'] else []) ++ (n.whole ++ (fraction ++ exponent))

end Numeral

/-! ### Values -/

/-- Lists of tokens with a comma between them. -/
def commaSeparated (parts : List (List Token)) : List Token :=
  [[',']].intercalate parts

/-- The tokens of a value. -/
inductive Spells : Value → List Token → Prop
  | null : Spells .null [['n', 'u', 'l', 'l']]
  | boolean {b : Bool} : Spells (.boolean b) [booleanToken b]
  | number {n : Numeral} {token : Token} (h : n.Spelled token) : Spells (.number n) [token]
  | string {s : String} {token : Token} (h : Quotes s token) : Spells (.string s) [token]
  | array {elements : List Value} {parts : List (List Token)}
      (h : List.Forall₂ Spells elements parts) :
      Spells (.array elements) (['['] :: (commaSeparated parts ++ [[']']]))
  | object {members : List (String × Value)} {keys : List Token} {values : List (List Token)}
      (hkeys : List.Forall₂ Quotes (members.map Prod.fst) keys)
      (hvalues : List.Forall₂ Spells (members.map Prod.snd) values) :
      Spells (.object members)
        (['{'] ::
          (commaSeparated (List.zipWith (fun key value => key :: [':'] :: value) keys values) ++
            [['}']]))

/-! ### Texts -/

/-- Nothing but blanks. -/
def Blank (s : List Char) : Prop :=
  ∀ c ∈ s, c ∈ [' ', '\t', '\n', '\r']

instance (s : List Char) : Decidable (Blank s) :=
  List.decidableBAll (fun c => c ∈ [' ', '\t', '\n', '\r']) s

/-- Tokens with blanks before each of them, in front of what follows. -/
inductive Spaced : List Token → List Char → List Char → Prop
  | done {rest : List Char} : Spaced [] rest rest
  | token {blanks : List Char} {token : Token} {tokens : List Token} {rest text : List Char}
      (blank : Blank blanks) (others : Spaced tokens rest text) :
      Spaced (token :: tokens) rest (blanks ++ (token ++ text))

/-- Tokens with any blanks between, before and after them. -/
def SpacedText (tokens : List Token) (text : String) : Prop :=
  ∃ trailing, Blank trailing ∧ Spaced tokens trailing text.toList

/-- A text stands for a value: it is made of tokens of the value with any blanks around them. -/
def Denotes (text : String) (value : Value) : Prop :=
  ∃ tokens, Spells value tokens ∧ SpacedText tokens text

/-- What follows a value: nothing, a blank, a comma or a closing bracket. -/
def Ends (rest : List Char) : Prop :=
  ∀ c ∈ rest.head?, c ∈ [' ', '\t', '\n', '\r', ',', ']', '}']

/-! ### Where a token begins -/

theorem isBlank_iff {c : Char} : isBlank c = true ↔ c ∈ [' ', '\t', '\n', '\r'] := by
  simp only [isBlank, Bool.or_eq_true, beq_iff_eq, List.mem_cons, List.not_mem_nil, or_false]
  tauto

theorem skipBlanks_append {blanks : List Char} (h : Blank blanks) (s : List Char) :
    skipBlanks (blanks ++ s) = skipBlanks s := by
  induction blanks with
  | nil => rfl
  | cons c blanks ih =>
      obtain ⟨hc, hblanks⟩ := List.forall_mem_cons.mp h
      rw [List.cons_append, skipBlanks_cons_blank (isBlank_iff.mpr hc), ih hblanks]

theorem skipBlanks_blank {blanks : List Char} (h : Blank blanks) : skipBlanks blanks = [] := by
  rw [← List.append_nil blanks, skipBlanks_append h, skipBlanks_nil]

theorem ends_blank {blanks : List Char} (h : Blank blanks) : Ends blanks := by
  intro c hc
  have hmem := h c (List.mem_of_mem_head? hc)
  simp only [List.mem_cons, List.not_mem_nil, or_false] at hmem ⊢
  tauto

namespace Spaced

variable {tokens others : List Token} {rest text : List Char}

theorem append_iff : Spaced (tokens ++ others) rest text ↔
    ∃ middle, Spaced tokens middle text ∧ Spaced others rest middle := by
  constructor
  · intro h
    induction tokens generalizing text with
    | nil => exact ⟨text, .done, h⟩
    | cons token tokens ih =>
        cases h with
        | token blank hothers =>
            obtain ⟨middle, hfirst, hrest⟩ := ih hothers
            exact ⟨middle, .token blank hfirst, hrest⟩
  · rintro ⟨middle, hfirst, hrest⟩
    induction hfirst with
    | done => exact hrest
    | token blank _ ih => exact .token blank (ih hrest)

/-- Past the blanks stands the first token. -/
theorem skipBlanks_eq {c : Char} {token : Token}
    (h : Spaced ((c :: token) :: tokens) rest text) (hc : isBlank c = false) :
    ∃ after, skipBlanks text = c :: (token ++ after) ∧ Spaced tokens rest after := by
  cases h with
  | @token blanks _ _ _ after blank others =>
      refine ⟨after, ?_, others⟩
      rw [skipBlanks_append blank, List.cons_append, skipBlanks_cons hc]

/-- The blanks before the first token may be left out. -/
theorem skipBlanks {c : Char} {token : Token} (h : Spaced ((c :: token) :: tokens) rest text)
    (hc : isBlank c = false) :
    ∃ after, Json.skipBlanks text = c :: after ∧
      Spaced ((c :: token) :: tokens) rest (c :: after) := by
  obtain ⟨after, htext, others⟩ := h.skipBlanks_eq hc
  exact ⟨token ++ after, htext, .token (nofun : Blank []) others⟩

/-- A value may stand before a comma or a closing bracket. -/
theorem ends {c : Char} {token : Token} (h : Spaced ((c :: token) :: tokens) rest text)
    (hc : c ∈ [',', ']', '}']) : Ends text := by
  cases h with
  | @token blanks _ _ _ after blank others =>
      intro d hd
      cases blanks with
      | nil =>
          obtain rfl : c = d := Option.some.inj hd
          simp only [List.mem_cons, List.not_mem_nil, or_false] at hc ⊢
          tauto
      | cons b blanks =>
          obtain rfl : b = d := Option.some.inj hd
          have hb := blank b List.mem_cons_self
          simp only [List.mem_cons, List.not_mem_nil, or_false] at hb ⊢
          tauto

end Spaced

/-- The characters that a value of each kind begins with. -/
def Value.Begins : Value → Char → Prop
  | null, c => c = 'n'
  | boolean true, c => c = 't'
  | boolean false, c => c = 'f'
  | number _, c => c = '-' ∨ c.isDigit = true
  | string _, c => c = '"'
  | array _, c => c = '['
  | object _, c => c = '{'

namespace Value.Begins

variable {value : Value} {c : Char} (h : value.Begins c)

include h

/-- The characters that a value may begin with. -/
theorem mem_or_isDigit : c ∈ ['n', 't', 'f', '-', '"', '[', '{'] ∨ c.isDigit = true := by
  cases value with
  | null => exact Or.inl (by rw [show c = _ from h]; decide)
  | boolean b => cases b <;> exact Or.inl (by rw [show c = _ from h]; decide)
  | number n =>
      rcases h with rfl | hdigit
      · exact Or.inl (by decide)
      · exact Or.inr hdigit
  | string s => exact Or.inl (by rw [show c = _ from h]; decide)
  | array elements => exact Or.inl (by rw [show c = _ from h]; decide)
  | object members => exact Or.inl (by rw [show c = _ from h]; decide)

theorem isBlank_eq : isBlank c = false := by
  by_contra hblank
  have hmem := isBlank_iff.mp (Bool.not_eq_false _ ▸ hblank)
  simp only [List.mem_cons, List.not_mem_nil, or_false] at hmem
  rcases hmem with rfl | rfl | rfl | rfl <;> exact absurd h.mem_or_isDigit (by decide)

/-- No value begins like the end of a container. -/
theorem ne_closing : c ≠ ']' ∧ c ≠ '}' := by
  constructor <;> (rintro rfl; exact absurd h.mem_or_isDigit (by decide))

end Value.Begins

theorem Numeral.Spelled.begins {n : Numeral} {token : Token} (h : n.Spelled token) :
    ∃ c others, token = c :: others ∧ (c = '-' ∨ c.isDigit = true) := by
  obtain ⟨fraction, exponent, whole, -, -, rfl⟩ := h
  cases n.negative with
  | true => exact ⟨'-', _, rfl, Or.inl rfl⟩
  | false =>
      rcases whole with hzero | ⟨⟨hne, hdigits⟩, -⟩
      · exact ⟨'0', _, by rw [hzero]; rfl, Or.inr rfl⟩
      · obtain ⟨c, others, hwhole⟩ := List.exists_cons_of_ne_nil hne
        rw [hwhole] at hdigits
        exact ⟨c, _, by rw [hwhole]; rfl, Or.inr (hdigits c List.mem_cons_self)⟩

/-- A spelling tells the kind of its value by its first character. -/
theorem Spells.begins {value : Value} {tokens : List Token} (h : Spells value tokens) :
    ∃ c token others, tokens = (c :: token) :: others ∧ value.Begins c := by
  cases h with
  | null => exact ⟨'n', _, _, rfl, rfl⟩
  | @boolean b => cases b <;> exact ⟨_, _, _, rfl, rfl⟩
  | number h =>
      obtain ⟨c, token, rfl, hc⟩ := h.begins
      exact ⟨c, token, _, rfl, hc⟩
  | string h =>
      obtain ⟨text, -, rfl⟩ := h
      exact ⟨'"', _, _, rfl, rfl⟩
  | array h => exact ⟨'[', _, _, rfl, rfl⟩
  | object hkeys hvalues => exact ⟨'{', _, _, rfl, rfl⟩

/-- Past the blanks before a value stands its first character. -/
theorem Spells.skipBlanks_eq {value : Value} {spelling tokens : List Token} {rest text : List Char}
    (h : Spells value spelling) (spaced : Spaced (spelling ++ tokens) rest text) :
    ∃ c after, skipBlanks text = c :: after ∧ value.Begins c ∧
      Spaced (spelling ++ tokens) rest (c :: after) := by
  obtain ⟨c, token, others, rfl, hc⟩ := h.begins
  obtain ⟨after, htext, hafter⟩ := Spaced.skipBlanks spaced hc.isBlank_eq
  exact ⟨c, after, htext, hc, hafter⟩

/-! ### Entries of a container -/

/-- The tokens of the entries of a container, where `first` tells that none stands before them. -/
def entryTokens (first : Bool) (parts : List (List Token)) : List Token :=
  if first then commaSeparated parts else parts.flatMap fun part => [','] :: part

@[simp] theorem entryTokens_nil (first : Bool) : entryTokens first [] = [] := by
  cases first <;> rfl

theorem entryTokens_cons (first : Bool) (part : List Token) (parts : List (List Token)) :
    entryTokens first (part :: parts) =
      (if first then [] else [[',']]) ++ (part ++ entryTokens false parts) := by
  cases first with
  | false => simp [entryTokens]
  | true =>
      simp only [entryTokens, commaSeparated, if_true, List.nil_append]
      induction parts generalizing part with
      | nil => simp [List.intercalate]
      | cons next parts ih =>
          have hnext := ih next
          simp only [List.intercalate, List.intersperse_cons_cons, List.flatten_cons] at hnext ⊢
          simp [hnext]

/-- The tokens of a member of an object. -/
def MemberSpelled (member : String × Value) (part : List Token) : Prop :=
  ∃ key value, Quotes member.1 key ∧ Spells member.2 value ∧ part = key :: [':'] :: value

/-- The tokens of the members of an object, member by member. -/
theorem forall₂_memberSpelled {members : List (String × Value)} {keys : List Token}
    {values : List (List Token)} (hkeys : List.Forall₂ Quotes (members.map Prod.fst) keys)
    (hvalues : List.Forall₂ Spells (members.map Prod.snd) values) :
    List.Forall₂ MemberSpelled members
      (List.zipWith (fun key value => key :: [':'] :: value) keys values) := by
  induction members generalizing keys values with
  | nil =>
      cases hkeys
      exact .nil
  | cons member members ih =>
      cases hkeys with
      | cons hkey hkeys =>
          cases hvalues with
          | cons hvalue hvalues => exact .cons ⟨_, _, hkey, hvalue, rfl⟩ (ih hkeys hvalues)

end PageBehaviors.Json
