import PageBehaviors.Text.Ascii

/-!
# Class lists and selector identifiers

A class list is a text whose parts between blanks are the classes; a class that is written twice
counts once.  The name in an attribute selector must be an identifier.

## Main definitions

* `Text.words`, `Text.tokens` — the parts between blanks; without repetitions.
* `Text.joined` — tokens with one blank between them.
* `Text.isIdentifier` — the names that a selector may hold.
-/

namespace PageBehaviors.Text

/-- The parts between blanks, where `current` is the part that is being read. -/
def wordsFrom (current : List Char) : List Char → List (List Char)
  | [] => if current = [] then [] else [current]
  | c :: rest =>
    if isBlank c then
      if current = [] then wordsFrom [] rest else current :: wordsFrom [] rest
    else
      wordsFrom (current ++ [c]) rest

/-- The parts of a text between blanks. -/
def words (s : String) : List String :=
  (wordsFrom [] s.toList).map String.ofList

/-- The classes of a class list, in the order of their first occurrence. -/
def tokens (s : String) : List String :=
  (words s).eraseDups

/-- Tokens with one blank between them. -/
def joined : List String → String
  | [] => ""
  | [token] => token
  | token :: next :: others => token ++ " " ++ joined (next :: others)

/-- Whether a text has a blank in it. -/
def hasBlank (s : String) : Bool :=
  s.toList.any isBlank

/-- The characters of identifiers: letters and digits, hyphen, underscore, and everything beyond
ASCII. -/
def isNameChar (c : Char) : Bool :=
  c.isAlphanum || c == '-' || c == '_' || decide (0x80 ≤ c.toNat)

/-- Whether an identifier may begin like this: with two hyphens, or, after at most one hyphen, with
a character that is neither a digit nor a hyphen. -/
def startsIdentifier : List Char → Bool
  | [] => false
  | c :: rest =>
    if c = '-' then
      match rest with
      | [] => false
      | d :: _ => !d.isDigit
    else
      !c.isDigit

/-- Whether a text is an identifier. -/
def isIdentifier (s : String) : Bool :=
  s.toList.all isNameChar && startsIdentifier s.toList

end PageBehaviors.Text
