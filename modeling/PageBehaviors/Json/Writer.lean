/-!
# Writing JSON

A text is written as a list of tokens, which are then put one after the other without blanks.
Inside a string only the quote, the backslash and the control characters below U+0020 are escaped,
by a letter where there is one; every other character is written as it is.

## Main definitions

* `Json.Token` — the characters of one token.
* `Json.escapedChar`, `Json.stringToken` — how strings are written.
* `Json.objectTokens` — the tokens of an object, given those of its members' values.
* `Json.compact` — tokens without blanks between them.
-/

namespace PageBehaviors.Json

/-- The characters of one token. -/
abbrev Token : Type := List Char

/-- The two hexadecimal digits of a number below 256. -/
def twoHexDigits (n : Nat) : List Char :=
  [Nat.digitChar (n / 16), Nat.digitChar (n % 16)]

/-- How one character of a string is written. -/
def escapedChar (c : Char) : List Char :=
  if c = '"' then ['\\', '"']
  else if c = '\\' then ['\\', '\\']
  else if c = '\x08' then ['\\', 'b']
  else if c = '\x0c' then ['\\', 'f']
  else if c = '\n' then ['\\', 'n']
  else if c = '\r' then ['\\', 'r']
  else if c = '\t' then ['\\', 't']
  else if c.toNat < 0x20 then ['\\', 'u', '0', '0'] ++ twoHexDigits c.toNat
  else [c]

/-- A string, with its quotes. -/
def stringToken (s : String) : Token :=
  '"' :: s.toList.flatMap escapedChar ++ ['"']

/-- A truth value. -/
def booleanToken (b : Bool) : Token :=
  if b then ['t', 'r', 'u', 'e'] else ['f', 'a', 'l', 's', 'e']

/-- The tokens of a member of an object. -/
def memberTokens (name : String) (value : List Token) : List Token :=
  stringToken name :: [':'] :: value

/-- The tokens of the members of an object, with commas between them. -/
def membersTokens : List (String × List Token) → List Token
  | [] => []
  | [(name, value)] => memberTokens name value
  | (name, value) :: next :: members =>
    memberTokens name value ++ [','] :: membersTokens (next :: members)

/-- The tokens of an object. -/
def objectTokens (members : List (String × List Token)) : List Token :=
  ['{'] :: membersTokens members ++ [['}']]

/-- Tokens without blanks between them. -/
def compact (tokens : List Token) : String :=
  String.ofList tokens.flatten

end PageBehaviors.Json
