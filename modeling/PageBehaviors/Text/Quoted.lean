import PageBehaviors.Text.Printable

/-!
# Quoted text for messages

A message that names a text shows it between double quotes.  Quotes, backslashes and the common
control characters are escaped by a letter, and every character that would not be visible is
written by its number, so that the message stays on one line and shows exactly what the text is.

## Main definitions

* `Text.escaped` — how one character is shown.
* `Text.quoted` — a whole text between quotes.
-/

namespace PageBehaviors.Text

/-- A character written by its number in hexadecimal digits. -/
def byNumber (c : Char) : List Char :=
  ['\\', 'u', '\x7b'] ++ Nat.toDigits 16 c.toNat ++ ['\x7d']

/-- How one character is shown between double quotes. -/
def escaped (c : Char) : List Char :=
  if c = '\x00' then ['\\', '0']
  else if c = '\t' then ['\\', 't']
  else if c = '\r' then ['\\', 'r']
  else if c = '\n' then ['\\', 'n']
  else if c = '"' ∨ c = '\\' then ['\\', c]
  else if isPrintable c then [c]
  else byNumber c

/-- A text between double quotes, with whatever would not be visible escaped. -/
def quoted (s : String) : String :=
  String.ofList ('"' :: s.toList.flatMap escaped ++ ['"'])

end PageBehaviors.Text
