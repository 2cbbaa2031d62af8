import PageBehaviors.Decimal.Shortest
import PageBehaviors.Text.Quoted

/-!
# What can be wrong with a JSON text

Every reason for refusing a text is a `Problem`; how it is worded is decided here and nowhere else.
A value of the wrong type is reported together with what was found: scalars with their value, the
two kinds of containers by kind alone, since they are not read any further.

## Main definitions

* `Json.Found`, `Json.Expected` — the two sides of a type mismatch.
* `Json.Problem` — the reasons.
* `Json.Problem.message` — their wording.
-/

namespace PageBehaviors.Json

open Decimal (Binary64 Layout)

/-- A value that stands where another type of value is wanted. -/
inductive Found where
  | null
  | boolean (value : Bool)
  | integer (value : Int)
  | float (negative : Bool) (magnitude : Binary64)
  | string (value : String)
  | sequence
  | map
  deriving DecidableEq

/-- The type of value that is wanted. -/
inductive Expected where
  | string
  | boolean
  | record (name : String)
  deriving DecidableEq, Repr

/-- How floating point numbers are written in messages: positionally from `0.00001` up to sixteen
digits before the point. -/
def floatLayout : Layout := ⟨-5, 16⟩

namespace Found

/-- How a value of the wrong type is named in a message. -/
def text : Found → String
  | null => "null"
  | boolean true => "boolean `true`"
  | boolean false => "boolean `false`"
  | integer value => "integer `" ++ toString value ++ "`"
  | float negative magnitude =>
    "floating point `" ++ floatLayout.write negative magnitude ++ "`"
  | string value => "string " ++ Text.quoted value
  | sequence => "sequence"
  | map => "map"

end Found

namespace Expected

/-- How the wanted type is named in a message. -/
def text : Expected → String
  | string => "a string"
  | boolean => "a boolean"
  | record name => "struct " ++ name

end Expected

/-- The reasons for refusing a text. -/
inductive Problem where
  | eofValue
  | eofString
  | eofObject
  | eofList
  | expectedColon
  | expectedListSeparator
  | expectedObjectSeparator
  | expectedIdentifier
  | expectedValue
  | invalidEscape
  | invalidNumber
  | numberOutOfRange
  | loneSurrogate
  | unexpectedEndOfEscape
  | keyMustBeString
  | controlCharacter
  | trailingComma
  | trailingCharacters
  | duplicateField (name : String)
  | invalidType (found : Found) (expected : Expected)
  deriving DecidableEq

namespace Problem

/-- The wording of a problem. -/
def message : Problem → String
  | eofValue => "EOF while parsing a value"
  | eofString => "EOF while parsing a string"
  | eofObject => "EOF while parsing an object"
  | eofList => "EOF while parsing a list"
  | expectedColon => "expected `:`"
  | expectedListSeparator => "expected `,` or `]`"
  | expectedObjectSeparator => "expected `,` or `\x7d`"
  | expectedIdentifier => "expected ident"
  | expectedValue => "expected value"
  | invalidEscape => "invalid escape"
  | invalidNumber => "invalid number"
  | numberOutOfRange => "number out of range"
  | loneSurrogate => "lone leading surrogate in hex escape"
  | unexpectedEndOfEscape => "unexpected end of hex escape"
  | keyMustBeString => "key must be a string"
  | controlCharacter =>
    "control character (\\u0000-\\u001F) found while parsing a string"
  | trailingComma => "trailing comma"
  | trailingCharacters => "trailing characters"
  | duplicateField name => "duplicate field `" ++ name ++ "`"
  | invalidType found expected => "invalid type: " ++ found.text ++ ", expected " ++ expected.text

end Problem

end PageBehaviors.Json
