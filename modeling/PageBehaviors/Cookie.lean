/-!
# Looking a cookie up in a cookie line

A cookie line holds `name=value` pairs that are joined by a semicolon and a blank.  A pair answers
for a name if the name and the equals sign open the line or directly follow such a joint, so a
cookie whose name merely ends in the wanted one is never taken for it.  A name that is answered
more than once has no value: which of the two is meant cannot be told.

## Main definitions

* `Cookie.followers` — what follows the occurrences of a pattern, from left to right, where an
  occurrence begins only after the one before it has ended.
* `Cookie.candidates` — what follows the places where a pair of the name begins.
* `Cookie.value?` — the value of the one pair of that name.
-/

namespace PageBehaviors.Cookie

/-- What follows each occurrence of `pattern` in a text, where the first `skip` characters of the
text belong to an occurrence already seen. -/
def followers (pattern : List Char) : (skip : Nat) → List Char → List (List Char)
  | _, [] => []
  | skip + 1, _ :: rest => followers pattern skip rest
  | 0, c :: rest =>
    if pattern.isPrefixOf (c :: rest) then
      (c :: rest).drop pattern.length :: followers pattern (pattern.length - 1) rest
    else
      followers pattern 0 rest

/-- How a pair of the given name begins. -/
def pairStart (name : String) : List Char :=
  name.toList ++ ['=']

/-- How a pair of the given name begins when another pair stands before it. -/
def joinedStart (name : String) : List Char :=
  ';' :: ' ' :: pairStart name

/-- The rest of the line after each place where a pair of the given name begins. -/
def candidates (line : List Char) (name : String) : List (List Char) :=
  let start := pairStart name
  -- a pair at the very start of the line is looked for on its own and takes no text away
  let opening := if start.isPrefixOf line then [line.drop start.length] else []
  opening ++ followers (joinedStart name) 0 line

/-- The value that starts the given text: it ends before the first semicolon. -/
def valueOf (rest : List Char) : String :=
  String.ofList (rest.takeWhile (· != ';'))

/-- The value of the cookie called `name`, provided exactly one pair of the line answers for it. -/
def value? (line name : String) : Option String :=
  match candidates line.toList name with
  | [rest] => some (valueOf rest)
  | _ => none

end PageBehaviors.Cookie
