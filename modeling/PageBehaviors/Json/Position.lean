import PageBehaviors.Json.Problem

/-!
# Where in a text a problem lies

Positions count bytes of the UTF-8 form of the text, because that is what editors of configuration
files report.  While a text is read only the unread rest is at hand; a `Failure` therefore names
the problem, the rest from which it is seen and how many bytes of that rest it reaches into.  The
position is worked out once, from the whole text.

## Main definitions

* `Json.Position`, `Json.Position.advance` — line and column after a number of bytes.
* `Json.Failure` — a problem at a place of the unread rest.
* `Json.Error` — a problem at a position.
-/

namespace PageBehaviors.Json

/-- A line, counted from one, and the number of bytes before the place on that line. -/
structure Position where
  line : Nat
  column : Nat
  deriving DecidableEq, Repr

namespace Position

/-- The beginning of a text. -/
def start : Position := ⟨1, 0⟩

/-- The position after the given number of bytes of a text, or at its end if it has fewer. -/
def advance (position : Position) : (bytes : Nat) → List Char → Position
  | 0, _ => position
  | _ + 1, [] => position
  | bytes + 1, c :: rest =>
    if c = '\n' then
      advance ⟨position.line + 1, 0⟩ bytes rest
    else if bytes + 1 < c.utf8Size then
      ⟨position.line, position.column + (bytes + 1)⟩
    else
      advance ⟨position.line, position.column + c.utf8Size⟩ (bytes + 1 - c.utf8Size) rest

/-- How positions are written after a message. -/
def text (position : Position) : String :=
  " at line " ++ toString position.line ++ " column " ++ toString position.column

end Position

/-- The number of bytes of the UTF-8 form of a text. -/
def byteCount : List Char → Nat
  | [] => 0
  | c :: rest => c.utf8Size + byteCount rest

/-- A problem that reaches `ahead` bytes into the unread `rest`. -/
structure Failure where
  problem : Problem
  rest : List Char
  ahead : Nat
  deriving DecidableEq

namespace Failure

/-- A problem noticed after everything before `rest` was read. -/
def before (problem : Problem) (rest : List Char) : Failure := ⟨problem, rest, 0⟩

/-- A problem with the byte that `rest` begins with, or with the lack of one. -/
def atNext (problem : Problem) (rest : List Char) : Failure := ⟨problem, rest, 1⟩

/-- A problem with the end of the text. -/
def atEnd (problem : Problem) : Failure := before problem []

end Failure

/-- A problem and the position at which it was noticed. -/
structure Error where
  problem : Problem
  position : Position
  deriving DecidableEq

namespace Error

/-- The failure of reading `text`, with its position. -/
def ofFailure (text : List Char) (failure : Failure) : Error where
  problem := failure.problem
  position :=
    Position.start.advance (byteCount text - byteCount failure.rest + failure.ahead) text

/-- The wording of a problem together with its position. -/
def message (error : Error) : String :=
  error.problem.message ++ error.position.text

end Error

end PageBehaviors.Json
