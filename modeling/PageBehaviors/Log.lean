import PageBehaviors.Text.Ascii

/-!
# Log lines and their levels

## Main definitions

* `Log.Level` — the five levels, from `error` to `trace`.
* `Log.Level.ofName?` — the level that a configured name stands for.
* `Log.Entry` — a line together with its level.
* `Log.kept` — the lines that a threshold lets through.
-/

namespace PageBehaviors.Log

/-- How severe a log line is, the most severe first. -/
inductive Level where
  | error
  | warn
  | info
  | debug
  | trace
  deriving DecidableEq, Repr

namespace Level

/-- The place of a level in the order of severity: one for the most severe. -/
def rank : Level → Nat
  | error => 1
  | warn => 2
  | info => 3
  | debug => 4
  | trace => 5

/-- The written name of a level. -/
def name : Level → String
  | error => "ERROR"
  | warn => "WARN"
  | info => "INFO"
  | debug => "DEBUG"
  | trace => "TRACE"

/-- All levels, the most severe first. -/
def all : List Level :=
  [error, warn, info, debug, trace]

/-- The level with the given name, whatever the case of its letters.  There is no level for
silence: `off` names none. -/
def ofName? (s : String) : Option Level :=
  all.find? fun level => Text.sameIgnoringCase level.name s

/-- A threshold admits the lines that are at least as severe as itself. -/
def admits (threshold level : Level) : Bool :=
  decide (level.rank ≤ threshold.rank)

@[simp] theorem trace_admits (level : Level) : trace.admits level = true := by
  cases level <;> rfl

theorem ofName?_name (level : Level) : ofName? level.name = some level := by
  cases level <;> decide +kernel

end Level

/-- A line that was logged. -/
structure Entry where
  /-- How severe the line is. -/
  level : Level
  /-- What it says. -/
  text : String
  deriving DecidableEq, Repr

/-- Whether a logger keeps a line; before one is installed, nothing is kept. -/
def keeps : Option Level → Level → Bool
  | none, _ => false
  | some threshold, level => threshold.admits level

/-- The lines that a logger keeps, in their order. -/
def kept (logger : Option Level) (entries : List Entry) : List Entry :=
  entries.filter fun entry => keeps logger entry.level

@[simp] theorem kept_nil (logger : Option Level) : kept logger [] = [] := rfl

@[simp] theorem kept_append (logger : Option Level) (first second : List Entry) :
    kept logger (first ++ second) = kept logger first ++ kept logger second :=
  List.filter_append ..

@[simp] theorem kept_none (entries : List Entry) : kept none entries = [] := by
  simp [kept, keeps]

end PageBehaviors.Log
