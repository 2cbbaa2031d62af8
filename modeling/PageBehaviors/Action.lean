import PageBehaviors.Log

/-!
# Actions: steps that change a state and write a log

A page works on a document and reports to a log.  An `Action σ α` takes the state `σ` it works on
and gives back a value, the state it leaves and the lines it wrote, in their order.  Sequencing two
actions threads the state and concatenates the lines, so what an action wrote earlier never
influences what it does later.

## Main definitions

* `Outcome` — value, state and lines of one run.
* `Action` — the monad of such steps.
* `Action.log`, `Action.read`, `Action.call` — write a line, look at the state, run a silent step.
-/

namespace PageBehaviors

/-- What running an action gives: its value, the state it leaves and the lines it wrote. -/
structure Outcome (σ α : Type) where
  value : α
  state : σ
  entries : List Log.Entry
  deriving DecidableEq

/-- A step over a state `σ` that yields an `α` and writes log lines. -/
def Action (σ α : Type) : Type :=
  σ → Outcome σ α

namespace Action

variable {σ τ α β : Type}

/-- Run an action from a state. -/
def run (action : Action σ α) (state : σ) : Outcome σ α :=
  action state

@[ext] theorem ext {first second : Action σ α} (h : ∀ s, first.run s = second.run s) :
    first = second :=
  funext h

instance : Monad (Action σ) where
  pure value := fun state => ⟨value, state, []⟩
  map f action := fun state =>
    let outcome := action.run state
    ⟨f outcome.value, outcome.state, outcome.entries⟩
  bind action next := fun state =>
    let first := action.run state
    let second := (next first.value).run first.state
    ⟨second.value, second.state, first.entries ++ second.entries⟩

/-- Write one line. -/
def log (level : Log.Level) (text : String) : Action σ Unit :=
  fun state => ⟨(), state, [⟨level, text⟩]⟩

/-- Look at the state. -/
def read (view : σ → α) : Action σ α :=
  fun state => ⟨view state, state, []⟩

/-- Run a step that writes no line. -/
def call (step : StateM σ α) : Action σ α :=
  fun state =>
    let result := step.run state
    ⟨result.1, result.2, []⟩

/-! ### What each building block does -/

@[simp] theorem run_pure (value : α) (s : σ) :
    (pure value : Action σ α).run s = ⟨value, s, []⟩ := rfl

@[simp] theorem run_map (f : α → β) (action : Action σ α) (s : σ) :
    (f <$> action).run s =
      ⟨f (action.run s).value, (action.run s).state, (action.run s).entries⟩ := rfl

theorem run_bind (action : Action σ α) (next : α → Action σ β) (s : σ) :
    (action >>= next).run s =
      ⟨((next (action.run s).value).run (action.run s).state).value,
        ((next (action.run s).value).run (action.run s).state).state,
        (action.run s).entries ++ ((next (action.run s).value).run (action.run s).state).entries⟩ :=
  rfl

@[simp] theorem value_bind (action : Action σ α) (next : α → Action σ β) (s : σ) :
    ((action >>= next).run s).value =
      ((next (action.run s).value).run (action.run s).state).value := rfl

@[simp] theorem state_bind (action : Action σ α) (next : α → Action σ β) (s : σ) :
    ((action >>= next).run s).state =
      ((next (action.run s).value).run (action.run s).state).state := rfl

@[simp] theorem entries_bind (action : Action σ α) (next : α → Action σ β) (s : σ) :
    ((action >>= next).run s).entries =
      (action.run s).entries ++
        ((next (action.run s).value).run (action.run s).state).entries := rfl

@[simp] theorem run_log (level : Log.Level) (text : String) (s : σ) :
    (log level text : Action σ Unit).run s = ⟨(), s, [⟨level, text⟩]⟩ := rfl

@[simp] theorem run_read (view : σ → α) (s : σ) :
    (read view).run s = ⟨view s, s, []⟩ := rfl

@[simp] theorem run_call (step : StateM σ α) (s : σ) :
    (call step).run s = ⟨(step.run s).1, (step.run s).2, []⟩ := rfl

instance : LawfulMonad (Action σ) :=
  LawfulMonad.mk' (Action σ)
    (fun _ => rfl)
    (fun _ _ => by ext s : 1; simp [run_bind])
    (fun _ _ _ => by ext s : 1; simp [run_bind])
    (fun _ _ => rfl)
    (fun _ _ => rfl)
    (fun _ _ => rfl)
    (fun _ _ => by ext s : 1; simp [run_bind])
    (fun _ _ => rfl)

/-! ### Working on a part of a larger state -/

/-- Run an action on the part of a state that `part` shows and `put` replaces. -/
def within (part : τ → σ) (put : σ → τ → τ) (action : Action σ α) : Action τ α :=
  fun whole =>
    let outcome := action.run (part whole)
    ⟨outcome.value, put outcome.state whole, outcome.entries⟩

@[simp] theorem run_within (part : τ → σ) (put : σ → τ → τ) (action : Action σ α) (whole : τ) :
    (within part put action).run whole =
      ⟨(action.run (part whole)).value, put (action.run (part whole)).state whole,
        (action.run (part whole)).entries⟩ := rfl

end Action

end PageBehaviors
