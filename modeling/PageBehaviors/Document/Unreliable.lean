import PageBehaviors.Document.Basic
import PageBehaviors.Document.Faults

/-!
# Documents that refuse calls

Around any document stands one that lets calls fail on schedule.  A call that fails leaves the
inner document alone; a call that works is the inner document's own, which may still refuse it.

## Main definitions

* `Unreliable.Call` — the kinds of calls that may fail.
* `Unreliable` — a document together with its schedules.
-/

namespace PageBehaviors

namespace Unreliable

/-- The kinds of calls that may fail. -/
inductive Call where
  | elementsWithAttribute
  | attributeOf
  | setAttribute
  | addClass
  | removeClass
  | formMethod
  | appendHiddenInput
  | cookie
  deriving DecidableEq, Repr

end Unreliable

/-- A document whose calls fail on schedule. -/
structure Unreliable (D : Type) where
  document : D
  faults : Faults Unreliable.Call String

namespace Unreliable

variable {D E α : Type}

/-- A document all of whose calls are passed on. -/
def reliable (document : D) : Unreliable D := ⟨document, .none⟩

/-- Count a call, and pass it on unless it is to fail; `refuse` is what it gives then. -/
def attempt (call : Call) (refuse : String → α) (step : StateM D α) : StateM (Unreliable D) α :=
  fun whole =>
    let faults := whole.faults.next call
    match whole.faults.failure? call with
    | some message => (refuse message, ⟨whole.document, faults⟩)
    | none =>
      let result := step.run whole.document
      (result.1, ⟨result.2, faults⟩)

/-- Count a call that may end in an error. -/
def guarded (call : Call) (step : StateM D (Except PageError α)) :
    StateM (Unreliable D) (Except PageError α) :=
  attempt call (fun message => .error (.document message)) step

instance [Document D E] : Document (Unreliable D) E where
  elementById whole := Document.elementById whole.document
  hasClass whole := Document.hasClass whole.document
  forms whole := Document.forms whole.document
  elementsWithAttribute name :=
    guarded .elementsWithAttribute (Document.elementsWithAttribute name)
  attributeOf element name :=
    attempt .attributeOf (fun _ => none) (Document.attributeOf element name)
  setAttribute element name value :=
    guarded .setAttribute (Document.setAttribute element name value)
  addClass element name := guarded .addClass (Document.addClass element name)
  removeClass element name := guarded .removeClass (Document.removeClass element name)
  formMethod form := attempt .formMethod (fun _ => none) (Document.formMethod form)
  appendHiddenInput form name value :=
    guarded .appendHiddenInput (Document.appendHiddenInput form name value)
  cookie := guarded .cookie Document.cookie

/-! ### What a counted call does -/

/-- A call that is to fail never reaches the inner document. -/
theorem run_attempt_of_some {call : Call} {whole : Unreliable D} {message : String}
    (h : whole.faults.failure? call = some message) (refuse : String → α) (step : StateM D α) :
    (attempt call refuse step).run whole =
      (refuse message, ⟨whole.document, whole.faults.next call⟩) := by
  simp [attempt, StateT.run, h]

/-- Any other call is passed on as it is. -/
theorem run_attempt_of_none {call : Call} {whole : Unreliable D}
    (h : whole.faults.failure? call = none) (refuse : String → α) (step : StateM D α) :
    (attempt call refuse step).run whole =
      ((step.run whole.document).1, ⟨(step.run whole.document).2, whole.faults.next call⟩) := by
  simp [attempt, StateT.run, h]

@[simp] theorem run_attempt_reliable (call : Call) (document : D) (refuse : String → α)
    (step : StateM D α) :
    (attempt call refuse step).run (reliable document) =
      ((step.run document).1, reliable (step.run document).2) := by
  have h : (reliable document).faults.failure? call = none := Faults.failure?_none call
  rw [run_attempt_of_none h]
  simp [reliable]

end Unreliable

end PageBehaviors
