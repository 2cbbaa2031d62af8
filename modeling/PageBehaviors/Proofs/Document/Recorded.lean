import PageBehaviors.Document.Unreliable
import PageBehaviors.Proofs.Document.Simulation

/-!
# Keeping a record of the calls that fail

To speak about the calls that fail while a page is used, its document is put into one that answers
in the same way and writes each failure down.  The page behaves as before, which is an instance of
`Document.Simulation`, so the record can be read as a fact about the run without it.

## Main definitions and statements

* `Recorded` — a document together with the failures so far.
* `Session.failures` — the failures of a run.
* `Session.recorded_run`, `Session.failures_cons` — the record changes nothing, and it is written
  one operation after the other.
-/

namespace PageBehaviors

/-- A call that ended in an error. -/
structure Failure where
  /-- The kind of the call. -/
  call : Unreliable.Call
  /-- What it ended in. -/
  error : PageError
  deriving DecidableEq

/-- A document together with the failures of its calls, the oldest first. -/
structure Recorded (D : Type) where
  document : D
  failures : List Failure := []

namespace Recorded

variable {D E α : Type}

/-- The failure that the result of a call is, if it is one. -/
def failuresOf (call : Unreliable.Call) : Except PageError α → List Failure
  | .ok _ => []
  | .error error => [⟨call, error⟩]

/-- Make a call and write its failure down. -/
def note (call : Unreliable.Call) (step : StateM D (Except PageError α)) :
    StateM (Recorded D) (Except PageError α) := fun whole =>
  let result := step.run whole.document
  (result.1, ⟨result.2, whole.failures ++ failuresOf call result.1⟩)

/-- Make a call that cannot fail. -/
def pass (step : StateM D α) : StateM (Recorded D) α := fun whole =>
  let result := step.run whole.document
  (result.1, ⟨result.2, whole.failures⟩)

@[simp] theorem run_note (call : Unreliable.Call) (step : StateM D (Except PageError α))
    (whole : Recorded D) :
    (note call step).run whole = ((step.run whole.document).1,
      ⟨(step.run whole.document).2,
        whole.failures ++ failuresOf call (step.run whole.document).1⟩) := rfl

instance [Document D E] : Document (Recorded D) E where
  elementById whole := Document.elementById whole.document
  hasClass whole := Document.hasClass whole.document
  forms whole := Document.forms whole.document
  elementsWithAttribute name := note .elementsWithAttribute (Document.elementsWithAttribute name)
  attributeOf element name := pass (Document.attributeOf element name)
  setAttribute element name value := note .setAttribute (Document.setAttribute element name value)
  addClass element name := note .addClass (Document.addClass element name)
  removeClass element name := note .removeClass (Document.removeClass element name)
  formMethod form := pass (Document.formMethod form)
  appendHiddenInput form name value :=
    note .appendHiddenInput (Document.appendHiddenInput form name value)
  cookie := note .cookie Document.cookie

section

variable [Document D E]

/-- A record in which everything stands that another one says, after some earlier failures. -/
structure Extends (prior : List Failure) (whole other : Recorded D) : Prop where
  document : whole.document = other.document
  failures : whole.failures = prior ++ other.failures

theorem note_forget (call : Unreliable.Call) (step : StateM D (Except PageError α)) :
    Action.CallsAgree (fun whole document => whole.document = document) Eq (note call step)
      step := by
  rintro whole _ rfl
  exact ⟨rfl, rfl⟩

theorem pass_forget (step : StateM D α) :
    Action.CallsAgree (fun whole document => whole.document = document) Eq (pass step) step := by
  rintro whole _ rfl
  exact ⟨rfl, rfl⟩

theorem note_extends (prior : List Failure) (call : Unreliable.Call)
    (step : StateM D (Except PageError α)) :
    Action.CallsAgree (Extends prior) Eq (note call step) (note call step) := by
  rintro ⟨document, failures⟩ ⟨document', failures'⟩ ⟨hdocument, hfailures⟩
  obtain rfl : document = document' := hdocument
  obtain rfl : failures = prior ++ failures' := hfailures
  exact ⟨rfl, ⟨rfl, List.append_assoc ..⟩⟩

theorem pass_extends (prior : List Failure) (step : StateM D α) :
    Action.CallsAgree (Extends prior) Eq (pass step) (pass step) := by
  rintro ⟨document, failures⟩ ⟨document', failures'⟩ ⟨hdocument, hfailures⟩
  obtain rfl : document = document' := hdocument
  exact ⟨rfl, ⟨rfl, hfailures⟩⟩

/-- Keeping the record changes nothing else. -/
theorem simulation_forget (config : PageConfig) :
    Document.Simulation config (fun (whole : Recorded D) document => whole.document = document)
      (fun _ : E => True) where
  elementById := by
    rintro whole _ rfl id
    exact ⟨rfl, fun _ _ => trivial⟩
  hasClass := by
    rintro whole _ rfl element -
    rfl
  forms := by
    rintro whole _ rfl
    exact ⟨rfl, fun _ _ => trivial⟩
  elementsWithAttribute := by
    intro whole document related
    obtain ⟨value, related⟩ := note_forget _ _ whole document related
    exact ⟨⟨value, fun _ _ _ _ => trivial⟩, related⟩
  attributeOf _ _ := pass_forget _
  setSource _ _ _ := note_forget _ _
  addClass _ _ := note_forget _ _
  removeClass _ _ := note_forget _ _
  formMethod _ _ whole document related := by
    obtain ⟨value, related⟩ := pass_forget _ whole document related
    exact ⟨congrArg Document.isPost value, related⟩
  appendHiddenInput _ _ _ := note_forget _ _
  cookie := note_forget _ _

/-- What a record says already has no influence on what is added to it. -/
theorem simulation_extends (config : PageConfig) (prior : List Failure) :
    Document.Simulation config (Extends (D := D) prior) (fun _ : E => True) where
  elementById whole other related id := by
    refine ⟨?_, fun _ _ => trivial⟩
    show Document.elementById whole.document id = Document.elementById other.document id
    rw [related.document]
  hasClass whole other related element _ := by
    show Document.hasClass whole.document element _ = Document.hasClass other.document element _
    rw [related.document]
  forms whole other related := by
    refine ⟨?_, fun _ _ => trivial⟩
    show Document.forms whole.document = Document.forms other.document
    rw [related.document]
  elementsWithAttribute := by
    intro whole other related
    obtain ⟨value, related⟩ := note_extends prior _ _ whole other related
    exact ⟨⟨value, fun _ _ _ _ => trivial⟩, related⟩
  attributeOf _ _ := pass_extends _ _
  setSource _ _ _ := note_extends _ _ _
  addClass _ _ := note_extends _ _ _
  removeClass _ _ := note_extends _ _ _
  formMethod _ _ whole other related := by
    obtain ⟨value, related⟩ := pass_extends prior _ whole other related
    exact ⟨congrArg Document.isPost value, related⟩
  appendHiddenInput _ _ _ := note_extends _ _ _
  cookie := note_extends _ _ _

end

end Recorded

namespace Session

variable {D E : Type} [Document D E]

/-- The same session with an empty record. -/
def recorded (session : Session D E) : Session (Recorded D) E :=
  ⟨⟨session.document, []⟩, session.page⟩

/-- The calls that fail when several things are done with a page, in their order. -/
def failures (operations : List Operation) (session : Session D E) : List Failure :=
  ((run operations).run session.recorded).state.document.failures

/-- The run with a record and the run without one. -/
theorem recorded_run (operations : List Operation) (session : Session D E) :
    ((run operations).run session.recorded).value = ((run operations).run session).value ∧
    ((run operations).run session.recorded).state.document.document =
      ((run operations).run session).state.document ∧
    ((run operations).run session.recorded).state.page =
      ((run operations).run session).state.page := by
  obtain ⟨-, value, agree⟩ := (Recorded.simulation_forget session.page.config).run operations
    session.recorded session ⟨rfl, rfl, rfl⟩
  exact ⟨value, agree.document, agree.page⟩

/-- An operation with a record and the same operation without one. -/
theorem recorded_perform (operation : Operation) (session : Session D E) :
    ((perform operation).run session.recorded).value = ((perform operation).run session).value ∧
    ((perform operation).run session.recorded).state.document.document =
      ((perform operation).run session).state.document ∧
    ((perform operation).run session.recorded).state.page =
      ((perform operation).run session).state.page := by
  obtain ⟨-, value, agree⟩ := (Recorded.simulation_forget session.page.config).perform operation
    session.recorded session ⟨rfl, rfl, rfl⟩
  exact ⟨value, agree.document, agree.page⟩

@[simp] theorem failures_nil (session : Session D E) : failures [] session = [] := rfl

/-- The failures of a single operation. -/
theorem failures_singleton (operation : Operation) (session : Session D E) :
    failures [operation] session =
      ((perform operation).run session.recorded).state.document.failures := rfl

/-- The failures of a run are those of its first operation and those of the rest. -/
theorem failures_cons (operation : Operation) (operations : List Operation)
    (session : Session D E) :
    failures (operation :: operations) session =
      failures [operation] session ++
        failures operations ((perform operation).run session).state := by
  obtain ⟨-, hdocument, hpage⟩ := recorded_perform operation session
  obtain ⟨-, -, agree⟩ := (Recorded.simulation_extends
      ((perform operation).run session).state.page.config
      (failures [operation] session)).run operations
    ((perform operation).run session.recorded).state
    ((perform operation).run session).state.recorded
    ⟨⟨hdocument, (List.append_nil _).symm⟩, hpage, congrArg Page.config hpage⟩
  exact agree.document.failures

end Session

end PageBehaviors
