import Mathlib.Tactic.ByContra
import PageBehaviors.Page
import PageBehaviors.Proofs.Action.Relation

/-!
# What the operations of a page do to its document

An operation either asks for a section to be flipped, and then it is a toggle with the settings of
the page, or it looks the document over and perhaps gives the token to its forms.  The passes of
the second kind make five kinds of calls only, so they leave alone every view of the document that
these calls do.

## Main definitions and statements

* `Document.OverlooksTriggers`, `Document.Overlooks` — the views that the passes over a document
  leave alone.
* `Operation.addressee?` — the section that an operation asks to be flipped.
* `Session.run_perform_init`, `Session.run_cons` — setting a session up; a run and its first
  operation.
* `Session.perform_of_addressee`, `Session.keeps_of_no_addressee` — what an operation does if there
  is such a section, and if there is none.
* `Session.verdicts` — what a run has to say about one section.
-/

namespace PageBehaviors

open PageBehaviors.Action (Keeps)

variable {D E ι : Type}

/-- Neither of the calls that find bindings changes the view. -/
structure Document.OverlooksTriggers [Document D E] (view : D → ι) : Prop where
  elementsWithAttribute : ∀ name d, view ((Document.elementsWithAttribute name).run d).2 = view d
  attributeOf : ∀ (element : E) name d,
    view ((Document.attributeOf element name).run d).2 = view d

/-- None of the calls that find bindings or give the token to forms changes the view. -/
structure Document.Overlooks [Document D E] (view : D → ι) : Prop
    extends Document.OverlooksTriggers view where
  formMethod : ∀ (form : E) d, view ((Document.formMethod form).run d).2 = view d
  appendHiddenInput : ∀ (form : E) name value d,
    view ((Document.appendHiddenInput form name value).run d).2 = view d
  cookie : ∀ d, view ((Document.cookie : StateM D _).run d).2 = view d

/-! ### The passes over a document -/

namespace Document.OverlooksTriggers

variable [Document D E] {view : D → ι} (overlooks : Document.OverlooksTriggers view)

include overlooks

theorem bind? (config : ToggleConfig) (trigger : E) :
    Keeps view (Section.bind? config trigger : Action D _) := by
  refine (Keeps.call (overlooks.attributeOf trigger _)).bind fun target => ?_
  cases target with
  | none => exact Keeps.pure _
  | some target =>
      by_cases h : target = ""
      · simp only [h, if_true]
        exact (Keeps.log _ _).bind fun _ => Keeps.pure _
      · simp only [h, if_false]
        exact Keeps.pure _

theorem bindAll (config : ToggleConfig) (triggers : List E) :
    Keeps view (Section.bindAll config triggers : Action D _) := by
  induction triggers with
  | nil => exact Keeps.pure _
  | cons trigger triggers ih =>
      exact (overlooks.bind? config trigger).bind fun _ => ih.bind fun _ => Keeps.pure _

theorem discover (config : ToggleConfig) :
    Keeps view (Section.discover config : Action D _) := by
  refine (Keeps.call (overlooks.elementsWithAttribute _)).bind fun found => ?_
  cases found with
  | error error => exact (Keeps.log _ _).bind fun _ => Keeps.pure _
  | ok triggers => exact overlooks.bindAll config triggers

end Document.OverlooksTriggers

namespace Document.Overlooks

variable [Document D E] {view : D → ι} (overlooks : Document.Overlooks view)

include overlooks

theorem injectInto (config : XsrfConfig) (token : String) (form : E) :
    Keeps view (FormToken.injectInto config token form : Action D _) := by
  refine (Keeps.call (overlooks.formMethod form)).bind fun method => ?_
  split
  · refine (Keeps.call (overlooks.appendHiddenInput form _ _)).bind fun result => ?_
    cases result with
    | ok => exact Keeps.pure _
    | error error => exact (Keeps.log _ _).bind fun _ => Keeps.pure _
  · exact Keeps.pure _

theorem injectAll (config : XsrfConfig) (token : String) (forms : List E) :
    Keeps view (FormToken.injectAll config token forms : Action D _) := by
  induction forms with
  | nil => exact Keeps.pure _
  | cons form forms ih =>
      exact (overlooks.injectInto config token form).bind fun _ => ih.bind fun _ => Keeps.pure _

theorem inject (config : XsrfConfig) : Keeps view (FormToken.inject config : Action D _) := by
  refine (Keeps.call overlooks.cookie).bind fun cookies => ?_
  cases cookies with
  | error error => exact (Keeps.log _ _).bind fun _ => Keeps.pure _
  | ok cookies =>
      cases h : FormToken.token? config cookies with
      | none =>
          simp only [h]
          exact (Keeps.log _ _).bind fun _ => Keeps.pure _
      | some token =>
          simp only [h]
          refine (Keeps.read _).bind fun forms => ?_
          refine (overlooks.injectAll config token forms).bind fun count => ?_
          exact (Keeps.log _ _).bind fun _ => Keeps.pure _

theorem init (page : Page E) : Keeps view (page.init : Action D _) := by
  refine (overlooks.discover _).bind fun bindings => ?_
  refine Keeps.bind ?_ fun count => (Keeps.log _ _).bind fun _ => Keeps.pure _
  unfold Page.injectToken
  split
  · exact overlooks.inject _
  · exact Keeps.pure _

end Document.Overlooks

/-! ### The section that an operation asks for -/

/-- The id of the section that an operation asks to be flipped, given the page it is done with. -/
def Operation.addressee? (page : Page E) : Operation → Option String
  | .toggle id => some id
  | .click index => page.bindings[index]?.map (·.target)
  | _ => none

namespace Session

variable [Document D E]

/-- What sets a session up. -/
theorem run_perform_init (session : Session D E) :
    (perform .init).run session =
      let outcome := session.page.init.run session.document
      ⟨.report outcome.value.2, ⟨outcome.state, outcome.value.1⟩, outcome.entries⟩ := by
  simp [perform, Action.run_bind, onDocument, StateT.run, modify, modifyGet,
    MonadStateOf.modifyGet, StateT.modifyGet]
  rfl

theorem run_cons (operation : Operation) (operations : List Operation)
    (session : Session D E) :
    (run (operation :: operations)).run session =
      let first := (perform operation).run session
      let others := (run operations).run first.state
      ⟨first.value :: others.value, others.state, first.entries ++ others.entries⟩ := by
  simp [run, Action.run_bind]

/-- No operation changes the settings of the page. -/
theorem config_perform (operation : Operation) (session : Session D E) :
    ((perform operation).run session).state.page.config = session.page.config := by
  cases operation <;> rfl

/-- An operation that asks for a section is a toggle of that section. -/
theorem perform_of_addressee {operation : Operation} {session : Session D E} {id : String}
    (h : operation.addressee? session.page = some id) :
    (perform operation).run session =
      let outcome := (Section.toggle session.page.config.toggle id).run session.document
      ⟨.visibility outcome.value, { session with document := outcome.state }, outcome.entries⟩ := by
  cases operation with
  | toggle other =>
      obtain rfl : other = id := Option.some.inj h
      simp [perform, Action.run_bind, onDocument, Page.toggle]
  | click index =>
      obtain ⟨binding, hbinding, rfl⟩ := Option.map_eq_some_iff.mp h
      simp [perform, Action.run_bind, onDocument, Page.click, Page.toggle, hbinding]
  | init => cases h
  | bindings => cases h
  | visibility => cases h
  | discover => cases h
  | inject => cases h

/-- Any other operation leaves alone what the passes over a document do. -/
theorem keeps_of_no_addressee {view : D → ι} (overlooks : Document.Overlooks view)
    {operation : Operation} {session : Session D E}
    (h : operation.addressee? session.page = none) :
    view ((perform operation).run session).state.document = view session.document := by
  cases operation with
  | toggle other => cases h
  | click index =>
      have hnone : session.page.bindings[index]? = none := Option.map_eq_none_iff.mp h
      simp [perform, Action.run_bind, onDocument, Page.click, hnone]
  | init => exact overlooks.init session.page session.document
  | bindings => rfl
  | visibility => rfl
  | discover => exact overlooks.discover session.page.config.toggle session.document
  | inject => exact overlooks.inject session.page.config.xsrf session.document

/-- The settings stay the same during a run. -/
theorem config_run (operations : List Operation) (session : Session D E) :
    ((run operations).run session).state.page.config = session.page.config := by
  induction operations generalizing session with
  | nil => rfl
  | cons operation operations ih =>
      exact (ih _).trans (config_perform operation session)

end Session

/-! ### What a run says about a section -/

/-- The visibility that a reply tells. -/
def Reply.verdict? : Reply E → Option Section.Visibility
  | .visibility verdict => verdict
  | .report _ => none
  | .bindings _ => none
  | .count _ => none

namespace Session

variable [Document D E]

/-- The sections that the operations of a run ask for, each given the page that it meets. -/
def addressees : List Operation → Session D E → List (Option String)
  | [], _ => []
  | operation :: operations, session =>
    operation.addressee? session.page ::
      addressees operations ((perform operation).run session).state

/-- The new visibilities that a run tells in reply to the operations that ask for a section. -/
def verdicts (id : String) (operations : List Operation) (session : Session D E) :
    List Section.Visibility :=
  ((addressees operations session).zip ((run operations).run session).value).filterMap
    fun entry => if entry.1 = some id then entry.2.verdict? else none

/-- The new visibility of a section that an operation tells, if it asks for that section. -/
def verdict? (id : String) (operation : Operation) (session : Session D E) :
    Option Section.Visibility :=
  if operation.addressee? session.page = some id then
    ((perform operation).run session).value.verdict?
  else none

@[simp] theorem verdicts_nil (id : String) (session : Session D E) :
    verdicts id [] session = [] := rfl

theorem verdicts_cons (id : String) (operation : Operation) (operations : List Operation)
    (session : Session D E) :
    verdicts id (operation :: operations) session =
      (verdict? id operation session).toList ++
        verdicts id operations ((perform operation).run session).state := by
  unfold verdicts
  simp only [addressees, run, Action.value_bind, Action.run_pure, List.zip_cons_cons,
    List.filterMap_cons]
  rw [verdict?]
  split
  · next h => rw [h]; rfl
  · next h => rw [h]; rfl

theorem verdict?_of_ne {id : String} {operation : Operation} {session : Session D E}
    (h : operation.addressee? session.page ≠ some id) : verdict? id operation session = none :=
  if_neg h

theorem addressee?_of_verdict {id : String} {operation : Operation} {session : Session D E}
    {next : Section.Visibility} (h : verdict? id operation session = some next) :
    operation.addressee? session.page = some id := by
  by_contra hne
  rw [verdict?_of_ne hne] at h
  cases h

theorem verdict?_of_addressee {id : String} {operation : Operation} {session : Session D E}
    (h : operation.addressee? session.page = some id) :
    verdict? id operation session =
      ((Section.toggle session.page.config.toggle id).run session.document).value := by
  rw [verdict?, if_pos h, perform_of_addressee h]
  rfl

end Session

end PageBehaviors
