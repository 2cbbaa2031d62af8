import PageBehaviors.Document.Unreliable
import PageBehaviors.Proofs.Document.Simulation

/-!
# Documents none of whose calls fail

A document whose schedules let every call pass is as good as the document itself.  So what is known
of a page whose calls may fail holds as well of a page whose calls do not.

## Main statements

* `Unreliable.simulation_reliable` — the two answer a page alike.
* `Session.reliable_perform` — so they do to every operation.
-/

namespace PageBehaviors

variable {D E α : Type}

namespace Unreliable

theorem attempt_reliable (call : Call) (refuse : String → α) (step : StateM D α) :
    Action.CallsAgree (fun whole document => whole = reliable document) Eq
      (attempt call refuse step) step := by
  rintro _ document rfl
  rw [run_attempt_reliable]
  exact ⟨rfl, rfl⟩

/-- A document that lets every call pass answers as the document within. -/
theorem simulation_reliable [Document D E] (config : PageConfig) :
    Document.Simulation config (fun (whole : Unreliable D) document => whole = reliable document)
      (fun _ : E => True) where
  elementById := by
    rintro _ document rfl id
    exact ⟨rfl, fun _ _ => trivial⟩
  hasClass := by
    rintro _ document rfl element -
    rfl
  forms := by
    rintro _ document rfl
    exact ⟨rfl, fun _ _ => trivial⟩
  elementsWithAttribute := by
    intro whole document related
    obtain ⟨value, related⟩ := attempt_reliable _ _ _ whole document related
    exact ⟨⟨value, fun _ _ _ _ => trivial⟩, related⟩
  attributeOf _ _ := attempt_reliable _ _ _
  setSource _ _ _ := attempt_reliable _ _ _
  addClass _ _ := attempt_reliable _ _ _
  removeClass _ _ := attempt_reliable _ _ _
  formMethod _ _ whole document related := by
    obtain ⟨value, related⟩ := attempt_reliable _ _ _ whole document related
    exact ⟨congrArg Document.isPost value, related⟩
  appendHiddenInput _ _ _ := attempt_reliable _ _ _
  cookie := attempt_reliable _ _ _

end Unreliable

namespace Session

variable [Document D E]

/-- The same session with a document that lets every call pass. -/
def reliable (session : Session D E) : Session (Unreliable D) E :=
  ⟨Unreliable.reliable session.document, session.page⟩

/-- An operation whose calls are let pass, and the same operation on the document itself. -/
theorem reliable_perform (operation : Operation) (session : Session D E) :
    (perform operation).run session.reliable =
      ⟨((perform operation).run session).value, ((perform operation).run session).state.reliable,
        ((perform operation).run session).entries⟩ := by
  obtain ⟨entries, value, agree⟩ := (Unreliable.simulation_reliable session.page.config).perform
    operation session.reliable session ⟨rfl, rfl, rfl⟩
  have hdocument := agree.document
  have hpage := agree.page
  generalize (perform operation).run session.reliable = outcome at *
  obtain ⟨told, ⟨document, page⟩, lines⟩ := outcome
  subst value entries hdocument hpage
  rfl

end Session

end PageBehaviors
