import PageBehaviors.Document.Unreliable
import PageBehaviors.Proofs.Document.Simulation

/-!
# Related documents that refuse the same calls

Two documents that answer alike still do so when calls to them fail, as long as they fail on the
same schedules: a call either fails in both or reaches both.  Only the schedules of the calls that
are made matter for this, so the documents may be related on some kinds of calls and not on others.

## Main definitions and statements

* `Unreliable.AgreeOn` — related documents with the same schedules for some kinds of calls.
* `Unreliable.Lifted` — related documents with the same schedules.
* `Unreliable.attempt_agreeOn`, `Unreliable.attempt_agree` — one call.
* `Document.TriggerSimulation.agreeOn`, `Document.TokenSimulation.agreeOn` — the calls of a
  behaviour, where the schedules of these calls are the same.
* `Document.SectionSimulation.lifted`, `Document.TriggerSimulation.lifted`,
  `Document.TokenSimulation.lifted` — the calls of each behaviour, where all schedules are.
-/

namespace PageBehaviors

open PageBehaviors.Action (CallsAgree)

variable {D D' E α β : Type} {r : D → D' → Prop}

namespace Unreliable

/-- The kinds of calls that may fail, all of them. -/
def Call.all : List Call :=
  [.elementsWithAttribute, .attributeOf, .setAttribute, .addClass, .removeClass, .formMethod,
    .appendHiddenInput, .cookie]

theorem Call.mem_all (call : Call) : call ∈ all := by
  cases call <;> decide

/-- Related documents whose calls of some kinds fail on the same schedules. -/
structure AgreeOn (calls : List Call) (r : D → D' → Prop) (whole : Unreliable D)
    (other : Unreliable D') : Prop where
  document : r whole.document other.document
  faults : ∀ call ∈ calls, whole.faults call = other.faults call

/-- Related documents whose calls fail on the same schedules. -/
structure Lifted (r : D → D' → Prop) (whole : Unreliable D) (other : Unreliable D') : Prop where
  document : r whole.document other.document
  faults : whole.faults = other.faults

theorem lifted_eq_agreeOn (r : D → D' → Prop) : Lifted r = AgreeOn Call.all r := by
  funext whole other
  refine propext ⟨fun h => ⟨h.document, fun call _ => congrFun h.faults call⟩, fun h => ?_⟩
  exact ⟨h.document, funext fun call => h.faults call (Call.mem_all call)⟩

/-- A call advances its own schedule, whether it fails or not. -/
theorem faults_run_attempt (call : Call) (refuse : String → α) (step : StateM D α)
    (whole : Unreliable D) :
    ((attempt call refuse step).run whole).2.faults = whole.faults.next call := by
  cases hfault : whole.faults.failure? call with
  | none => rw [run_attempt_of_none hfault]
  | some message => rw [run_attempt_of_some hfault]

/-- A call fails in both documents, or it reaches both. -/
theorem attempt_agreeOn {Q : α → β → Prop} {step : StateM D α} {other : StateM D' β} {call : Call}
    {calls : List Call} (mem : call ∈ calls) {refuse : String → α} {refuse' : String → β}
    (hrefuse : ∀ message, Q (refuse message) (refuse' message)) (h : CallsAgree r Q step other) :
    CallsAgree (AgreeOn calls r) Q (attempt call refuse step) (attempt call refuse' other) := by
  intro whole whole' ⟨related, hfaults⟩
  have hsame : whole.faults.failure? call = whole'.faults.failure? call := by
    rw [Faults.failure?, Faults.failure?, hfaults call mem]
  have hnext : ∀ kind ∈ calls, whole.faults.next call kind = whole'.faults.next call kind := by
    intro kind hkind
    rw [Faults.next, Faults.next, hfaults kind hkind]
  cases hfault : whole.faults.failure? call with
  | none =>
      obtain ⟨hvalue, hstate⟩ := h whole.document whole'.document related
      rw [run_attempt_of_none hfault, run_attempt_of_none (hsame ▸ hfault)]
      exact ⟨hvalue, ⟨hstate, hnext⟩⟩
  | some message =>
      rw [run_attempt_of_some hfault, run_attempt_of_some (hsame ▸ hfault)]
      exact ⟨hrefuse message, ⟨related, hnext⟩⟩

/-- A call fails in both documents, or it reaches both. -/
theorem attempt_agree {Q : α → β → Prop} {step : StateM D α} {other : StateM D' β} (call : Call)
    {refuse : String → α} {refuse' : String → β} (hrefuse : ∀ message, Q (refuse message)
      (refuse' message)) (h : CallsAgree r Q step other) :
    CallsAgree (Lifted r) Q (attempt call refuse step) (attempt call refuse' other) := by
  rw [lifted_eq_agreeOn]
  exact attempt_agreeOn call.mem_all hrefuse h

end Unreliable

namespace Document

open Unreliable (AgreeOn Call Lifted attempt_agree attempt_agreeOn lifted_eq_agreeOn)

variable [Document D E] [Document D' E] {Known : E → Prop} {calls : List Call}

theorem SectionSimulation.lifted {config : ToggleConfig} (sim : SectionSimulation config r Known) :
    SectionSimulation config (Lifted r : Unreliable D → Unreliable D' → Prop) Known where
  elementById _ _ related := sim.elementById _ _ related.document
  hasClass _ _ related := sim.hasClass _ _ related.document
  setSource element known value :=
    attempt_agree .setAttribute (fun _ => rfl) (sim.setSource element known value)
  addClass element known := attempt_agree .addClass (fun _ => rfl) (sim.addClass element known)
  removeClass element known :=
    attempt_agree .removeClass (fun _ => rfl) (sim.removeClass element known)

theorem TriggerSimulation.agreeOn {config : ToggleConfig} (sim : TriggerSimulation config r Known)
    (queries : .elementsWithAttribute ∈ calls) (reads : .attributeOf ∈ calls) :
    TriggerSimulation config (AgreeOn calls r : Unreliable D → Unreliable D' → Prop) Known where
  elementsWithAttribute := by
    refine attempt_agreeOn queries (fun message => ⟨rfl, ?_⟩) sim.elementsWithAttribute
    intro elements h
    cases h
  attributeOf element known := attempt_agreeOn reads (fun _ => rfl) (sim.attributeOf element known)

theorem TriggerSimulation.lifted {config : ToggleConfig} (sim : TriggerSimulation config r Known) :
    TriggerSimulation config (Lifted r : Unreliable D → Unreliable D' → Prop) Known := by
  rw [lifted_eq_agreeOn]
  exact sim.agreeOn (Call.mem_all _) (Call.mem_all _)

theorem TokenSimulation.agreeOn {config : XsrfConfig} {token token' : String}
    (sim : TokenSimulation config token token' r Known) (methods : .formMethod ∈ calls)
    (appends : .appendHiddenInput ∈ calls) :
    TokenSimulation config token token' (AgreeOn calls r : Unreliable D → Unreliable D' → Prop)
      Known where
  forms _ _ related := sim.forms _ _ related.document
  formMethod form known := attempt_agreeOn methods (fun _ => rfl) (sim.formMethod form known)
  appendHiddenInput form known :=
    attempt_agreeOn appends (fun _ => rfl) (sim.appendHiddenInput form known)

theorem TokenSimulation.lifted {config : XsrfConfig} {token token' : String}
    (sim : TokenSimulation config token token' r Known) :
    TokenSimulation config token token' (Lifted r : Unreliable D → Unreliable D' → Prop)
      Known := by
  rw [lifted_eq_agreeOn]
  exact sim.agreeOn (Call.mem_all _) (Call.mem_all _)

end Document

end PageBehaviors
