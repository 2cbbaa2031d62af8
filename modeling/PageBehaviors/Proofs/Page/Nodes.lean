import PageBehaviors.Proofs.Section.Nodes

/-!
# Pages over a list of nodes, one operation at a time

Each operation either is a toggle of the section it asks for, or it leaves alone what the document
shows of its sections.  The laws about whole runs are inductions over the statements of this file.

## Main statements

* `Session.toggled_of_addressee`, `Session.facade_perform` — the two kinds of operations.
* `Session.elementById_perform`, `Session.visibility?_perform` — one operation, seen from one
  section.
-/

namespace PageBehaviors

open Section (Visibility)

namespace Session

/-- What a page shows of the section with an id. -/
def visibility? {D E : Type} [Document D E] (id : String) (session : Session D E) :
    Option Visibility :=
  Section.visibility? session.page.config.toggle id session.document

variable (operation : Operation) (session : Session (Unreliable MemoryDocument) Nat) (id : String)

/-- The toggle that an operation is, if it asks for a section. -/
theorem toggled_of_addressee {operation : Operation}
    {session : Session (Unreliable MemoryDocument) Nat} {addressee : String}
    (h : operation.addressee? session.page = some addressee) :
    MemoryDocument.Toggled session.page.config.toggle addressee session.document.document
      (verdict? addressee operation session)
      ((perform operation).run session).state.document.document
      ((failures [operation] session).map Failure.call) := by
  have toggled := Section.toggle_nodes session.page.config.toggle addressee session.document
  have hrecorded : operation.addressee? session.recorded.page = some addressee := h
  rw [verdict?_of_addressee h, failures_singleton, perform_of_addressee h,
    perform_of_addressee hrecorded]
  exact toggled

/-- What an operation that asks for no section leaves alone. -/
theorem facade_perform {operation : Operation}
    {session : Session (Unreliable MemoryDocument) Nat}
    (h : operation.addressee? session.page = none) :
    ((perform operation).run session).state.document.document.facade =
      session.document.document.facade :=
  keeps_of_no_addressee (Unreliable.overlooks MemoryDocument.overlooks_facade) h

/-- No operation changes where an id leads. -/
theorem elementById_perform :
    Document.elementById ((perform operation).run session).state.document id =
      Document.elementById session.document id := by
  cases h : operation.addressee? session.page with
  | none => exact congrFun (congrArg MemoryDocument.Facade.elementById (facade_perform h)) id
  | some addressee => exact (toggled_of_addressee h).elementById_eq id

/-- **One operation, seen from one section**: a verdict is what is seen of it afterwards, and
without a verdict it stays as it was. -/
theorem visibility?_perform :
    visibility? id ((perform operation).run session).state =
      (verdict? id operation session).or (visibility? id session) := by
  rw [visibility?, visibility?, config_perform]
  cases h : operation.addressee? session.page with
  | none =>
      rw [verdict?_of_ne (by simp [h]), Option.none_or]
      exact MemoryDocument.visibility?_congr _ _ (facade_perform h) id
  | some addressee =>
      have hverdict : verdict? id operation session =
          if id = addressee then verdict? addressee operation session else none := by
        split
        · next heq => rw [heq]
        · next hne => exact verdict?_of_ne (by simp [h, Ne.symm hne])
      rw [hverdict]
      exact (toggled_of_addressee h).visibility?_eq id

/-- A verdict is the flip of what was seen before. -/
theorem visibility?_of_verdict {next : Visibility}
    (h : verdict? id operation session = some next) :
    visibility? id session = some next.flipped := by
  have toggled := toggled_of_addressee (addressee?_of_verdict h)
  rw [h] at toggled
  exact toggled.visibility?_before

end Session

end PageBehaviors
