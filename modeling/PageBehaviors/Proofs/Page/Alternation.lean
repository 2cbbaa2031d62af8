import Mathlib.Data.List.Chain
import PageBehaviors.Proofs.Page.Nodes

/-!
# The verdicts on a section alternate

While a page is used, each section is flipped by the operations that ask for it and by nothing
else: not by flips of other sections, even where one section is the icon of another, not by tokens
that are given to forms, and not by a page that is set up again.  Failing calls make an operation
say nothing; they never make it say something wrong.

## Main statements

* `Session.elementById_run` — ids lead where they led at the start.
* `Session.visibility?_run` — what is seen of a section is the last verdict on it.
* `Session.verdicts_alternate` — the verdicts alternate, and the first one is not what was seen at
  the start.
-/

namespace PageBehaviors

open Section (Visibility)

namespace Session

/-- Ids lead where they led at the start. -/
theorem elementById_run (operations : List Operation)
    (session : Session (Unreliable MemoryDocument) Nat) (id : String) :
    Document.elementById ((run operations).run session).state.document id =
      Document.elementById session.document id := by
  induction operations generalizing session with
  | nil => rfl
  | cons operation operations ih => exact (ih _).trans (elementById_perform operation session id)

/-- What is seen of a section is the last verdict on it. -/
theorem visibility?_run (operations : List Operation)
    (session : Session (Unreliable MemoryDocument) Nat) (id : String) :
    visibility? id ((run operations).run session).state =
      (verdicts id operations session).getLast?.or (visibility? id session) := by
  induction operations generalizing session with
  | nil => rfl
  | cons operation operations ih =>
      rw [verdicts_cons, List.getLast?_append, Option.or_assoc]
      refine (ih _).trans ?_
      rw [visibility?_perform]
      cases verdict? id operation session with
      | none => rfl
      | some next => rfl

/-- Each verdict is the flip of the one before, and the first is the flip of what was seen. -/
theorem isChain_verdicts (operations : List Operation)
    (session : Session (Unreliable MemoryDocument) Nat) (id : String) :
    List.IsChain (fun first second => second = first.map Visibility.flipped)
      (visibility? id session :: (verdicts id operations session).map some) := by
  induction operations generalizing session with
  | nil => exact List.IsChain.singleton _
  | cons operation operations ih =>
      have hnext := visibility?_perform operation session id
      have hrest := ih ((perform operation).run session).state
      rw [hnext] at hrest
      rw [verdicts_cons]
      cases h : verdict? id operation session with
      | none => simpa [h] using hrest
      | some next =>
          have hbefore := visibility?_of_verdict operation session id h
          simp only [h, Option.some_or] at hrest
          refine List.IsChain.cons_cons ?_ hrest
          rw [hbefore, Option.map_some, Visibility.flipped_flipped]

/-- No verdict is the same as the one before. -/
theorem isChain_ne_verdicts (operations : List Operation)
    (session : Session (Unreliable MemoryDocument) Nat) (id : String) :
    List.IsChain (· ≠ ·) (verdicts id operations session) := by
  have hflips := (isChain_verdicts operations session id).tail
  rw [List.tail_cons, List.isChain_map] at hflips
  refine hflips.imp ?_
  intro first second hflip hsame
  have hsecond : second = first.flipped := Option.some.inj hflip
  exact Visibility.flipped_ne first (hsecond.symm.trans hsame.symm)

/-- The first verdict is hidden if the section was shown, and shown if it was hidden. -/
theorem first_verdict {operations : List Operation}
    {session : Session (Unreliable MemoryDocument) Nat} {id : String} {first : Visibility}
    (h : (verdicts id operations session).head? = some first) :
    visibility? id session = some .visible ∧ first = .hidden ∨
      visibility? id session = some .hidden ∧ first = .visible := by
  obtain ⟨rest, hverdicts⟩ := List.head?_eq_some_iff.mp h
  have hflips := isChain_verdicts operations session id
  rw [hverdicts, List.map_cons, List.isChain_cons_cons] at hflips
  obtain ⟨now, hnow, hflip⟩ := Option.map_eq_some_iff.mp hflips.1.symm
  cases now with
  | visible => exact Or.inl ⟨hnow, hflip.symm⟩
  | hidden => exact Or.inr ⟨hnow, hflip.symm⟩

/-- **The verdicts on a section alternate**, whatever else is done with the page and whatever calls
fail.  At the end of a run, and so at every moment of a longer one, an id leads where it led at the
start; what is seen of its section is the last verdict on it, or what was seen at the start if
there was none; no verdict is the same as the one before; and the first one is not what was seen at
the start.  A section that cannot be found has no verdicts. -/
theorem verdicts_alternate (operations : List Operation)
    (session : Session (Unreliable MemoryDocument) Nat) (id : String) :
    Document.elementById ((run operations).run session).state.document id =
        Document.elementById session.document id ∧
      visibility? id ((run operations).run session).state =
        (verdicts id operations session).getLast?.or (visibility? id session) ∧
      List.IsChain (· ≠ ·) (verdicts id operations session) ∧
      ∀ first, (verdicts id operations session).head? = some first →
        visibility? id session = some .visible ∧ first = .hidden ∨
          visibility? id session = some .hidden ∧ first = .visible :=
  ⟨elementById_run operations session id, visibility?_run operations session id,
    isChain_ne_verdicts operations session id, fun _ => first_verdict⟩

/-- A section, its icon, which is a section of its own and has a trigger, and a document whose second
attempt to add a class fails. -/
def hatch : Session (Unreliable MemoryDocument) Nat where
  document :=
    { document := { nodes :=
        [.ofTag "div" [("id", "hatch")], .ofTag "div" [("id", "hatchImg")],
          .ofTag "a" [("showHide", "hatchImg")]] }
      faults := fun call => if call = .addClass then some ⟨"jammed", 1, some 1⟩ else none }
  page := { config := {} }

/-- The icon is hidden and shown, one attempt to hide it fails and the next one works.  Setting the
page up and hiding the section itself, which gives the icon a source, make no difference to that. -/
theorem verdicts_alternate_hatch :
    let operations := [.toggle "hatchImg", .init, .click 0, .click 0, .toggle "hatch", .click 0]
    verdicts "hatchImg" operations hatch = [.hidden, .visible, .hidden] ∧
      visibility? "hatchImg" hatch = some .visible ∧
      visibility? "hatchImg" ((run operations).run hatch).state = some .hidden := by
  intro operations
  have hverdicts : verdicts "hatchImg" operations hatch = [.hidden, .visible, .hidden] := by
    decide +kernel
  obtain ⟨-, hseen, -, hfirst⟩ := verdicts_alternate operations hatch "hatchImg"
  rw [hverdicts] at hseen hfirst
  have hvisible : visibility? "hatchImg" hatch = some .visible := by
    rcases hfirst .hidden rfl with h | h
    · exact h.1
    · cases h.2
  exact ⟨hverdicts, hvisible, hseen⟩

end Session

end PageBehaviors
