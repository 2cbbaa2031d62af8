import PageBehaviors.Proofs.Browser.Calls

/-!
# A hidden input while calls fail

Giving a form a hidden input takes five calls of the browser, and any of them may throw.  The input
is outside the document until the last one, so whichever call fails, the document has the finished
input or nothing of it.

## Main definitions and statements

* `Faults.meet` — calls that are made one after the other until one of them fails.
* `Browser.Attempt`, `Browser.LiveDocument.attempt` — how giving a form an input ends, told by the
  schedules.
* `Browser.Attempt.Leaves` — the tree afterwards.
* `Browser.LiveDocument.Completes` — what is left to be done for an input outside the document.
* `Browser.LiveDocument.run_appendHiddenInput_leaves` — the five calls, whatever fails.
-/

namespace PageBehaviors

/-! ### Calls until one fails -/

namespace Faults

variable {κ ε : Type} [DecidableEq κ] {faults : Faults κ ε} {call : κ} {failure : ε}

/-- Make calls one after the other until one of them fails: its failure, if there is one, and the
schedules afterwards. -/
def meet (faults : Faults κ ε) : List κ → Option ε × Faults κ ε
  | [] => (Option.none, faults)
  | call :: calls =>
    match faults.failure? call with
    | some failure => (some failure, faults.next call)
    | Option.none => (faults.next call).meet calls

theorem meet_cons_of_some (h : faults.failure? call = some failure) (calls : List κ) :
    faults.meet (call :: calls) = (some failure, faults.next call) := by
  rw [meet, h]

theorem meet_cons_of_none (h : faults.failure? call = Option.none) (calls : List κ) :
    faults.meet (call :: calls) = (faults.next call).meet calls := by
  rw [meet, h]

end Faults

namespace Browser

/-! ### Attempts -/

/-- How giving a form a hidden input ended. -/
inductive Attempt where
  /-- The input was finished and attached. -/
  | added (input : Nat)
  /-- A call failed.  An input that had been created by then was left outside the document. -/
  | failed (left : Option Nat) (thrown : Thrown)
  deriving DecidableEq

namespace Attempt

/-- The input that is in the document now, if there is one. -/
def input? : Attempt → Option Nat
  | added input => some input
  | failed _ _ => none

/-- The input that was created, in the document or not. -/
def created? : Attempt → Option Nat
  | added input => some input
  | failed left _ => left

/-- What the caller is told. -/
def result : Attempt → Except Thrown Unit
  | added _ => .ok ()
  | failed _ thrown => .error thrown

/-- The tree after an attempt.  An input that was left outside the document may have been given some
of its attributes. -/
inductive Leaves (form : Nat) (finished : Element) (before : Tree) : Attempt → Tree → Prop
  /-- The finished input is the last child of the form. -/
  | added : Leaves form finished before (.added before.size) (before.add (some form) finished)
  /-- The input could not be created. -/
  | refused (thrown : Thrown) : Leaves form finished before (.failed none thrown) before
  /-- The input was created but could not be finished or attached. -/
  | left (thrown : Thrown) (unfinished : Element) :
      Leaves form finished before (.failed (some before.size) thrown) (before.create unfinished)

end Attempt

namespace LiveDocument

/-- The calls that give a form a hidden input. -/
def fieldCalls : List Call :=
  [.createElement, .setAttribute, .setAttribute, .setAttribute, .appendChild]

/-- How giving a form a hidden input ends in a tree of a given size. -/
def attempt (faults : Faults Call Thrown) (size : Nat) : Attempt :=
  match (faults.meet fieldCalls).1 with
  | none => .added size
  | some thrown => .failed (if faults.failure? .createElement = none then some size else none) thrown

/-! ### The calls after the first -/

/-- Steps that have calls left to make for an input outside the document: they finish it and attach
it to a form, or one of the calls fails and it stays outside. -/
def Completes (form : Nat) (calls : List Call) (finish : Element → Element)
    (steps : Nat → Step Unit) : Prop :=
  ∀ (tree : Tree) (element : Element) (document : LiveDocument),
    document.tree = tree.create element →
    (∃ rest, document.faults.meet calls = (none, rest) ∧
      (steps tree.size).run document =
        (.ok (), { document with tree := tree.add (some form) (finish element), faults := rest })) ∨
    ∃ thrown rest unfinished, document.faults.meet calls = (some thrown, rest) ∧
      (steps tree.size).run document =
        (.error thrown, { document with tree := tree.create unfinished, faults := rest })

/-- The last call attaches the input. -/
theorem completes_appendChild (form : Nat) :
    Completes form [.appendChild] id fun input => appendChild form input := by
  intro tree element document htree
  have hrun : (appendChild form tree.size).run document =
      ((enter .appendChild) >>= fun _ => change (·.attach (some form) tree.size)).run document := rfl
  rw [hrun, run_bind]
  cases hfault : document.faults.failure? .appendChild with
  | none =>
      refine Or.inl ⟨_, Faults.meet_cons_of_none hfault [], ?_⟩
      rw [run_enter_of_none hfault]
      show (Except.ok (), { document with
        tree := document.tree.attach (some form) tree.size
        faults := document.faults.next .appendChild }) = _
      rw [htree]
      rfl
  | some thrown =>
      refine Or.inr ⟨thrown, _, element, Faults.meet_cons_of_some hfault [], ?_⟩
      rw [run_enter_of_some hfault, ← htree]

/-- Every call before it writes an attribute. -/
theorem Completes.setAttribute {form : Nat} {calls : List Call} {finish : Element → Element}
    {steps : Nat → Step Unit} (h : Completes form calls finish steps) (name value : String) :
    Completes form (.setAttribute :: calls) (fun element => finish (element.set name value))
      fun input => setAttribute input name value >>= fun _ => steps input := by
  intro tree element document htree
  have hrun : (LiveDocument.setAttribute tree.size name value).run document =
      ((enter .setAttribute) >>= fun _ =>
        change (·.modify tree.size (·.set name value))).run document := rfl
  simp only [run_bind, hrun]
  cases hfault : document.faults.failure? .setAttribute with
  | none =>
      rw [run_enter_of_none hfault, Faults.meet_cons_of_none hfault]
      apply h tree (element.set name value)
        { document with
          tree := document.tree.modify tree.size (·.set name value)
          faults := document.faults.next .setAttribute }
      rw [htree]
      exact tree.modify_create element (·.set name value)
  | some thrown =>
      refine Or.inr ⟨thrown, _, element, Faults.meet_cons_of_some hfault calls, ?_⟩
      rw [run_enter_of_some hfault, ← htree]

/-! ### All five calls -/

/-- **Giving a form a hidden input, whatever fails**: the schedules tell how that ends, and the tree
has the finished input or nothing of it. -/
theorem run_appendHiddenInput_leaves (form : Nat) (name value : String)
    (document : LiveDocument) :
    ∃ after, (appendHiddenInput form name value).run document =
        ((attempt document.faults document.tree.size).result,
          { document with tree := after, faults := (document.faults.meet fieldCalls).2 }) ∧
      (attempt document.faults document.tree.size).Leaves form
        (Markup.hiddenInput name value).element document.tree after := by
  have hcompletes := (((completes_appendChild form).setAttribute "value" value).setAttribute "name"
    name).setAttribute "type" "hidden"
  rw [appendHiddenInput, createElement, run_bind, run_bind, attempt]
  cases hfault : document.faults.failure? .createElement with
  | some thrown =>
      rw [run_enter_of_some hfault, fieldCalls, Faults.meet_cons_of_some hfault]
      exact ⟨document.tree, rfl, .refused thrown⟩
  | none =>
      rw [run_enter_of_none hfault, fieldCalls, Faults.meet_cons_of_none hfault]
      rcases hcompletes document.tree (.create "input" false)
          { document with
            tree := document.tree.create (.create "input" false)
            faults := document.faults.next .createElement } rfl with
        ⟨rest, hmeet, hrun⟩ | ⟨thrown, rest, unfinished, hmeet, hrun⟩
      · rw [hmeet]
        exact ⟨_, hrun, .added⟩
      · rw [hmeet]
        exact ⟨_, hrun, .left thrown unfinished⟩

end LiveDocument

end Browser

end PageBehaviors
