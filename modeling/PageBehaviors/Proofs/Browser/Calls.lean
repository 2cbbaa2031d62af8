import PageBehaviors.Browser.LiveDocument
import PageBehaviors.Proofs.Browser.Markup
import PageBehaviors.Proofs.Browser.Tree

/-!
# The calls of a browser when nothing fails

Without failing calls every call of a page comes down to one change of the tree or one look at it.
In particular the five calls that give a form a hidden input add one finished element.

## Main definitions and statements

* `Browser.LiveDocument.onTree` — a document with its tree changed.
* `Browser.LiveDocument.run_setAttribute`, `Browser.LiveDocument.run_classAdd`,
  `Browser.LiveDocument.run_appendHiddenInput` — calls that change the tree.
* `Browser.LiveDocument.run_querySelectorAll`, `Browser.LiveDocument.run_cookie` — calls that look.
-/

namespace PageBehaviors.Browser.LiveDocument

variable {α β : Type} {document : LiveDocument}

/-- A document with its tree changed. -/
def onTree (f : Tree → Tree) (document : LiveDocument) : LiveDocument :=
  { document with tree := f document.tree }

/-! ### Steps -/

/-- A step and what follows it. -/
theorem run_bind (step : Step α) (next : α → Step β) (document : LiveDocument) :
    (step >>= next).run document =
      match step.run document with
      | (.ok value, rest) => (next value).run rest
      | (.error thrown, rest) => (.error thrown, rest) := by
  simp only [ExceptT.run_bind]
  show StateT.bind _ _ document = _
  rw [StateT.bind]
  cases step.run document with
  | mk result rest =>
      cases result with
      | ok value => rfl
      | error thrown => rfl

/-- What follows a step that does not throw. -/
theorem run_bind_ok {step : Step α} {next : α → Step β} {rest : LiveDocument} {value : α}
    (h : step.run document = (.ok value, rest)) :
    (step >>= next).run document = (next value).run rest := by
  rw [run_bind, h]

theorem guarded_ok {step : Step α} {rest : LiveDocument} {value : α}
    (h : step.run document = (.ok value, rest)) :
    (guarded step).run document = (.ok value, rest) := by
  show (guarded step) document = _
  rw [guarded, h]
  rfl

theorem tokenProblem?_eq_none {name : String} (htoken : Text.IsToken name) :
    Element.tokenProblem? name = none := by
  rw [Element.tokenProblem?, if_neg htoken.1, if_neg (by simp [htoken.2])]

section

variable (reliable : document.faults = .none)

include reliable

theorem run_enter (call : Call) : (enter call).run document = (.ok (), document) := by
  have hfailure : document.faults.failure? call = none := by
    rw [reliable]
    rfl
  rw [run_enter_of_none hfailure, reliable, Faults.next_none, ← reliable]

/-- Without failing calls, a call that changes the tree does so and nothing else. -/
theorem run_enter_change (call : Call) (f : Tree → Tree) :
    (enter call >>= fun _ => change f).run document = (.ok (), document.onTree f) := by
  rw [run_bind_ok (run_enter reliable call)]
  rfl

theorem reliable_onTree (f : Tree → Tree) : (document.onTree f).faults = .none :=
  reliable

theorem run_setAttribute (n : Nat) (name value : String) :
    (setAttribute n name value).run document =
      (.ok (), document.onTree (·.modify n (·.set name value))) :=
  run_enter_change reliable _ _

theorem run_createElement (tag : String) :
    (createElement tag).run document =
      (.ok document.tree.size, document.onTree (·.create (.create tag false))) := by
  rw [createElement, run_bind_ok (run_enter reliable _)]
  rfl

theorem run_appendChild (parent n : Nat) :
    (appendChild parent n).run document = (.ok (), document.onTree (·.attach (some parent) n)) :=
  run_enter_change reliable _ _

theorem run_classAdd (n : Nat) {name : String} (htoken : Text.IsToken name) :
    (classAdd n name).run document = (.ok (), document.onTree (·.modify n (·.addClass name))) := by
  rw [classAdd, run_bind_ok (run_enter reliable _), tokenProblem?_eq_none htoken]
  rfl

theorem run_classRemove (n : Nat) {name : String} (htoken : Text.IsToken name) :
    (classRemove n name).run document =
      (.ok (), document.onTree (·.modify n (·.removeClass name))) := by
  rw [classRemove, run_bind_ok (run_enter reliable _), tokenProblem?_eq_none htoken]
  rfl

theorem run_querySelectorAll {name : String} (hname : Text.isIdentifier name = true) :
    (querySelectorAll name).run document =
      (.ok (document.tree.select fun element => (element.get? name).isSome), document) := by
  rw [querySelectorAll, run_bind_ok (run_enter reliable _), if_pos hname]
  rfl

theorem run_readCookies : readCookies.run document = (.ok document.cookies, document) := by
  rw [readCookies, run_bind_ok (run_enter reliable _)]
  rfl

/-- The five calls add one finished element. -/
theorem run_appendHiddenInput (form : Nat) (name value : String) :
    (appendHiddenInput form name value).run document =
      (.ok (), document.onTree (·.add (some form) (Markup.hiddenInput name value).element)) := by
  have hcreated := reliable_onTree reliable (·.create (.create "input" false))
  have htyped := reliable_onTree hcreated (·.modify document.tree.size (·.set "type" "hidden"))
  have hnamed := reliable_onTree htyped (·.modify document.tree.size (·.set "name" name))
  have hfilled := reliable_onTree hnamed (·.modify document.tree.size (·.set "value" value))
  rw [appendHiddenInput, run_bind_ok (run_createElement reliable _),
    run_bind_ok (run_setAttribute hcreated _ _ _), run_bind_ok (run_setAttribute htyped _ _ _),
    run_bind_ok (run_setAttribute hnamed _ _ _), run_appendChild hfilled]
  simp only [onTree, Tree.modify_create]
  rfl

/-! ### The calls of a page -/

theorem run_attributeOf (n : Nat) (name : String) :
    (Document.attributeOf n name : StateM LiveDocument _).run document =
      (document.tree.elements[n]?.bind fun element => element.get? name, document) := by
  show (Document.attributeOf n name : StateM LiveDocument _) document = _
  simp only [Document.attributeOf, run_enter reliable]

theorem run_cookie (html : document.html = true) :
    (Document.cookie : StateM LiveDocument _).run document = (.ok document.cookies, document) := by
  show (Document.cookie : StateM LiveDocument _) document = _
  simp only [Document.cookie]
  rw [if_pos html]
  exact guarded_ok (run_readCookies reliable)

end

end PageBehaviors.Browser.LiveDocument
