import PageBehaviors.Browser.Tree
import PageBehaviors.Document.Basic
import PageBehaviors.Document.Faults

/-!
# The document of a browser

The calls of a page are made of the browser's own calls, any of which may throw.  A hidden input is
built outside the document and attached last, so an input that could not be finished is never seen.

## Main definitions

* `Browser.Call` — the browser's calls.
* `Browser.LiveDocument` — a tree with its cookies and the schedules of failing calls.
* the instance of `Document` — the calls of a page.
-/

namespace PageBehaviors.Browser

/-- The browser's calls that may throw. -/
inductive Call where
  | querySelectorAll
  | getAttribute
  | setAttribute
  | classAdd
  | classRemove
  | createElement
  | appendChild
  | cookie
  | addEventListener
  deriving DecidableEq, Repr

/-- The document of a browser. -/
structure LiveDocument where
  tree : Tree := {}
  /-- The cookie line. -/
  cookies : String := ""
  /-- Whether the document is one of HTML; only those have cookies. -/
  html : Bool := true
  faults : Faults Call Thrown := .none

namespace LiveDocument

/-- A step that may throw. -/
abbrev Step (α : Type) : Type :=
  ExceptT Thrown (StateM LiveDocument) α

variable {α : Type}

/-- Count a call: it throws if it is to fail. -/
def enter (call : Call) : Step Unit := fun document =>
  let rest := { document with faults := document.faults.next call }
  match document.faults.failure? call with
  | some thrown => (.error thrown, rest)
  | none => (.ok (), rest)

theorem run_enter_of_some {call : Call} {document : LiveDocument} {thrown : Thrown}
    (h : document.faults.failure? call = some thrown) :
    (enter call).run document =
      (.error thrown, { document with faults := document.faults.next call }) := by
  simp [enter, ExceptT.run, h]

theorem run_enter_of_none {call : Call} {document : LiveDocument}
    (h : document.faults.failure? call = none) :
    (enter call).run document =
      (.ok (), { document with faults := document.faults.next call }) := by
  simp [enter, ExceptT.run, h]

/-- Throw a value, if there is one to be thrown. -/
def refuse : Option Thrown → Step Unit
  | some thrown => throw thrown
  | none => pure ()

/-- Change the tree. -/
def change (f : Tree → Tree) : Step Unit := fun document =>
  (.ok (), { document with tree := f document.tree })

/-- Find all elements that hold an attribute. -/
def querySelectorAll (name : String) : Step (List Nat) := do
  enter .querySelectorAll
  refuse <|
    if Text.isIdentifier name then none
    else some (.error "SyntaxError" ("'[" ++ name ++ "]' is not a valid selector"))
  let document ← get
  pure (document.tree.select fun element => (element.get? name).isSome)

/-- Write an attribute. -/
def setAttribute (n : Nat) (name value : String) : Step Unit := do
  enter .setAttribute
  change (·.modify n (·.set name value))

/-- Give an element a class. -/
def classAdd (n : Nat) (name : String) : Step Unit := do
  enter .classAdd
  refuse (Element.tokenProblem? name)
  change (·.modify n (·.addClass name))

/-- Take a class from an element. -/
def classRemove (n : Nat) (name : String) : Step Unit := do
  enter .classRemove
  refuse (Element.tokenProblem? name)
  change (·.modify n (·.removeClass name))

/-- Create an element of HTML outside the document.  The value is its number. -/
def createElement (tag : String) : Step Nat := do
  enter .createElement
  let document ← get
  change (·.create (.create tag false))
  pure document.tree.size

/-- Attach an element as the last child of another. -/
def appendChild (parent n : Nat) : Step Unit := do
  enter .appendChild
  change (·.attach (some parent) n)

/-- Give a form a hidden input as its last child. -/
def appendHiddenInput (form : Nat) (name value : String) : Step Unit := do
  let input ← createElement "input"
  setAttribute input "type" "hidden"
  setAttribute input "name" name
  setAttribute input "value" value
  appendChild form input

/-- Read the cookie line. -/
def readCookies : Step String := do
  enter .cookie
  let document ← get
  pure document.cookies

/-- A step as a call of a page: a thrown value becomes an error. -/
def guarded (step : Step α) : StateM LiveDocument (Except PageError α) := fun document =>
  let result := step.run document
  (result.1.mapError Thrown.toPageError, result.2)

instance : Document LiveDocument Nat where
  elementById document id :=
    -- an empty id names nothing, even where an element has it
    if id = "" then none
    else document.tree.first? fun element => element.get? "id" == some id
  hasClass document n name :=
    document.tree.satisfies (fun element => decide (name ∈ element.classes)) n
  forms document := document.tree.select Element.isForm
  elementsWithAttribute name := guarded (querySelectorAll name)
  attributeOf n name := fun document =>
    let result := (enter .getAttribute).run document
    match result.1 with
    | .ok () => (document.tree.elements[n]?.bind fun element => element.get? name, result.2)
    | .error _ => (none, result.2)
  setAttribute n name value := guarded (setAttribute n name value)
  addClass n name := guarded (classAdd n name)
  removeClass n name := guarded (classRemove n name)
  formMethod n := fun document =>
    (document.tree.elements[n]?.bind Element.method?, document)
  appendHiddenInput n name value := guarded (appendHiddenInput n name value)
  cookie := fun document =>
    if document.html then
      guarded readCookies document
    else
      (.error (.document "document is not an HTML document"), document)

end LiveDocument

end PageBehaviors.Browser
