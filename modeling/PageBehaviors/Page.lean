import PageBehaviors.FormToken
import PageBehaviors.Section.Binding

/-!
# Pages

A page has settings and the bindings that were found when it was set up.  Setting it up finds the
bindings first and then gives the token to the forms, so the inputs that this adds are never taken
for triggers.

## Main definitions

* `Page`, `InitReport` — a page; what setting it up did.
* `Page.init`, `Page.click`, `Page.toggle` — setting a page up and using it.
* `Operation`, `Reply` — what can be done with a page, and the answers.
* `Session` — a page together with its document; `Session.perform`, `Session.run`.
-/

namespace PageBehaviors

open Section (Binding Visibility)

/-- A page over a document whose elements are named by `E`. -/
structure Page (E : Type) where
  config : PageConfig
  bindings : List (Binding E) := []
  deriving DecidableEq, Repr

/-- What setting a page up did. -/
structure InitReport where
  /-- The number of bindings found. -/
  bindings : Nat := 0
  /-- The number of forms that got the token. -/
  formsInjected : Nat := 0
  deriving DecidableEq, Repr

namespace InitReport

/-- How a report is shown in the log. -/
def text (report : InitReport) : String :=
  "InitReport \x7b bindings: " ++ toString report.bindings ++ ", forms_injected: " ++
    toString report.formsInjected ++ " \x7d"

end InitReport

namespace Page

variable {D E : Type} [Document D E]

/-- Give the token to the forms, unless that is turned off.  The value is the number of fields
added. -/
def injectToken (page : Page E) : Action D Nat :=
  if page.config.xsrf.enabled then FormToken.inject page.config.xsrf else pure 0

/-- Set a page up: find its bindings, replacing those it had, and give the token to the forms. -/
def init (page : Page E) : Action D (Page E × InitReport) := do
  -- the order matters: an added input has attributes, and one of them may be the marker
  let bindings ← Section.discover page.config.toggle
  let count ← page.injectToken
  let report : InitReport := ⟨bindings.length, count⟩
  .log .info ("page: " ++ toString report.bindings ++ " toggle binding(s), " ++
    toString report.formsInjected ++ " form(s) with token")
  pure ({ page with bindings := bindings }, report)

/-- Flip the visibility of the section with an id. -/
def toggle (page : Page E) (id : String) : Action D (Option Visibility) :=
  Section.toggle page.config.toggle id

/-- Click on the trigger of the binding at an index. -/
def click (page : Page E) (index : Nat) : Action D (Option Visibility) :=
  match page.bindings[index]? with
  | none => pure none
  | some binding => page.toggle binding.target

end Page

/-- What can be done with a page. -/
inductive Operation where
  /-- Set the page up. -/
  | init
  /-- Name the page's bindings. -/
  | bindings
  /-- Click on the trigger of the binding at an index. -/
  | click (index : Nat)
  /-- Flip the visibility of the section with an id. -/
  | toggle (id : String)
  /-- Tell the visibility of the section with an id. -/
  | visibility (id : String)
  /-- Find the bindings anew; the page keeps its own. -/
  | discover
  /-- Give the token to the forms, also if the page has that turned off. -/
  | inject
  deriving DecidableEq, Repr

/-- The answers of a page. -/
inductive Reply (E : Type) where
  | report (report : InitReport)
  | bindings (bindings : List (Binding E))
  | visibility (visibility : Option Visibility)
  | count (count : Nat)
  deriving DecidableEq, Repr

/-- A page together with its document. -/
structure Session (D E : Type) where
  document : D
  page : Page E
  deriving DecidableEq

namespace Session

variable {D E α : Type} [Document D E]

/-- Run a step of the document. -/
def onDocument (action : Action D α) : Action (Session D E) α :=
  .within Session.document (fun document session => { session with document := document }) action

/-- Do something with a page. -/
def perform (operation : Operation) : Action (Session D E) (Reply E) := do
  let page ← .read Session.page
  match operation with
  | .init =>
    let (page, report) ← onDocument page.init
    .call (modify fun session => { session with page := page })
    pure (.report report)
  | .bindings => pure (.bindings page.bindings)
  | .click index => do
    let visibility ← onDocument (page.click index)
    pure (.visibility visibility)
  | .toggle id => do
    let visibility ← onDocument (page.toggle id)
    pure (.visibility visibility)
  | .visibility id => do
    let visibility ← .read fun session : Session D E =>
      Section.visibility? page.config.toggle id session.document
    pure (.visibility visibility)
  | .discover => do
    let bindings ← onDocument (Section.discover page.config.toggle)
    pure (.bindings bindings)
  | .inject => do
    let count ← onDocument (FormToken.inject page.config.xsrf)
    pure (.count count)

/-- Do several things with a page, one after the other. -/
def run : List Operation → Action (Session D E) (List (Reply E))
  | [] => pure []
  | operation :: operations => do
    let first ← perform operation
    let others ← run operations
    pure (first :: others)

end Session

end PageBehaviors
