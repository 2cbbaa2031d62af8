import PageBehaviors.Browser.Basic

/-!
# What happens in a browser

Between the calls of a page, the document may change by itself and the window may come and go.

## Main definitions

* `Browser.Event` — everything that may happen.
* `Browser.handle`, `Browser.run` — one event; several, one after the other.
-/

namespace PageBehaviors.Browser

/-- What may happen in a browser. -/
inductive Event where
  /-- A page is started with an optional configuration text. -/
  | start (text : Option String)
  /-- The markup asks for a section to be folded or unfolded. -/
  | showHide (id : String)
  /-- An element receives an event. -/
  | dispatch (event : String) (node : Nat)
  /-- Something else changes the document. -/
  | edit (change : LiveDocument → LiveDocument)
  /-- The window or its document comes or goes. -/
  | surroundings (hasWindow hasDocument : Bool)

/-- An event.  The value is the number of listeners that ran. -/
def handle : Event → Action Browser Nat
  | .start text => do
    start text
    pure 0
  | .showHide id => do
    showHide id
    pure 0
  | .dispatch event node => dispatch event node
  | .edit change => do
    .call (modify fun browser => { browser with document := change browser.document })
    pure 0
  | .surroundings hasWindow hasDocument => do
    .call (modify fun browser =>
      { browser with hasWindow := hasWindow, hasDocument := hasDocument })
    pure 0

/-- Several events, one after the other.  The value is the number of listeners that ran for
each. -/
def run : List Event → Action Browser (List Nat)
  | [] => pure []
  | event :: events => do
    let first ← handle event
    let others ← run events
    pure (first :: others)

end PageBehaviors.Browser
