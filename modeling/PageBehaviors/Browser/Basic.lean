import PageBehaviors.Browser.LiveDocument
import PageBehaviors.Config.Json
import PageBehaviors.Page

/-!
# Pages in a browser

A browser shows a document, runs the listeners of its elements and keeps the log.  Starting a page
reads its configuration, sets the page up and has every trigger listen for clicks; a text that is
no configuration is reported, and the page starts with the defaults.  Sections can also be folded
by a call from the document's own markup, which works on the page started last.

Each listener keeps the page that added it.  When a page is started again, the older listeners
stay, each with its own page's settings and bindings.

## Main definitions

* `Browser` — the state; `Browser.Listener` — a listener for clicks.
* `Browser.start`, `Browser.showHide`, `Browser.dispatch` — what happens in a browser.
-/

namespace PageBehaviors

namespace Browser

/-- A listener: when its element receives the event, the page handles a click on the trigger of the
binding at the index. -/
structure Listener where
  node : Nat
  event : String
  page : Page Nat
  index : Nat
  deriving DecidableEq, Repr

end Browser

/-- A browser. -/
structure Browser where
  /-- Whether there is a window. -/
  hasWindow : Bool := true
  /-- Whether the window has a document. -/
  hasDocument : Bool := true
  document : Browser.LiveDocument := {}
  /-- The listeners, in the order in which they were added. -/
  listeners : List Browser.Listener := []
  /-- The page started last. -/
  page : Option (Page Nat) := none
  /-- The level from which on lines are kept; none as long as there is no logger. -/
  logger : Option Log.Level := none

namespace Browser

variable {α : Type}

/-- Whether the document can be reached. -/
def reach (browser : Browser) : Except PageError Unit :=
  if !browser.hasWindow then .error .missingWindow
  else if !browser.hasDocument then .error .missingDocument
  else .ok ()

/-- Write a line, which the logger keeps or drops. -/
def log (level : Log.Level) (text : String) : Action Browser Unit := fun browser =>
  ⟨(), browser, Log.kept browser.logger [⟨level, text⟩]⟩

/-- Run a step of the document; the logger keeps or drops the lines it writes. -/
def onDocument (action : Action LiveDocument α) : Action Browser α := fun browser =>
  let outcome := action.run browser.document
  ⟨outcome.value, { browser with document := outcome.state },
    Log.kept browser.logger outcome.entries⟩

/-! ### Starting a page -/

/-- The settings that a text gives, and the error if it gives none. -/
def readConfig : Option String → PageConfig × Option PageError
  | none => ({}, none)
  | some text =>
    match PageConfig.ofJson text with
    | .ok config => (config, none)
    | .error error => ({}, some error)

/-- The level that a configuration asks the logger for. -/
def wantedLevel (config : PageConfig) : Log.Level :=
  match config.level with
  | .ok level => level
  | .error _ => .info

/-- Install the logger, unless there is one already. -/
def installLogger (level : Log.Level) : Action Browser Unit := do
  match ← .read Browser.logger with
  | none => .call (modify fun browser => { browser with logger := some level })
  | some _ => log .debug "page: console logger already installed"

/-- Have the trigger of a binding listen for clicks. -/
def listen (page : Page Nat) (index : Nat) (binding : Section.Binding Nat) :
    Action Browser Unit := do
  match ← onDocument (.call (LiveDocument.enter .addEventListener).run) with
  | .ok () =>
    .call (modify fun browser =>
      { browser with listeners := browser.listeners ++ [⟨binding.trigger, "click", page, index⟩] })
  | .error thrown =>
    log .warn ("page: cannot bind #" ++ binding.target ++ ": " ++ thrown.toPageError.message)

/-- Have the triggers of several bindings listen, the first of which has the given index. -/
def listenAll (page : Page Nat) : (index : Nat) → List (Section.Binding Nat) → Action Browser Unit
  | _, [] => pure ()
  | index, binding :: bindings => do
    listen page index binding
    listenAll page (index + 1) bindings

/-- Set a page up and have its triggers listen. -/
def attach (config : PageConfig) : Action Browser (Except PageError InitReport) := do
  match ← .read reach with
  | .error error => pure (.error error)
  | .ok () =>
    let (page, report) ← onDocument (Page.init ⟨config, []⟩)
    listenAll page 0 page.bindings
    .call (modify fun browser => { browser with page := some page })
    pure (.ok report)

/-- Report an error in the settings, if there is one. -/
def reportConfig : Option PageError → Action Browser Unit
  | none => pure ()
  | some error => log .warn ("page: " ++ error.message ++ "; using default config")

/-- Start a page with settings, after reporting an error in them. -/
def startWith (config : PageConfig) (problem : Option PageError) : Action Browser Unit := do
  -- first the logger, so that the report of a bad text can be kept
  installLogger (wantedLevel config)
  reportConfig problem
  match ← attach config with
  | .ok report => log .debug ("page: started (" ++ report.text ++ ")")
  | .error error => log .warn ("page: not started: " ++ error.message)

/-- Start a page with an optional configuration text. -/
def start (text : Option String) : Action Browser Unit :=
  startWith (readConfig text).1 (readConfig text).2

/-! ### Using a page -/

/-- Fold or unfold a section from the markup: with the page started last, or with the defaults if
none was started. -/
def showHide (id : String) : Action Browser Unit := do
  match ← .read Browser.page with
  | some page => discard (onDocument (page.toggle id))
  | none =>
    match ← .read reach with
    | .ok () => discard (onDocument (Section.toggle {} id))
    | .error error => log .warn ("showHide: " ++ error.message)

/-- Run listeners one after the other.  The value is their number. -/
def runListeners : List Listener → Action Browser Nat
  | [] => pure 0
  | listener :: listeners => do
    discard (onDocument (listener.page.click listener.index))
    let others ← runListeners listeners
    pure (others + 1)

/-- Send an event to an element.  The value is the number of listeners that ran. -/
def dispatch (event : String) (node : Nat) : Action Browser Nat := do
  let listeners ← .read Browser.listeners
  runListeners (listeners.filter fun listener => listener.node == node && listener.event == event)

end Browser

end PageBehaviors
