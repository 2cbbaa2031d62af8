import PageBehaviors.Browser.Event
import PageBehaviors.Proofs.Browser.Triggers

/-!
# Starts, and the listeners they leave behind

A start that reaches a document sets a page up and has its triggers listen, as far as the browser
lets it.  Afterwards each listener holds on to the page that added it, and the browser holds on to
the page that was started last.  All of this can be told from the settings of the starts and the
documents they found: which elements listen, and which section each of them was bound to.

## Main definitions and statements

* `Browser.Started` — a start that reached a document; `Started.listening`, `Started.section?` — the
  elements that listen since, and the sections they ask for.
* `Browser.Started.refusals` — the lines about the triggers that could not be made to listen.
* `Browser.run_listenAll`, `Browser.run_attach` — having the triggers listen, and setting a
  page up as a whole.
* `Browser.Tracks` — listeners and page of a browser are those that a list of starts has left.
* `Browser.starts` — the starts of a run; `Browser.Tracks.run` — a browser tracks them.
* `Browser.state_start_of_some`, `Browser.state_start_of_none` — a start that reaches a document,
  and one that reaches none.
-/

namespace PageBehaviors

theorem Action.run_read_bind {σ α β : Type} (view : σ → α) (next : α → Action σ β) (s : σ) :
    (Action.read view >>= next).run s = (next (view s)).run s := rfl

namespace Browser

/-- The line that reports a binding whose trigger could not be made to listen. -/
def refusalLine (binding : Section.Binding Nat) (thrown : Thrown) : Log.Entry :=
  ⟨.warn, "page: cannot bind #" ++ binding.target ++ ": dom error: " ++ thrown.message⟩

/-- The line is worded by the error that the page makes of what was thrown. -/
theorem refusalLine_eq (binding : Section.Binding Nat) (thrown : Thrown) :
    refusalLine binding thrown =
      ⟨.warn, "page: cannot bind #" ++ binding.target ++ ": " ++ thrown.toPageError.message⟩ := by
  have htext := thrown.append_message_toPageError ("page: cannot bind #" ++ binding.target) ": "
  have hcolon : ": " ++ "dom error: " = ": dom error: " := by decide
  rw [hcolon] at htext
  exact congrArg (Log.Entry.mk .warn) htext.symm

/-- A start that reached a document: the settings it took and the document it found. -/
structure Started where
  config : PageConfig
  document : LiveDocument

namespace Started

variable (started : Started)

/-- The triggers that were bound. -/
def bindings : List (Section.Binding Nat) :=
  ((Section.discover started.config.toggle).run started.document).value

/-- The page that was set up. -/
def page : Page Nat where
  config := started.config
  bindings := started.bindings

/-- What the call throws that is to have the trigger of a binding listen, if it throws. -/
def thrown? (index : Nat) : Option Thrown :=
  started.document.faults.failureAfter? .addEventListener index

/-- The bindings whose triggers were made to listen, with their indices. -/
def heard : List (Section.Binding Nat × Nat) :=
  started.document.faults.granted .addEventListener started.bindings.zipIdx

/-- The elements that listen since. -/
def listening : List Nat :=
  started.heard.map fun entry => entry.1.trigger

/-- The section that a click on an element asks for: if the element listens, the one that was named
in its marker at the time of the start. -/
def section? (n : Nat) : Option String :=
  if n ∈ started.listening then started.document.attribute? n started.config.toggle.marker
  else none

/-- The listeners that were added. -/
def listeners : List Listener :=
  started.heard.map fun entry => ⟨entry.1.trigger, "click", started.page, entry.2⟩

/-- The lines that report the triggers that could not be made to listen. -/
def refusals : List Log.Entry :=
  (started.document.faults.refused .addEventListener started.bindings).map fun entry =>
    refusalLine entry.1 entry.2

/-! ### The elements that listen -/

theorem getElem?_bindings_of_heard {entry : Section.Binding Nat × Nat}
    (h : entry ∈ started.heard) : started.bindings[entry.2]? = some entry.1 :=
  List.mem_zipIdx_iff_getElem?.mp ((Faults.granted_sublist _ _ _).subset h)

/-- No element is bound twice. -/
theorem nodup_triggers : (started.bindings.zipIdx.map fun entry => entry.1.trigger).Nodup := by
  have hmap : (started.bindings.zipIdx.map fun entry => entry.1.trigger) =
      started.bindings.map Section.Binding.trigger := by
    rw [← Function.comp_def Section.Binding.trigger Prod.fst, ← List.map_map, List.zipIdx_map_fst]
  rw [hmap]
  exact LiveDocument.nodup_discover _ _

/-- No element was made to listen twice. -/
theorem nodup_listening : started.listening.Nodup :=
  started.nodup_triggers.sublist ((Faults.granted_sublist _ _ _).map _)

theorem attribute?_of_heard {entry : Section.Binding Nat × Nat} (h : entry ∈ started.heard) :
    started.document.attribute? entry.1.trigger started.config.toggle.marker =
      some entry.1.target ∧ entry.1.target ≠ "" :=
  LiveDocument.attribute?_of_mem_discover
    (List.mem_of_getElem? (started.getElem?_bindings_of_heard h))

theorem section?_of_heard {entry : Section.Binding Nat × Nat} (h : entry ∈ started.heard) :
    started.section? entry.1.trigger = some entry.1.target := by
  have hmem : entry.1.trigger ∈ started.listening :=
    List.mem_map_of_mem (f := fun entry => entry.1.trigger) h
  rw [section?, if_pos hmem, (started.attribute?_of_heard h).1]

/-- An element that listens asks for a section. -/
theorem exists_section?_of_listening {n : Nat} (h : n ∈ started.listening) :
    ∃ id, id ≠ "" ∧ started.section? n = some id := by
  obtain ⟨entry, hentry, rfl⟩ := List.mem_map.mp h
  exact ⟨_, (started.attribute?_of_heard hentry).2, started.section?_of_heard hentry⟩

/-- A listener points at a binding of its page. -/
theorem index_lt_of_mem_listeners {listener : Listener} (h : listener ∈ started.listeners) :
    listener.index < listener.page.bindings.length := by
  obtain ⟨entry, hentry, rfl⟩ := List.mem_map.mp h
  exact (List.getElem?_eq_some_iff.mp (started.getElem?_bindings_of_heard hentry)).1

end Started

/-! ### What a start does -/

@[simp] theorem run_onDocument {α : Type} (action : Action LiveDocument α) (browser : Browser) :
    (onDocument action).run browser =
      ⟨(action.run browser.document).value,
        { browser with document := (action.run browser.document).state },
        Log.kept browser.logger (action.run browser.document).entries⟩ := rfl

/-- Asking for a listener: it is granted or refused by the schedule, which is all that changes. -/
theorem run_askToListen (browser : Browser) :
    (onDocument (.call (LiveDocument.enter .addEventListener).run)).run browser =
      ⟨match browser.document.faults.failure? .addEventListener with
        | none => .ok ()
        | some thrown => .error thrown,
        { browser with document := { browser.document with
          faults := browser.document.faults.next .addEventListener } }, []⟩ := by
  have hrun : StateT.run (LiveDocument.enter .addEventListener).run browser.document =
      (match browser.document.faults.failure? .addEventListener with
        | none => .ok ()
        | some thrown => .error thrown,
        { browser.document with faults := browser.document.faults.next .addEventListener }) := by
    show (LiveDocument.enter .addEventListener).run browser.document = _
    cases hfault : browser.document.faults.failure? .addEventListener with
    | none => rw [LiveDocument.run_enter_of_none hfault]
    | some thrown => rw [LiveDocument.run_enter_of_some hfault]
  rw [run_onDocument, Action.run_call, hrun]
  rfl

/-- Having a trigger listen: either it listens from then on, or it is reported. -/
theorem run_listen (page : Page Nat) (index : Nat) (binding : Section.Binding Nat)
    (browser : Browser) :
    (listen page index binding).run browser =
      let asked : Browser :=
        { browser with
          document :=
            { browser.document with faults := browser.document.faults.next .addEventListener } }
      match browser.document.faults.failure? .addEventListener with
      | none =>
        ⟨(), { asked with
          listeners := browser.listeners ++ [⟨binding.trigger, "click", page, index⟩] }, []⟩
      | some thrown => ⟨(), asked, Log.kept browser.logger [refusalLine binding thrown]⟩ := by
  rw [listen, Action.run_bind, run_askToListen]
  cases browser.document.faults.failure? .addEventListener with
  | none => rfl
  | some thrown =>
      simp only [refusalLine_eq]
      rfl

/-- **Having the triggers of several bindings listen**, the first of which has the given index: one
call for each of them, which adds a listener or is reported. -/
theorem run_listenAll (page : Page Nat) (bindings : List (Section.Binding Nat)) (index : Nat)
    (browser : Browser) :
    (listenAll page index bindings).run browser =
      ⟨(), { browser with
          listeners := browser.listeners ++
            (browser.document.faults.granted .addEventListener (bindings.zipIdx index)).map
              fun entry => ⟨entry.1.trigger, "click", page, entry.2⟩
          document := { browser.document with
            faults := browser.document.faults.after .addEventListener bindings.length } },
        Log.kept browser.logger ((browser.document.faults.refused .addEventListener bindings).map
          fun entry => refusalLine entry.1 entry.2)⟩ := by
  induction bindings generalizing index browser with
  | nil =>
      rw [List.zipIdx_nil]
      show _ = Outcome.mk ()
        { browser with listeners := browser.listeners ++ [], document := browser.document } []
      rw [List.append_nil]
      rfl
  | cons binding bindings ih =>
      rw [listenAll, Action.run_bind, run_listen, List.zipIdx_cons, Faults.granted_cons,
        Faults.refused_cons]
      cases browser.document.faults.failure? .addEventListener with
      | none =>
          rw [ih]
          simp [Faults.after]
      | some thrown =>
          rw [ih, ← Log.kept_append]
          rfl

/-- **Setting a page up in a document that can be reached**: the page is that of the start, each of
its triggers listens or is reported, and nothing else happens. -/
theorem run_attach {browser : Browser} (reached : reach browser = .ok ()) (config : PageConfig) :
    let started : Started := ⟨config, browser.document⟩
    let init := (Page.init ⟨config, []⟩).run browser.document
    (attach config).run browser =
      ⟨.ok init.value.2,
        { browser with
          document := { init.state with
            faults := init.state.faults.after .addEventListener started.bindings.length }
          listeners := browser.listeners ++ started.listeners
          page := some started.page },
        Log.kept browser.logger (init.entries ++ started.refusals)⟩ := by
  intro started init
  -- setting the page up makes no such call, so the first binding meets the schedule of the start
  have hfaults : init.state.faults .addEventListener = browser.document.faults .addEventListener :=
    LiveDocument.overlooks_listenerFaults.init _ browser.document
  have hlisten := run_listenAll started.page started.bindings 0
    { browser with document := init.state }
  rw [Faults.granted_congr hfaults, Faults.refused_congr hfaults] at hlisten
  rw [attach, Action.run_read_bind, reached]
  show Outcome.mk (Except.ok init.value.2)
    { ((listenAll started.page 0 started.bindings).run
        { browser with document := init.state }).state with page := some started.page }
    (Log.kept browser.logger init.entries ++ (((listenAll started.page 0 started.bindings).run
      { browser with document := init.state }).entries ++ [])) = _
  rw [hlisten, List.append_nil, Log.kept_append]
  rfl

/-! ### Starts that reach a document, and starts that do not -/

/-- What a start changes before it looks for a document. -/
theorem state_installLogger (level : Log.Level) (browser : Browser) :
    ((installLogger level).run browser).state =
      { browser with logger := some (browser.logger.getD level) } := by
  rw [installLogger, Action.run_read_bind]
  cases h : browser.logger with
  | none => rfl
  | some installed =>
      obtain ⟨_, _, _, _, _, _⟩ := browser
      subst h
      rfl

theorem state_reportConfig (problem : Option PageError) (browser : Browser) :
    ((reportConfig problem).run browser).state = browser := by
  cases problem with
  | none => rfl
  | some error => rfl

/-- A start is told from its text and the browser, if it reaches a document. -/
def started? (text : Option String) (browser : Browser) : Option Started :=
  match reach browser with
  | .ok () => some ⟨(readConfig text).1, browser.document⟩
  | .error _ => none

section

variable {text : Option String} {browser : Browser}

/-- What a start does after the logger is there. -/
theorem state_start (text : Option String) (browser : Browser) :
    ((start text).run browser).state =
      ((attach (readConfig text).1).run
        { browser with
          logger := some (browser.logger.getD (wantedLevel (readConfig text).1)) }).state := by
  rw [start, startWith, Action.state_bind, state_installLogger, Action.state_bind,
    state_reportConfig, Action.state_bind]
  cases ((attach (readConfig text).1).run
      { browser with
        logger := some (browser.logger.getD (wantedLevel (readConfig text).1)) }).value with
  | ok report => rfl
  | error error => rfl

/-- **A start that reaches no document** changes nothing, except that it installs the logger if
there was none. -/
theorem state_start_of_none (h : started? text browser = none) :
    ((start text).run browser).state =
      { browser with
        logger := some (browser.logger.getD (wantedLevel (readConfig text).1)) } := by
  rw [state_start, attach, Action.run_read_bind]
  unfold started? at h
  split at h
  · cases h
  · next error hreach =>
    have hreach' : reach { browser with
        logger := some (browser.logger.getD (wantedLevel (readConfig text).1)) } =
          .error error := hreach
    rw [hreach']
    rfl

/-- What a start does that reaches a document: its listeners are added to those that are there, and
its page takes the place of the one before. -/
theorem state_start_of_some {started : Started} (h : started? text browser = some started) :
    ((start text).run browser).state.listeners = browser.listeners ++ started.listeners ∧
      ((start text).run browser).state.page = some started.page := by
  unfold started? at h
  split at h
  · next hreach =>
    obtain rfl := Option.some.inj h
    have hreach' : reach { browser with
        logger := some (browser.logger.getD (wantedLevel (readConfig text).1)) } = .ok () := hreach
    rw [state_start, run_attach hreach']
    exact ⟨rfl, rfl⟩
  · cases h

end

/-! ### Runs -/

/-- Listeners and page of a browser are those that starts have left, the oldest first. -/
structure Tracks (starts : List Started) (browser : Browser) : Prop where
  listeners : browser.listeners = starts.flatMap Started.listeners
  page : browser.page = starts.getLast?.map Started.page

/-- The start that an event is, if it is one that reaches a document. -/
def Event.started? (browser : Browser) : Event → Option Started
  | .start text => Browser.started? text browser
  | _ => none

/-- The starts of a run that reach a document, the oldest first, each with the document it finds. -/
def starts : List Event → Browser → List Started
  | [], _ => []
  | event :: events, browser =>
    (event.started? browser).toList ++ starts events ((handle event).run browser).state

/-- What only starts change: the listeners and the page. -/
def attachments (browser : Browser) : List Listener × Option (Page Nat) :=
  (browser.listeners, browser.page)

section

open PageBehaviors.Action (Keeps)

theorem keeps_attachments_onDocument {α : Type} (action : Action LiveDocument α) :
    Keeps attachments (discard (onDocument action)) :=
  fun _ => rfl

theorem keeps_attachments_showHide (id : String) : Keeps attachments (showHide id) := by
  refine (Keeps.read _).bind fun page => ?_
  cases page with
  | some page => exact keeps_attachments_onDocument _
  | none =>
      refine (Keeps.read _).bind fun reached => ?_
      cases reached with
      | ok => exact keeps_attachments_onDocument _
      | error error => exact fun _ => rfl

theorem keeps_attachments_runListeners (listeners : List Listener) :
    Keeps attachments (runListeners listeners) := by
  induction listeners with
  | nil => exact Keeps.pure _
  | cons listener listeners ih =>
      refine (keeps_attachments_onDocument _).bind fun _ => ?_
      exact ih.bind fun _ => Keeps.pure _

end

namespace Tracks

variable {prior : List Started} {browser : Browser}

/-- No start more, as long as listeners and page are the same. -/
theorem of_attachments (tracks : Tracks prior browser) {after : Browser}
    (h : attachments after = attachments browser) : Tracks (prior ++ []) after := by
  obtain ⟨hlisteners, hpage⟩ := Prod.mk.inj h
  rw [List.append_nil]
  exact ⟨hlisteners.trans tracks.listeners, hpage.trans tracks.page⟩

/-- One event: a start that reaches a document is one more start, and nothing else is. -/
theorem handle (tracks : Tracks prior browser) (event : Event) :
    Tracks (prior ++ (event.started? browser).toList)
      ((Browser.handle event).run browser).state := by
  cases event with
  | start text =>
      show Tracks (prior ++ (Browser.started? text browser).toList) ((start text).run browser).state
      cases h : Browser.started? text browser with
      | none =>
          rw [state_start_of_none h]
          exact tracks.of_attachments rfl
      | some started =>
          obtain ⟨hlisteners, hpage⟩ := state_start_of_some h
          constructor
          · rw [hlisteners, tracks.listeners]
            simp
          · rw [hpage]
            simp
  | showHide id => exact tracks.of_attachments (keeps_attachments_showHide id browser)
  | dispatch name node =>
      exact tracks.of_attachments (keeps_attachments_runListeners _ browser)
  | edit change => exact tracks.of_attachments rfl
  | surroundings hasWindow hasDocument => exact tracks.of_attachments rfl

/-- **A browser tracks its starts** during a whole run. -/
theorem run (tracks : Tracks prior browser) (events : List Event) :
    Tracks (prior ++ starts events browser) ((Browser.run events).run browser).state := by
  induction events generalizing prior browser with
  | nil =>
      rw [starts, List.append_nil]
      exact tracks
  | cons event events ih =>
      rw [starts, ← List.append_assoc]
      exact ih (tracks.handle event)

end Tracks

end Browser

end PageBehaviors
