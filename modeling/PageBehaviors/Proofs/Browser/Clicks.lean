import PageBehaviors.Proofs.Browser.Starts

/-!
# Clicks, and calls from the markup, are toggles

Once a page has been started, a browser does nothing to its document but flip sections.  A click
flips one section for each start that had the clicked element listen, with the settings of that
start and the id that it found in the marker; a call from the markup flips one section with the
settings of the last start.  Which listener holds on to which page, and at which index, is not seen
any more.

## Main definitions and statements

* `Browser.toggleAll` — several toggles, each with its own settings.
* `Browser.requests` — the toggles that a click on an element asks for.
* `Browser.Tracks.run_dispatch_click`, `Browser.Tracks.run_showHide` — clicks and calls in a browser
  that tracks its starts.
* `Browser.uses_are_toggles` — all of it, during any run.
-/

namespace PageBehaviors.Browser

/-- Flip several sections one after the other, each with its own settings. -/
def toggleAll : List (ToggleConfig × String) → Action LiveDocument Unit
  | [] => pure ()
  | (config, id) :: others => do
    discard (Section.toggle config id)
    toggleAll others

/-- The toggles that a click on an element asks for: one for each start that had it listen. -/
def requests (starts : List Started) (node : Nat) : List (ToggleConfig × String) :=
  starts.filterMap fun started =>
    (started.section? node).map fun id => (started.config.toggle, id)

/-- The toggle that a listener asks for. -/
def Listener.request? (listener : Listener) : Option (ToggleConfig × String) :=
  listener.page.bindings[listener.index]?.map fun binding =>
    (listener.page.config.toggle, binding.target)

/-! ### Steps of the document, seen from the browser -/

@[simp] theorem run_discard {σ α : Type} (action : Action σ α) (s : σ) :
    (discard action).run s = ⟨(), (action.run s).state, (action.run s).entries⟩ := rfl

/-- Two steps of the document are kept by the logger as one. -/
theorem onDocument_bind {α β : Type} (action : Action LiveDocument α)
    (next : α → Action LiveDocument β) :
    onDocument (action >>= next) = onDocument action >>= fun value => onDocument (next value) := by
  ext browser
  simp only [run_onDocument, Action.run_bind, Log.kept_append]

theorem discard_onDocument {α : Type} (action : Action LiveDocument α) :
    discard (onDocument action) = onDocument (discard action) := rfl

/-- A single toggle. -/
theorem toggleAll_singleton (config : ToggleConfig) (id : String) :
    toggleAll [(config, id)] = discard (Section.toggle config id) := by
  ext document
  simp only [toggleAll, Action.run_bind, Action.run_pure, List.append_nil, run_discard]

/-! ### Listeners -/

/-- A listener does the toggle that it asks for, if any. -/
theorem onDocument_click (listener : Listener) :
    discard (onDocument (listener.page.click listener.index)) =
      onDocument (toggleAll listener.request?.toList) := by
  rw [Page.click, Listener.request?]
  cases listener.page.bindings[listener.index]? with
  | none => rfl
  | some binding =>
      rw [Option.map_some, Option.toList_some, toggleAll_singleton, discard_onDocument]
      rfl

theorem toggleAll_append (first second : List (ToggleConfig × String)) :
    toggleAll (first ++ second) = toggleAll first >>= fun _ => toggleAll second := by
  induction first with
  | nil => rfl
  | cons request first ih =>
      rw [List.cons_append, toggleAll, toggleAll, ih]
      simp only [bind_assoc]

/-- **Listeners do the toggles that they ask for**, one after the other, and nothing else. -/
theorem runListeners_eq (listeners : List Listener) :
    runListeners listeners =
      onDocument (toggleAll (listeners.filterMap Listener.request?)) >>= fun _ =>
        pure listeners.length := by
  induction listeners with
  | nil => rfl
  | cons listener listeners ih =>
      have hrequests : (listener :: listeners).filterMap Listener.request? =
          listener.request?.toList ++ listeners.filterMap Listener.request? := by
        cases h : listener.request? <;> simp [h]
      rw [runListeners, onDocument_click, ih, hrequests, toggleAll_append, onDocument_bind]
      simp only [bind_assoc, pure_bind, List.length_cons]

/-! ### The listeners of one element -/

/-- If no two entries of a list have the same key, a key selects at most one. -/
theorem filter_key_eq {α β : Type} [BEq β] [LawfulBEq β] (key : α → β) {entries : List α}
    (nodup : (entries.map key).Nodup) (b : β) :
    entries.filter (fun entry => key entry == b) =
      (entries.find? fun entry => key entry == b).toList := by
  induction entries with
  | nil => rfl
  | cons entry entries ih =>
      obtain ⟨hnotMem, hnodup⟩ := List.nodup_cons.mp nodup
      cases h : key entry == b with
      | true =>
          have hnone : entries.filter (fun other => key other == b) = [] := by
            refine List.filter_eq_nil_iff.mpr fun other hother heq => hnotMem ?_
            rw [eq_of_beq h, ← eq_of_beq heq]
            exact List.mem_map_of_mem hother
          simp only [List.filter_cons, List.find?_cons, h, hnone]
          rfl
      | false =>
          simp only [List.filter_cons, List.find?_cons, h, ih hnodup]
          rfl

/-- The listeners that a click on an element runs. -/
def clickListeners (node : Nat) (listeners : List Listener) : List Listener :=
  listeners.filter fun listener => listener.node == node && listener.event == "click"

theorem clickListeners_append (node : Nat) (first second : List Listener) :
    clickListeners node (first ++ second) =
      clickListeners node first ++ clickListeners node second :=
  List.filter_append ..

namespace Started

variable (started : Started) (node : Nat)

theorem clickListeners_listeners :
    clickListeners node started.listeners =
      (started.heard.find? fun entry => entry.1.trigger == node).toList.map fun entry =>
        ⟨entry.1.trigger, "click", started.page, entry.2⟩ := by
  have hnodup : (started.heard.map fun entry => entry.1.trigger).Nodup := started.nodup_listening
  -- no element listens twice for one start, so at most one listener is left
  rw [← filter_key_eq _ hnodup, clickListeners, listeners, List.filter_map]
  congr 1
  refine List.filter_congr fun entry _ => ?_
  simp

/-- Of the listeners of a start, a click on an element runs at most one, and that one asks for the
section that the element was bound to. -/
theorem requests_listeners :
    (clickListeners node started.listeners).length = (requests [started] node).length ∧
      (clickListeners node started.listeners).filterMap Listener.request? =
        requests [started] node := by
  rw [clickListeners_listeners]
  cases h : started.heard.find? fun entry => entry.1.trigger == node with
  | none =>
      have hnotMem : node ∉ started.listening := by
        intro hmem
        obtain ⟨entry, hentry, htrigger⟩ := List.mem_map.mp hmem
        exact List.find?_eq_none.mp h entry hentry (by simpa using htrigger)
      have hsection : started.section? node = none := if_neg hnotMem
      simp [requests, hsection]
  | some entry =>
      have hentry := List.mem_of_find?_eq_some h
      obtain rfl : entry.1.trigger = node := by simpa using List.find?_some h
      have hrequest : (⟨entry.1.trigger, "click", started.page, entry.2⟩ : Listener).request? =
          some (started.config.toggle, entry.1.target) := by
        have hbinding := started.getElem?_bindings_of_heard hentry
        simp [Listener.request?, page, hbinding]
      simp [requests, started.section?_of_heard hentry, hrequest]

end Started

theorem requests_append (first second : List Started) (node : Nat) :
    requests (first ++ second) node = requests first node ++ requests second node :=
  List.filterMap_append ..

/-- The listeners that several starts have left for one element ask for the sections that the
element was bound to, in the order of the starts. -/
theorem requests_flatMap_listeners (starts : List Started) (node : Nat) :
    (clickListeners node (starts.flatMap Started.listeners)).length =
        (requests starts node).length ∧
      (clickListeners node (starts.flatMap Started.listeners)).filterMap Listener.request? =
        requests starts node := by
  induction starts with
  | nil => exact ⟨rfl, rfl⟩
  | cons started starts ih =>
      obtain ⟨hlength, hrequests⟩ := started.requests_listeners node
      obtain ⟨hlength', hrequests'⟩ := ih
      have hsplit := requests_append [started] starts node
      rw [List.singleton_append] at hsplit
      rw [List.flatMap_cons, clickListeners_append, hsplit]
      constructor
      · rw [List.length_append, List.length_append, hlength, hlength']
      · rw [List.filterMap_append, hrequests, hrequests']

/-! ### Browsers that track their starts -/

namespace Tracks

variable {starts : List Started} {browser : Browser}

/-- **A click does one toggle for each start that had the element listen**, in the order of the
starts. -/
theorem run_dispatch_click (tracks : Tracks starts browser) (node : Nat) :
    (dispatch "click" node).run browser =
      (onDocument (toggleAll (requests starts node)) >>= fun _ =>
        pure (requests starts node).length).run browser := by
  obtain ⟨hlength, hrequests⟩ := requests_flatMap_listeners starts node
  rw [← tracks.listeners] at hlength hrequests
  rw [dispatch, Action.run_read_bind]
  show (runListeners (clickListeners node browser.listeners)).run browser = _
  rw [runListeners_eq, hlength, hrequests]

/-- Other events do nothing. -/
theorem run_dispatch_of_ne (tracks : Tracks starts browser) {event : String}
    (h : event ≠ "click") (node : Nat) :
    (dispatch event node).run browser = ⟨0, browser, []⟩ := by
  have hnone : browser.listeners.filter (fun listener =>
      listener.node == node && listener.event == event) = [] := by
    refine List.filter_eq_nil_iff.mpr fun listener hlistener => ?_
    rw [tracks.listeners] at hlistener
    obtain ⟨started, -, hmem⟩ := List.mem_flatMap.mp hlistener
    obtain ⟨entry, -, rfl⟩ := List.mem_map.mp hmem
    simp [Ne.symm h]
  rw [dispatch, Action.run_read_bind, hnone]
  rfl

/-- Listeners point at bindings of their pages. -/
theorem index_lt (tracks : Tracks starts browser) {listener : Listener}
    (h : listener ∈ browser.listeners) : listener.index < listener.page.bindings.length := by
  rw [tracks.listeners] at h
  obtain ⟨started, -, hmem⟩ := List.mem_flatMap.mp h
  exact started.index_lt_of_mem_listeners hmem

/-- **A call from the markup does one toggle**, with the settings of the last start. -/
theorem run_showHide (tracks : Tracks starts browser) (id : String) :
    (showHide id).run browser =
      match starts.getLast?, reach browser with
      | some last, _ => (onDocument (toggleAll [(last.config.toggle, id)])).run browser
      | none, .ok () => (onDocument (toggleAll [({}, id)])).run browser
      | none, .error error => (log .warn ("showHide: " ++ error.message)).run browser := by
  rw [showHide, Action.run_read_bind, tracks.page]
  simp only [toggleAll_singleton, ← discard_onDocument]
  cases starts.getLast? with
  | some last => rfl
  | none =>
      show (Action.read reach >>= _).run browser = _
      rw [Action.run_read_bind]
      cases reach browser with
      | ok => rfl
      | error error => rfl

end Tracks

/-! ### Whole runs -/

/-- **What a browser does to its document are toggles**, during any run from a browser in which
nothing has happened yet: pages are started in any way, elements are clicked, sections are folded
from the markup, calls fail, and the document is changed from outside.  At every moment:

* a click on an element does one toggle for each start that had the element listen, in the order
  of the starts, with the settings of that start and the id that stood in the marker at the time
  of the start; the sections are looked up in the document as it is at the click;
* each element that a start had listen asks for a section, other events do nothing, and no
  listener points outside the bindings of its page;
* a call from the markup does one toggle with the settings of the last start, or with the defaults
  if no start has reached a document yet and there is one now;
* a start that reaches no document leaves document, listeners and page as they are. -/
theorem uses_are_toggles (hasWindow hasDocument : Bool) (document : LiveDocument)
    (events : List Event) :
    let browser : Browser :=
      { hasWindow := hasWindow, hasDocument := hasDocument, document := document }
    let now := ((run events).run browser).state
    (∀ node, (dispatch "click" node).run now =
      (onDocument (toggleAll (requests (starts events browser) node)) >>= fun _ =>
        pure (requests (starts events browser) node).length).run now) ∧
    (∀ started ∈ starts events browser, started.listening.Nodup ∧
      ∀ node ∈ started.listening, ∃ id, id ≠ "" ∧ started.section? node = some id ∧
        started.document.attribute? node started.config.toggle.marker = some id) ∧
    (∀ event node, event ≠ "click" → (dispatch event node).run now = ⟨0, now, []⟩) ∧
    (∀ listener ∈ now.listeners, listener.index < listener.page.bindings.length) ∧
    (∀ id, (showHide id).run now =
      match (starts events browser).getLast?, reach now with
      | some last, _ => (onDocument (toggleAll [(last.config.toggle, id)])).run now
      | none, .ok () => (onDocument (toggleAll [({}, id)])).run now
      | none, .error error => (log .warn ("showHide: " ++ error.message)).run now) ∧
    ∀ text error, reach now = .error error →
      ((start text).run now).state =
        { now with logger := some (now.logger.getD (wantedLevel (readConfig text).1)) } := by
  intro browser now
  have fresh : Tracks [] browser := ⟨rfl, rfl⟩
  have tracks : Tracks (starts events browser) now := fresh.run events
  refine ⟨tracks.run_dispatch_click, ?_, ?_, ?_, tracks.run_showHide, ?_⟩
  · intro started _
    refine ⟨started.nodup_listening, ?_⟩
    intro node hnode
    obtain ⟨id, hne, hsection⟩ := started.exists_section?_of_listening hnode
    refine ⟨id, hne, hsection, ?_⟩
    rw [Started.section?, if_pos hnode] at hsection
    exact hsection
  · intro event node h
    exact tracks.run_dispatch_of_ne h node
  · intro listener h
    exact tracks.index_lt h
  · intro text error h
    refine state_start_of_none ?_
    rw [started?, h]

/-- A trigger that is marked anew between two starts asks for both sections. -/
example :
    requests (starts
      [.start none,
        .edit fun document =>
          { document with tree := document.tree.modify 0 (·.set "showHide" "notes") },
        .start none]
      { document := { tree := Tree.add none (.ofTag "a" false [("showHide", "news")]) {} } }) 0 =
        [({}, "news"), ({}, "notes")] := by
  decide +kernel

end PageBehaviors.Browser
