import PageBehaviors.Proofs.Browser.Clicks
import PageBehaviors.Proofs.Browser.Rejection

/-!
# Every trigger listens or is reported

A start asks once for each binding, in the order of the bindings, that its trigger listen.  A call
that works leaves one listener behind, and a call that throws leaves one line in the log.  Neither
makes a difference to the other bindings, and even if all calls throw, the page is there for calls
from the markup.

The lines about triggers can be told from all other lines that a start writes: those of the
behaviours name the behaviour, and those about the start itself go on in another way.

## Main definitions and statements

* `Page.writes_init` — the warnings of the behaviours begin with their names.
* `Browser.listenersOf` — the listeners of one element.
* `Browser.Started.filter_listeners` — what a start adds to the listeners of a trigger.
* `Browser.run_start_of_reached` — all that a start does in a document that can be reached.
* `Browser.triggers_listen_or_are_reported` — every trigger listens or is reported.
-/

namespace PageBehaviors

/-! ### Lines of a behaviour -/

/-- A line that warns about a behaviour begins with the name of the behaviour. -/
def Log.Entry.NamesBehaviour (entry : Log.Entry) : Prop :=
  entry.level = .warn → ∃ rest, entry.text = "toggle: " ++ rest ∨ entry.text = "xsrf: " ++ rest

section

open PageBehaviors.Action (Writes)
open Log.Entry (NamesBehaviour)

variable {D E : Type} [Document D E]

theorem Section.writes_bind? (config : ToggleConfig) (trigger : E) :
    Writes NamesBehaviour (bind? config trigger : Action D _) := by
  refine (Writes.call _).bind fun marker => ?_
  cases marker with
  | none => exact Writes.pure _
  | some target =>
      show Writes NamesBehaviour (if target = "" then _ else _)
      split
      · exact (Writes.log nofun).bind fun _ => Writes.pure _
      · exact Writes.pure _

theorem Section.writes_bindAll (config : ToggleConfig) (triggers : List E) :
    Writes NamesBehaviour (bindAll config triggers : Action D _) := by
  induction triggers with
  | nil => exact Writes.pure _
  | cons trigger triggers ih =>
      refine (writes_bind? config trigger).bind fun _ => ?_
      exact ih.bind fun _ => Writes.pure _

theorem Section.writes_discover (config : ToggleConfig) :
    Writes NamesBehaviour (discover config : Action D (List (Binding E))) := by
  refine (Writes.call _).bind fun result => ?_
  cases result with
  | ok triggers => exact writes_bindAll config triggers
  | error error =>
      refine (Writes.log fun _ => ⟨"cannot query [" ++ config.marker ++ "] triggers: " ++
        error.message, Or.inl ?_⟩).bind fun _ => Writes.pure _
      simp only [← String.append_assoc]
      rfl

theorem FormToken.writes_injectInto (config : XsrfConfig) (token : String) (form : E) :
    Writes NamesBehaviour (injectInto config token form : Action D _) := by
  refine (Writes.call _).bind fun method => ?_
  split
  · refine (Writes.call _).bind fun result => ?_
    cases result with
    | ok => exact Writes.pure _
    | error error =>
        refine (Writes.log fun _ => ⟨"cannot add " ++ config.fieldName ++ " field: " ++
          error.message, Or.inr ?_⟩).bind fun _ => Writes.pure _
        simp only [← String.append_assoc]
        rfl
  · exact Writes.pure _

theorem FormToken.writes_injectAll (config : XsrfConfig) (token : String) (forms : List E) :
    Writes NamesBehaviour (injectAll config token forms : Action D _) := by
  induction forms with
  | nil => exact Writes.pure _
  | cons form forms ih =>
      refine (writes_injectInto config token form).bind fun _ => ?_
      exact ih.bind fun _ => Writes.pure _

theorem FormToken.writes_inject (config : XsrfConfig) :
    Writes NamesBehaviour (inject config : Action D Nat) := by
  refine (Writes.call _).bind fun result => ?_
  cases result with
  | error error =>
      refine (Writes.log fun _ => ⟨"cannot read cookies: " ++ error.message, Or.inr ?_⟩).bind
        fun _ => Writes.pure _
      rw [← String.append_assoc]
      rfl
  | ok cookies =>
      dsimp only
      cases token? config cookies with
      | none => exact (Writes.log nofun).bind fun _ => Writes.pure _
      | some token =>
          refine (Writes.read _).bind fun forms => ?_
          refine (writes_injectAll config token forms).bind fun _ => ?_
          exact (Writes.log nofun).bind fun _ => Writes.pure _

/-- **While a page is set up, every line that warns names its behaviour.** -/
theorem Page.writes_init (page : Page E) :
    Writes NamesBehaviour (page.init : Action D (Page E × InitReport)) := by
  have htoken : Writes NamesBehaviour (page.injectToken : Action D Nat) := by
    rw [injectToken]
    split
    · exact FormToken.writes_inject _
    · exact Writes.pure _
  refine (Section.writes_discover _).bind fun bindings => htoken.bind fun count => ?_
  exact (Writes.log nofun).bind fun _ => Writes.pure _

end

/-! ### Lines about triggers -/

/-- A text begins as its first part does. -/
theorem Text.head?_toList_append {s : String} {c : Char} (h : s.toList.head? = some c)
    (t : String) : (s ++ t).toList.head? = some c := by
  rw [String.toList_append, List.head?_append, h]
  rfl

/-- How the wording of an error begins: in none of the cases with the letter of `cannot`. -/
theorem PageError.exists_head?_message (error : PageError) :
    ∃ c, c ≠ 'c' ∧ error.message.toList.head? = some c := by
  cases error with
  | config problem => exact ⟨'i', by decide, Text.head?_toList_append rfl _⟩
  | logLevel name => exact ⟨'u', by decide, Text.head?_toList_append rfl _⟩
  | missingWindow => exact ⟨'w', by decide, rfl⟩
  | missingDocument => exact ⟨'d', by decide, rfl⟩
  | document message => exact ⟨'d', by decide, Text.head?_toList_append rfl _⟩

namespace Browser

/-- A line about a trigger is not one about a behaviour. -/
theorem not_namesBehaviour_refusalLine (binding : Section.Binding Nat) (thrown : Thrown) :
    ¬ (refusalLine binding thrown).NamesBehaviour := by
  intro named
  obtain ⟨rest, htext⟩ := named rfl
  have hfirst : (refusalLine binding thrown).text.toList.head? = some 'p' := by
    apply Text.head?_toList_append
    apply Text.head?_toList_append
    exact Text.head?_toList_append rfl _
  rcases htext with htext | htext
  · rw [htext, Text.head?_toList_append (c := 't') rfl] at hfirst
    cases hfirst
  · rw [htext, Text.head?_toList_append (c := 'x') rfl] at hfirst
    cases hfirst

/-- Nor is it one about the settings. -/
theorem refusalLine_ne_rejectionLine (binding : Section.Binding Nat) (thrown : Thrown)
    (error : PageError) : refusalLine binding thrown ≠ rejectionLine error := by
  intro heq
  have hpage : "page: cannot bind #" = "page: " ++ "cannot bind #" := rfl
  have htext := congrArg Log.Entry.text heq
  simp only [refusalLine, rejectionLine, hpage, String.append_assoc, String.append_right_inj]
    at htext
  obtain ⟨c, hne, hc⟩ := error.exists_head?_message
  have hfirst := Text.head?_toList_append hc "; using default config"
  rw [← htext, Text.head?_toList_append (c := 'c') rfl] at hfirst
  exact hne (Option.some.inj hfirst).symm

/-! ### The listeners of one element -/

/-- The listeners of an element, in the order in which they were added. -/
def listenersOf (node : Nat) (browser : Browser) : List Listener :=
  browser.listeners.filter fun listener => listener.node == node

/-- If no two entries of a list have the same key, the key of an entry selects that entry. -/
theorem filter_key_of_mem {α β : Type} [BEq β] [LawfulBEq β] (key : α → β) {entries : List α}
    (nodup : (entries.map key).Nodup) {entry : α} (h : entry ∈ entries) :
    entries.filter (fun other => key other == key entry) = [entry] := by
  rw [filter_key_eq key nodup]
  cases hfound : entries.find? fun other => key other == key entry with
  | none => exact absurd (beq_self_eq_true _) (List.find?_eq_none.mp hfound entry h)
  | some other =>
      have hkey : key other = key entry := by simpa using List.find?_some hfound
      rw [List.inj_on_of_nodup_map nodup (List.mem_of_find?_eq_some hfound) h hkey]
      rfl

namespace Started

variable (started : Started)

/-- **What a start adds to the listeners of a trigger**: one listener, unless the call threw. -/
theorem filter_listeners {index : Nat} {binding : Section.Binding Nat}
    (h : started.bindings[index]? = some binding) :
    started.listeners.filter (fun listener => listener.node == binding.trigger) =
      if started.thrown? index = none then [⟨binding.trigger, "click", started.page, index⟩]
      else [] := by
  have hmem : (binding, index) ∈ started.bindings.zipIdx := List.mem_zipIdx_iff_getElem?.mpr h
  have honly := filter_key_of_mem (fun entry : Section.Binding Nat × Nat => entry.1.trigger)
    started.nodup_triggers hmem
  have hcomm : started.heard.filter (fun entry => entry.1.trigger == binding.trigger) =
      [(binding, index)].filter fun entry =>
        started.document.faults.worksAfter .addEventListener entry.2 := by
    rw [heard, Faults.granted_zipIdx, List.filter_comm, honly]
  rw [listeners, List.filter_map]
  show (started.heard.filter fun entry => entry.1.trigger == binding.trigger).map _ = _
  rw [hcomm, List.filter_singleton, Faults.worksAfter, thrown?]
  cases started.document.faults.failureAfter? .addEventListener index with
  | none => rfl
  | some thrown => rfl

/-- An element that is no trigger is not made to listen. -/
theorem filter_listeners_of_notMem {node : Nat}
    (h : node ∉ started.bindings.map Section.Binding.trigger) :
    started.listeners.filter (fun listener => listener.node == node) = [] := by
  refine List.filter_eq_nil_iff.mpr ?_
  intro listener hlistener heq
  obtain ⟨entry, hentry, rfl⟩ := List.mem_map.mp hlistener
  have hbinding := List.mem_of_getElem? (started.getElem?_bindings_of_heard hentry)
  exact h (List.mem_map.mpr ⟨entry.1, hbinding, eq_of_beq heq⟩)

/-- **Every binding has a listener or a line**, and none has both. -/
theorem length_listeners_add_length_refusals :
    started.listeners.length + started.refusals.length = started.bindings.length := by
  have hrefused := started.document.faults.refused_map Prod.fst .addEventListener
    started.bindings.zipIdx
  rw [List.zipIdx_map_fst] at hrefused
  rw [listeners, List.length_map, refusals, List.length_map, hrefused, List.length_map, heard,
    Faults.length_granted_add_length_refused, List.length_zipIdx]

end Started

/-! ### Whole starts -/

/-- The line that says what a start has set up. -/
def startedLine (report : InitReport) : Log.Entry :=
  ⟨.debug, "page: started (" ++ report.text ++ ")"⟩

/-- **A start in a document that can be reached**, as a whole: what it leaves and what it writes. -/
theorem run_start_of_reached {browser : Browser} (reached : reach browser = .ok ())
    (text : Option String) :
    let started : Started := ⟨(readConfig text).1, browser.document⟩
    let init := (Page.init ⟨started.config, []⟩).run browser.document
    let logger : Option Log.Level := some (browser.logger.getD (wantedLevel started.config))
    (start text).run browser =
      ⟨(), { browser with
          logger := logger
          document := { init.state with
            faults := init.state.faults.after .addEventListener started.bindings.length }
          listeners := browser.listeners ++ started.listeners
          page := some started.page },
        setupEntries browser ++ Log.kept logger
          ((readConfig text).2.toList.map rejectionLine ++ init.entries ++ started.refusals ++
            [startedLine init.value.2])⟩ := by
  intro started init logger
  have reached' : reach { browser with logger := logger } = .ok () := reached
  rw [start, startWith_eq, Action.run_bind, state_installLogger, entries_installLogger,
    Action.run_bind, state_reportConfig, entries_reportConfig, setUp, Action.run_bind,
    run_attach reached']
  simp only [Log.kept_append, List.append_assoc]
  rfl

/-- No other line of a start is one about a trigger. -/
theorem refusalLine_notMem {config : PageConfig} (browser : Browser) (problem : Option PageError)
    (report : InitReport) (binding : Section.Binding Nat) (thrown : Thrown) :
    refusalLine binding thrown ∉ setupEntries browser ++ (problem.toList.map rejectionLine ++
      ((Page.init ⟨config, []⟩).run browser.document).entries) ++ [startedLine report] := by
  intro hmem
  rcases List.mem_append.mp hmem with hmem | hmem
  · rcases List.mem_append.mp hmem with hsetup | hmem
    · obtain ⟨hline, -⟩ := List.mem_filter.mp hsetup
      cases List.mem_singleton.mp hline
    · rcases List.mem_append.mp hmem with hproblem | hinit
      · obtain ⟨error, -, heq⟩ := List.mem_map.mp hproblem
        exact refusalLine_ne_rejectionLine binding thrown error heq.symm
      · exact not_namesBehaviour_refusalLine binding thrown (Page.writes_init _ _ _ hinit)
  · cases List.mem_singleton.mp hmem

/-! ### Clicks afterwards -/

theorem runListeners_append (first second : List Listener) :
    runListeners (first ++ second) =
      runListeners first >>= fun older => runListeners second >>= fun newer =>
        pure (older + newer) := by
  simp only [runListeners_eq, List.filterMap_append, toggleAll_append, onDocument_bind, bind_assoc,
    pure_bind, List.length_append]

/-- A click runs the listeners of the element, as far as they are for clicks. -/
theorem clickListeners_eq (node : Nat) (browser : Browser) :
    clickListeners node browser.listeners =
      (listenersOf node browser).filter fun listener => listener.event == "click" := by
  rw [clickListeners, listenersOf, List.filter_filter]
  simp only [Bool.and_comm]

/-- If a start adds a listener, it flips the section of its binding after all that the older ones
do. -/
theorem Started.runListeners_append_listener (started : Started) {index : Nat}
    {binding : Section.Binding Nat} (h : started.bindings[index]? = some binding)
    (older : List Listener) :
    runListeners (older ++
        if started.thrown? index = none then [⟨binding.trigger, "click", started.page, index⟩]
        else []) =
      runListeners older >>= fun count =>
        if started.thrown? index = none then
          discard (onDocument (started.page.toggle binding.target)) >>= fun _ => pure (count + 1)
        else pure count := by
  have hclick : (started.page.click index : Action LiveDocument _) =
      started.page.toggle binding.target := by
    rw [Page.click, page, h]
  split
  · rw [runListeners_append]
    simp only [runListeners, hclick, bind_assoc, pure_bind, Nat.zero_add]
  · rw [List.append_nil, bind_pure]

/-- **Every trigger listens or is reported.**  A start in a document that can be reached, with any
settings and any calls that throw, asks for one listener for each binding of the new page, in the
order of the bindings, and no element is the trigger of two of them:

* the call that works leaves one listener on the trigger of the binding, after those that were
  there, and a click then flips the section of the binding after everything that it did before;
* the call that throws leaves nothing there and writes one line, which is none of the other lines;
* the calls of other bindings make no difference to that, and other elements get no listener;
* there are as many listeners and lines as bindings in the report, and calls from the markup are
  made with the new page, even if no trigger listens. -/
theorem triggers_listen_or_are_reported {browser : Browser} (window : browser.hasWindow = true)
    (document : browser.hasDocument = true) (text : Option String) :
    let started : Started := ⟨(readConfig text).1, browser.document⟩
    let init := (Page.init ⟨started.config, []⟩).run browser.document
    let others := (readConfig text).2.toList.map rejectionLine ++ init.entries
    let outcome := (start text).run browser
    init.value.1 = started.page ∧
    (started.bindings.map Section.Binding.trigger).Nodup ∧
    outcome.state.document = { init.state with
      faults := init.state.faults.after .addEventListener started.bindings.length } ∧
    (∀ index binding, started.bindings[index]? = some binding →
      listenersOf binding.trigger outcome.state = listenersOf binding.trigger browser ++
        (if started.thrown? index = none then [⟨binding.trigger, "click", started.page, index⟩]
        else []) ∧
      (dispatch "click" binding.trigger).run outcome.state =
        (runListeners (clickListeners binding.trigger browser.listeners) >>= fun older =>
          if started.thrown? index = none then
            discard (onDocument (started.page.toggle binding.target)) >>= fun _ =>
              pure (older + 1)
          else pure older).run outcome.state) ∧
    (∀ node, node ∉ started.bindings.map Section.Binding.trigger →
      listenersOf node outcome.state = listenersOf node browser) ∧
    outcome.entries = setupEntries browser ++ Log.kept outcome.state.logger
      (others ++ started.refusals ++ [startedLine init.value.2]) ∧
    (∀ binding thrown, refusalLine binding thrown ∉
      setupEntries browser ++ others ++ [startedLine init.value.2]) ∧
    outcome.state.listeners.length + started.refusals.length =
      browser.listeners.length + init.value.2.bindings ∧
    ∀ id, (showHide id).run outcome.state =
      (discard (onDocument (started.page.toggle id))).run outcome.state := by
  intro started init others outcome
  have reached : reach browser = .ok () := by
    rw [reach, window, document]
    rfl
  have houtcome : outcome = _ := run_start_of_reached reached text
  have hlisteners : outcome.state.listeners = browser.listeners ++ started.listeners := by
    rw [houtcome]
  have hlistenersOf (node : Nat) : listenersOf node outcome.state =
      listenersOf node browser ++
        started.listeners.filter fun listener => listener.node == node := by
    rw [listenersOf, hlisteners, List.filter_append]
    rfl
  refine ⟨rfl, LiveDocument.nodup_discover _ _, by rw [houtcome], ?_, ?_, by rw [houtcome], ?_, ?_,
    ?_⟩
  · intro index binding hbinding
    have hadded := hlistenersOf binding.trigger
    rw [started.filter_listeners hbinding] at hadded
    refine ⟨hadded, ?_⟩
    have hclicks : clickListeners binding.trigger outcome.state.listeners =
        clickListeners binding.trigger browser.listeners ++
          if started.thrown? index = none then [⟨binding.trigger, "click", started.page, index⟩]
          else [] := by
      rw [clickListeners_eq, hadded, List.filter_append, ← clickListeners_eq]
      split <;> rfl
    show (runListeners (clickListeners binding.trigger outcome.state.listeners)).run
      outcome.state = _
    rw [hclicks, started.runListeners_append_listener hbinding]
  · intro node hnode
    rw [hlistenersOf, started.filter_listeners_of_notMem hnode, List.append_nil]
  · exact refusalLine_notMem browser (readConfig text).2 init.value.2
  · rw [hlisteners, List.length_append, Nat.add_assoc,
      started.length_listeners_add_length_refusals]
    rfl
  · intro id
    rw [showHide, Action.run_read_bind, houtcome]

/-- A browser that shows three triggers and refuses the second call for a listener. -/
def rack : Browser :=
  { document :=
      { Markup.document [⟨"a", [("showHide", "news")]⟩, ⟨"a", [("showHide", "notes")]⟩,
          ⟨"a", [("showHide", "help")]⟩] "" with
        faults := fun call =>
          if call = .addEventListener then some ⟨.text "busy", 1, some 1⟩ else none }
    logger := some .warn }

/-- Of three triggers the one in the middle is reported, and the others listen. -/
theorem triggers_listen_or_are_reported_rack :
    rack.hasWindow = true ∧ rack.hasDocument = true ∧
      let outcome := (start none).run rack
      listenersOf 0 outcome.state = [⟨0, "click", (⟨{}, rack.document⟩ : Started).page, 0⟩] ∧
      listenersOf 1 outcome.state = [] ∧
      listenersOf 2 outcome.state = [⟨2, "click", (⟨{}, rack.document⟩ : Started).page, 2⟩] ∧
      outcome.entries = [⟨.warn, "page: cannot bind #notes: dom error: busy"⟩] := by
  have window : rack.hasWindow = true := rfl
  have document : rack.hasDocument = true := rfl
  obtain ⟨-, -, -, hbindings, -, hentries, -⟩ :=
    triggers_listen_or_are_reported window document none
  have hfirst := (hbindings 0 ⟨0, "news", "newsImg"⟩ (by decide +kernel)).1
  have hsecond := (hbindings 1 ⟨1, "notes", "notesImg"⟩ (by decide +kernel)).1
  have hthird := (hbindings 2 ⟨2, "help", "helpImg"⟩ (by decide +kernel)).1
  refine ⟨window, document, ?_, ?_, ?_, ?_⟩
  · exact hfirst
  · exact hsecond
  · exact hthird
  · rw [hentries]
    decide +kernel

end Browser

end PageBehaviors
