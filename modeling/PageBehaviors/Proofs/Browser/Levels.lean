import PageBehaviors.Proofs.Browser.Interchange
import PageBehaviors.Proofs.Browser.Starts
import PageBehaviors.Proofs.Config.RoundTrip

/-!
# Log levels only filter

The level of a configuration decides which lines are kept, and nothing else.  Two runs whose
configurations differ in their levels alone do the same: they write the same lines, and each logger
keeps its own of them.  Since the logger is installed once, its level is the one of the first
start; what later starts ask for has no effect at all.

## Main definitions and statements

* `Browser.withoutLevels` — a browser with its levels forgotten.
* `Browser.AlikeButLevels` — two actions that differ in their levels alone, with
  `AlikeButLevels.bind` for sequencing.
* `Browser.Event.SameButLevel`, `Browser.firstLevel?` — events that differ in their levels alone;
  the level of the first start.
* `Browser.alikeButLevels_handle`, `Browser.alikeButLevels_run` — one event; several.
* `Browser.levels_only_filter` — two runs that differ in their levels alone.
-/

namespace PageBehaviors

/-! ### Forgetting levels -/

/-- Settings with their log level forgotten. -/
def PageConfig.withoutLevel (config : PageConfig) : PageConfig :=
  { config with logLevel := Log.Level.trace.name }

namespace Page

variable {D E : Type}

/-- A page with the log level of its settings forgotten. -/
def withoutLevel (page : Page E) : Page E :=
  { page with config := page.config.withoutLevel }

theorem toggle_withoutLevel [Document D E] (page : Page E) (id : String) :
    page.withoutLevel.toggle id = (page.toggle id : Action D _) := rfl

end Page

namespace Browser

/-- A listener with the log level of its page forgotten. -/
def Listener.withoutLevel (listener : Listener) : Listener :=
  { listener with page := listener.page.withoutLevel }

/-- Browsers that are the same apart from levels.  Whether there is a logger is no level. -/
structure SameButLevels (first second : Browser) : Prop where
  hasWindow : first.hasWindow = second.hasWindow
  hasDocument : first.hasDocument = second.hasDocument
  document : first.document = second.document
  listeners : first.listeners.map Listener.withoutLevel =
    second.listeners.map Listener.withoutLevel
  page : first.page.map Page.withoutLevel = second.page.map Page.withoutLevel
  installed : first.logger.isSome = second.logger.isSome

theorem SameButLevels.refl (browser : Browser) : SameButLevels browser browser :=
  ⟨rfl, rfl, rfl, rfl, rfl, rfl⟩

theorem SameButLevels.reach_eq {first second : Browser} (same : SameButLevels first second) :
    first.reach = second.reach := by
  rw [reach, reach, same.hasWindow, same.hasDocument]

/-! ### Actions that differ in their levels alone -/

variable {α β γ δ : Type}

/-- What two actions give that differ in their levels alone: related values, browsers that are the
same apart from levels, and the same lines, of which each logger keeps its own.  `level` is what
the logger is installed with if there is none. -/
structure OutcomesAlike (level level' : Option Log.Level) (Q : α → β → Prop)
    (before before' : Browser) (outcome : Outcome Browser α) (outcome' : Outcome Browser β) :
    Prop where
  value : Q outcome.value outcome'.value
  state : SameButLevels outcome.state outcome'.state
  logger : outcome.state.logger = before.logger.or level
  logger' : outcome'.state.logger = before'.logger.or level'
  entries : ∃ lines, outcome.entries = Log.kept outcome.state.logger lines ∧
    outcome'.entries = Log.kept outcome'.state.logger lines

/-- From browsers that are the same apart from levels, two actions differ in their levels alone. -/
def AlikeButLevels (level level' : Option Log.Level) (Q : α → β → Prop) (first : Action Browser α)
    (second : Action Browser β) : Prop :=
  ∀ browser browser', SameButLevels browser browser' →
    OutcomesAlike level level' Q browser browser' (first.run browser) (second.run browser')

/-- Lines from before and after a logger is installed: a logger keeps none of those from before. -/
theorem exists_kept_append {logger logger' : Option Log.Level}
    (installed : logger.isSome = logger'.isSome) (next next' : Option Log.Level)
    (lines others : List Log.Entry) : ∃ all,
      Log.kept logger lines ++ Log.kept (logger.or next) others = Log.kept (logger.or next) all ∧
      Log.kept logger' lines ++ Log.kept (logger'.or next') others =
        Log.kept (logger'.or next') all := by
  cases logger with
  | none =>
      cases logger' with
      | none => exact ⟨others, by rw [Log.kept_none]; rfl, by rw [Log.kept_none]; rfl⟩
      | some threshold' => cases installed
  | some threshold =>
      cases logger' with
      | none => cases installed
      | some threshold' =>
          exact ⟨lines ++ others, (Log.kept_append _ _ _).symm, (Log.kept_append _ _ _).symm⟩

namespace AlikeButLevels

variable {level level' next next' : Option Log.Level} {Q : α → β → Prop} {P : γ → δ → Prop}

theorem pure {v : α} {w : β} (h : Q v w) :
    AlikeButLevels none none Q (Pure.pure v) (Pure.pure w) := by
  intro browser browser' same
  exact ⟨h, same, Option.or_none.symm, Option.or_none.symm, [], rfl, rfl⟩

theorem read {view : Browser → α} {view' : Browser → β}
    (h : ∀ browser browser', SameButLevels browser browser' → Q (view browser) (view' browser')) :
    AlikeButLevels none none Q (Action.read view) (Action.read view') := by
  intro browser browser' same
  exact ⟨h _ _ same, same, Option.or_none.symm, Option.or_none.symm, [], rfl, rfl⟩

theorem log (severity : Log.Level) (text : String) :
    AlikeButLevels none none Eq (Browser.log severity text) (Browser.log severity text) := by
  intro browser browser' same
  exact ⟨rfl, same, Option.or_none.symm, Option.or_none.symm, [⟨severity, text⟩], rfl, rfl⟩

/-- A change that has nothing to do with the logger. -/
theorem change {f g : Browser → Browser}
    (h : ∀ browser browser', SameButLevels browser browser' →
      SameButLevels (f browser) (g browser'))
    (hf : ∀ browser, (f browser).logger = browser.logger)
    (hg : ∀ browser, (g browser).logger = browser.logger) :
    AlikeButLevels none none Eq (.call (modify f)) (.call (modify g)) := by
  intro browser browser' same
  exact ⟨rfl, h _ _ same, (hf _).trans Option.or_none.symm, (hg _).trans Option.or_none.symm, [],
    rfl, rfl⟩

/-- A step of the document that has nothing to do with levels. -/
theorem onDocument {first : Action LiveDocument α} {second : Action LiveDocument β}
    (h : Action.Alike Eq Q first second) :
    AlikeButLevels none none Q (Browser.onDocument first) (Browser.onDocument second) := by
  intro browser browser' same
  obtain ⟨entries, value, state⟩ := h _ _ same.document
  refine ⟨value, { same with document := state }, Option.or_none.symm, Option.or_none.symm, _, rfl,
    ?_⟩
  rw [run_onDocument, ← entries]

/-- Sequencing.  What the first actions install stays, and lines that are written while there is no
logger are kept by none. -/
theorem bind {first : Action Browser α} {second : Action Browser β} {then₁ : α → Action Browser γ}
    {then₂ : β → Action Browser δ} (h : AlikeButLevels level level' Q first second)
    (hnext : ∀ v w, Q v w → AlikeButLevels next next' P (then₁ v) (then₂ w)) :
    AlikeButLevels (level.or next) (level'.or next') P (first >>= then₁) (second >>= then₂) := by
  intro browser browser' same
  have early := h _ _ same
  have late := hnext _ _ early.value _ _ early.state
  refine ⟨late.value, late.state, ?_, ?_, ?_⟩
  · rw [Action.state_bind, late.logger, early.logger, Option.or_assoc]
  · rw [Action.state_bind, late.logger', early.logger', Option.or_assoc]
  obtain ⟨lines, hlines, hlines'⟩ := early.entries
  obtain ⟨others, hothers, hothers'⟩ := late.entries
  obtain ⟨all, hall, hall'⟩ :=
    exists_kept_append early.state.installed next next' lines others
  refine ⟨all, ?_, ?_⟩
  · rw [Action.entries_bind, Action.state_bind, hlines, hothers, late.logger, hall]
  · rw [Action.entries_bind, Action.state_bind, hlines', hothers', late.logger', hall']

/-- Sequencing where only the later actions install a logger. -/
theorem bind_none {first : Action Browser α} {second : Action Browser β}
    {then₁ : α → Action Browser γ} {then₂ : β → Action Browser δ}
    (h : AlikeButLevels none none Q first second)
    (hnext : ∀ v w, Q v w → AlikeButLevels next next' P (then₁ v) (then₂ w)) :
    AlikeButLevels next next' P (first >>= then₁) (second >>= then₂) := by
  have hboth := h.bind hnext
  rwa [Option.none_or, Option.none_or] at hboth

/-- Sequencing where only the earlier actions install a logger. -/
theorem bind_then_none {first : Action Browser α} {second : Action Browser β}
    {then₁ : α → Action Browser γ} {then₂ : β → Action Browser δ}
    (h : AlikeButLevels level level' Q first second)
    (hnext : ∀ v w, Q v w → AlikeButLevels none none P (then₁ v) (then₂ w)) :
    AlikeButLevels level level' P (first >>= then₁) (second >>= then₂) := by
  have hboth := h.bind hnext
  rwa [Option.or_none, Option.or_none] at hboth

/-- Sequencing after equal values. -/
theorem bind_eq {first second : Action Browser α} {then₁ : α → Action Browser γ}
    {then₂ : α → Action Browser δ} (h : AlikeButLevels none none Eq first second)
    (hnext : ∀ v, AlikeButLevels next next' P (then₁ v) (then₂ v)) :
    AlikeButLevels next next' P (first >>= then₁) (second >>= then₂) := by
  refine h.bind_none ?_
  rintro v _ rfl
  exact hnext v

end AlikeButLevels

/-! ### Starting a page -/

/-- The logger is installed with the level that each side asks for, if there is none. -/
theorem alikeButLevels_installLogger (level level' : Log.Level) :
    AlikeButLevels (some level) (some level') Eq (installLogger level) (installLogger level') := by
  intro browser browser' same
  have installed := same.installed
  rw [installLogger, installLogger, Action.run_read_bind, Action.run_read_bind]
  cases hlogger : browser.logger with
  | none =>
      have hlogger' : browser'.logger = none := by
        rw [hlogger] at installed
        exact Option.isNone_iff_eq_none.mp (Option.isSome_eq_false_iff.mp installed.symm)
      rw [hlogger']
      refine ⟨rfl, { same with installed := rfl }, ?_, ?_, [], rfl, rfl⟩
      · rw [hlogger]
        rfl
      · rw [hlogger']
        rfl
  | some threshold =>
      obtain ⟨threshold', hlogger'⟩ : ∃ threshold', browser'.logger = some threshold' := by
        rw [hlogger] at installed
        exact Option.isSome_iff_exists.mp installed.symm
      rw [hlogger']
      refine ⟨rfl, same, ?_, ?_, [⟨.debug, "page: console logger already installed"⟩], rfl, rfl⟩
      · rw [hlogger]
        exact hlogger
      · rw [hlogger']
        exact hlogger'

theorem alike_refl (action : Action LiveDocument α) : Action.Alike Eq Eq action action := by
  rintro document _ rfl
  exact ⟨rfl, rfl, rfl⟩

section

variable {page page' : Page Nat} (same : page.withoutLevel = page'.withoutLevel)

include same

theorem alikeButLevels_listen (index : Nat) (binding : Section.Binding Nat) :
    AlikeButLevels none none Eq (listen page index binding) (listen page' index binding) := by
  refine AlikeButLevels.bind_eq (AlikeButLevels.onDocument (alike_refl _)) fun answer => ?_
  cases answer with
  | error thrown => exact .log _ _
  | ok =>
      refine AlikeButLevels.change (fun browser browser' related => ?_) (fun _ => rfl) fun _ => rfl
      refine { related with listeners := ?_ }
      rw [List.map_append, List.map_append, related.listeners]
      simp only [List.map_cons, List.map_nil, Listener.withoutLevel, same]

theorem alikeButLevels_listenAll (index : Nat) (bindings : List (Section.Binding Nat)) :
    AlikeButLevels none none Eq (listenAll page index bindings)
      (listenAll page' index bindings) := by
  induction bindings generalizing index with
  | nil => exact .pure rfl
  | cons binding bindings ih =>
      exact (alikeButLevels_listen same index binding).bind_eq fun _ => ih (index + 1)

end

/-- Setting pages up does the same if their settings differ in their levels alone. -/
theorem alike_init {config config' : PageConfig}
    (same : config.withoutLevel = config'.withoutLevel) :
    Action.Alike Eq (fun first second : Page Nat × InitReport =>
        first.1.withoutLevel = second.1.withoutLevel ∧
          first.1.bindings = second.1.bindings ∧ first.2 = second.2)
      (Page.init ⟨config, []⟩ : Action LiveDocument _) (Page.init ⟨config', []⟩) := by
  obtain ⟨level, toggle, xsrf⟩ := config
  obtain ⟨level', toggle', xsrf'⟩ := config'
  obtain rfl : toggle = toggle' := congrArg PageConfig.toggle same
  obtain rfl : xsrf = xsrf' := congrArg PageConfig.xsrf same
  rintro document _ rfl
  exact ⟨rfl, ⟨rfl, rfl, rfl⟩, rfl⟩

theorem alikeButLevels_attach {config config' : PageConfig}
    (same : config.withoutLevel = config'.withoutLevel) :
    AlikeButLevels none none Eq (attach config) (attach config') := by
  rw [attach, attach]
  refine AlikeButLevels.bind_eq (.read fun _ _ related => related.reach_eq) fun reached => ?_
  cases reached with
  | error error => exact .pure rfl
  | ok =>
      refine (AlikeButLevels.onDocument (alike_init same)).bind_none ?_
      rintro ⟨page, report⟩ ⟨page', report'⟩ ⟨hpage, hbindings, hreport⟩
      obtain rfl : report = report' := hreport
      show AlikeButLevels none none Eq (listenAll page 0 page.bindings >>= _)
        (listenAll page' 0 page'.bindings >>= _)
      rw [show page'.bindings = page.bindings from hbindings.symm]
      refine (alikeButLevels_listenAll hpage 0 page.bindings).bind_eq fun _ => ?_
      refine AlikeButLevels.bind_eq ?_ fun _ => .pure rfl
      refine AlikeButLevels.change (fun browser browser' related => ?_) (fun _ => rfl) fun _ => rfl
      exact { related with page := congrArg some hpage }

/-- Starting pages does the same if their settings differ in their levels alone. -/
theorem alikeButLevels_startWith {config config' : PageConfig}
    (same : config.withoutLevel = config'.withoutLevel) :
    AlikeButLevels (some (wantedLevel config)) (some (wantedLevel config')) Eq
      (startWith config none) (startWith config' none) := by
  refine (alikeButLevels_installLogger _ _).bind_then_none fun _ _ _ => ?_
  refine AlikeButLevels.bind_eq (.pure rfl) fun _ => ?_
  refine (alikeButLevels_attach same).bind_eq fun started => ?_
  cases started with
  | ok report => exact .log _ _
  | error error => exact .log _ _

/-! ### Using a page -/

/-- One step of the document, in both browsers. -/
theorem alikeButLevels_onDocument (action : Action LiveDocument α) :
    AlikeButLevels none none Eq (discard (onDocument action)) (discard (onDocument action)) := by
  intro browser browser' related
  have alike := AlikeButLevels.onDocument (alike_refl action) browser browser' related
  exact ⟨rfl, alike.state, alike.logger, alike.logger', alike.entries⟩

theorem alikeButLevels_showHide (id : String) :
    AlikeButLevels none none Eq (showHide id) (showHide id) := by
  have hpage : AlikeButLevels none none
      (fun page? page'? => page?.map Page.withoutLevel = page'?.map Page.withoutLevel)
      (.read Browser.page) (.read Browser.page) := .read fun _ _ related => related.page
  rw [showHide]
  refine hpage.bind_none fun page? page'? same => ?_
  cases page? with
  | none =>
      obtain rfl : page'? = none := Option.map_eq_none_iff.mp same.symm
      refine AlikeButLevels.bind_eq (.read fun _ _ related => related.reach_eq) fun reached => ?_
      cases reached with
      | ok => exact alikeButLevels_onDocument _
      | error error => exact .log _ _
  | some page =>
      obtain ⟨page', rfl, hpage⟩ := Option.map_eq_some_iff.mp same.symm
      have htoggle : page'.toggle id = (page.toggle id : Action LiveDocument _) := by
        rw [← page.toggle_withoutLevel, ← hpage, page'.toggle_withoutLevel]
      simp only [htoggle]
      exact alikeButLevels_onDocument _

/-- Listeners run the same if their levels are forgotten. -/
theorem runListeners_withoutLevel (listeners : List Listener) :
    runListeners (listeners.map Listener.withoutLevel) = runListeners listeners := by
  induction listeners with
  | nil => rfl
  | cons listener listeners ih =>
      rw [List.map_cons, runListeners, runListeners, ih]
      rfl

theorem alikeButLevels_runListeners (listeners : List Listener) :
    AlikeButLevels none none Eq (runListeners listeners) (runListeners listeners) := by
  induction listeners with
  | nil => exact .pure rfl
  | cons listener listeners ih =>
      refine (alikeButLevels_onDocument _).bind_eq fun _ => ?_
      exact ih.bind_eq fun _ => .pure rfl

theorem alikeButLevels_dispatch (event : String) (node : Nat) :
    AlikeButLevels none none Eq (dispatch event node) (dispatch event node) := by
  have hlisteners : AlikeButLevels none none
      (fun listeners listeners' =>
        listeners.map Listener.withoutLevel = listeners'.map Listener.withoutLevel)
      (.read Browser.listeners) (.read Browser.listeners) :=
    .read fun _ _ related => related.listeners
  rw [dispatch]
  refine hlisteners.bind_none fun listeners listeners' same => ?_
  -- who hears the event has nothing to do with levels
  have hcommutes (all : List Listener) :
      (all.filter fun listener => listener.node == node && listener.event == event).map
          Listener.withoutLevel =
        (all.map Listener.withoutLevel).filter fun listener =>
          listener.node == node && listener.event == event := by
    rw [List.filter_map]
    rfl
  rw [← runListeners_withoutLevel, hcommutes, same, ← hcommutes, runListeners_withoutLevel]
  exact alikeButLevels_runListeners _

/-! ### Runs -/

/-- Events that are the same, or that start pages with settings which differ in their levels
alone.  Both texts are configurations, so both name a level, or give none and take the default. -/
inductive Event.SameButLevel : Event → Event → Prop
  | start {text text' : Option String} {config config' : PageConfig}
      (read : readConfig text = (config, none)) (read' : readConfig text' = (config', none))
      (same : config.withoutLevel = config'.withoutLevel) :
      SameButLevel (.start text) (.start text')
  | showHide {id : String} : SameButLevel (.showHide id) (.showHide id)
  | dispatch {event : String} {node : Nat} :
      SameButLevel (.dispatch event node) (.dispatch event node)
  | edit {change : LiveDocument → LiveDocument} : SameButLevel (.edit change) (.edit change)
  | surroundings {hasWindow hasDocument : Bool} :
      SameButLevel (.surroundings hasWindow hasDocument) (.surroundings hasWindow hasDocument)

/-- The level that an event asks the logger for, if it is a start. -/
def Event.level? : Event → Option Log.Level
  | .start text => some (wantedLevel (readConfig text).1)
  | _ => none

/-- The level of the first start among several events. -/
def firstLevel? (events : List Event) : Option Log.Level :=
  events.findSome? Event.level?

theorem firstLevel?_cons (event : Event) (events : List Event) :
    firstLevel? (event :: events) = event.level?.or (firstLevel? events) := by
  rw [firstLevel?, List.findSome?_cons]
  cases event.level? <;> rfl

/-- One event. -/
theorem alikeButLevels_handle {event event' : Event} (h : event.SameButLevel event') :
    AlikeButLevels event.level? event'.level? Eq (handle event) (handle event') := by
  cases h with
  | @start text text' config config' read read' same =>
      show AlikeButLevels (some (wantedLevel (readConfig text).1))
        (some (wantedLevel (readConfig text').1)) Eq
        (startWith (readConfig text).1 (readConfig text).2 >>= fun _ => pure 0)
        (startWith (readConfig text').1 (readConfig text').2 >>= fun _ => pure 0)
      rw [read, read']
      exact (alikeButLevels_startWith same).bind_then_none fun _ _ _ => .pure rfl
  | showHide => exact (alikeButLevels_showHide _).bind_eq fun _ => .pure rfl
  | dispatch => exact alikeButLevels_dispatch _ _
  | @edit change =>
      refine AlikeButLevels.bind_eq ?_ fun _ => .pure rfl
      refine AlikeButLevels.change (fun browser browser' related => ?_) (fun _ => rfl) fun _ => rfl
      exact { related with document := congrArg change related.document }
  | surroundings =>
      refine AlikeButLevels.bind_eq ?_ fun _ => .pure rfl
      refine AlikeButLevels.change (fun browser browser' related => ?_) (fun _ => rfl) fun _ => rfl
      exact { related with hasWindow := rfl, hasDocument := rfl }

/-- Several events. -/
theorem alikeButLevels_run {events events' : List Event}
    (h : List.Forall₂ Event.SameButLevel events events') :
    AlikeButLevels (firstLevel? events) (firstLevel? events') Eq (run events) (run events') := by
  induction h with
  | nil => exact .pure rfl
  | @cons event event' events events' hfirst _ ih =>
      rw [firstLevel?_cons, firstLevel?_cons]
      refine (alikeButLevels_handle hfirst).bind ?_
      rintro count _ rfl
      refine ih.bind_then_none ?_
      rintro counts _ rfl
      exact .pure rfl

theorem kept_trace (lines : List Log.Entry) : Log.kept (some .trace) lines = lines :=
  List.filter_eq_self.mpr fun line _ => Log.Level.trace_admits line.level

/-- **Log levels only filter.**  Two runs in a browser without a logger, whose settings differ in
their levels alone, give the same values and leave the same browsers apart from levels, after every
event.  What is kept of the log depends on the level of the first start alone: it is what that level
admits of the log that is kept if the level is `trace`. -/
theorem levels_only_filter (browser : Browser) (fresh : browser.logger = none)
    {events events' : List Event} (h : List.Forall₂ Event.SameButLevel events events') :
    (∀ n, ((run (events.take n)).run browser).value = ((run (events'.take n)).run browser).value ∧
        SameButLevels ((run (events.take n)).run browser).state
          ((run (events'.take n)).run browser).state) ∧
      (firstLevel? events = firstLevel? events' →
        ((run events).run browser).entries = ((run events').run browser).entries) ∧
      ∀ level, firstLevel? events = some level → firstLevel? events' = some .trace →
        ((run events).run browser).entries =
          ((run events').run browser).entries.filter fun line => level.admits line.level := by
  have alike := alikeButLevels_run h browser browser (.refl browser)
  obtain ⟨lines, hlines, hlines'⟩ := alike.entries
  rw [alike.logger, fresh, Option.none_or] at hlines
  rw [alike.logger', fresh, Option.none_or] at hlines'
  refine ⟨?_, ?_, ?_⟩
  · intro n
    have early := alikeButLevels_run (List.forall₂_take n h) browser browser (.refl browser)
    exact ⟨early.value, early.state⟩
  · intro hlevel
    rw [hlines, hlines', hlevel]
  · intro level hlevel htrace
    rw [hlines, hlines', hlevel, htrace, kept_trace]
    rfl

theorem readConfig_toJson {config : PageConfig} {level : Log.Level}
    (h : config.level = .ok level) : readConfig (some config.toJson) = (config, none) := by
  have written : PageConfig.ofJson config.toJson = config.level.map fun _ => config :=
    PageConfig.ofJson_of_spacedText (Json.spacedText_compact config.tokens)
  rw [readConfig, written, h]
  rfl

/-- A start with the default settings but for the named level. -/
def startAt (name : String) : Event :=
  .start (some ({ logLevel := name } : PageConfig).toJson)

/-- A browser that shows the markups of a folder and keeps no log yet. -/
def folderShown : Browser :=
  { document := Markup.document Markup.folder "XSRF-TOKEN=t0" }

/-- Two starts, of which one gives no level, with a click on the trigger between them: if the first
one asks for `trace`, all is kept that is kept with the default level, and more. -/
theorem levels_only_filter_restart :
    ((run [.start none, .dispatch "click" 1, startAt "error"]).run folderShown).entries =
      ((run [startAt "trace", .dispatch "click" 1, .start none]).run folderShown).entries.filter
        fun line => Log.Level.info.admits line.level := by
  have verbose : readConfig (some ({ logLevel := "trace" } : PageConfig).toJson) =
      ({ logLevel := "trace" }, none) :=
    readConfig_toJson (show PageConfig.level _ = .ok .trace by decide +kernel)
  have terse : readConfig (some ({ logLevel := "error" } : PageConfig).toJson) =
      ({ logLevel := "error" }, none) :=
    readConfig_toJson (show PageConfig.level _ = .ok .error by decide +kernel)
  have related : List.Forall₂ Event.SameButLevel
      [.start none, .dispatch "click" 1, startAt "error"]
      [startAt "trace", .dispatch "click" 1, .start none] :=
    .cons (.start rfl verbose rfl) <| .cons .dispatch <| .cons (.start terse rfl rfl) .nil
  have first : firstLevel? [startAt "trace", .dispatch "click" 1, .start none] = some .trace := by
    show some (wantedLevel (readConfig _).1) = _
    rw [verbose]
    rfl
  exact (levels_only_filter folderShown rfl related).2.2 .info rfl first

end Browser

end PageBehaviors
