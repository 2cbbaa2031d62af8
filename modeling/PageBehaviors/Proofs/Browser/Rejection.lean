import PageBehaviors.Proofs.Browser.Interchange
import PageBehaviors.Proofs.Browser.Starts

/-!
# Starts with a text that is refused

A text that is no configuration is reported, and otherwise it is as if no text had been given: the
page starts with the defaults, and nothing that was read of the text before it was refused has any
effect, not even on the logger.  This holds for the rest of the start and for all that happens
afterwards.

## Main definitions and statements

* `Browser.rejectionLine` — the line that reports a text.
* `Browser.setupEntries`, `Browser.levelInForce` — what installing the logger leaves.
* `Browser.run_startWith_cons` — where the report stands among the lines of a run.
* `Browser.run_start_of_rejected` — a run that begins with a text that is refused.
-/

namespace PageBehaviors.Browser

/-- The line that reports an error in the settings. -/
def rejectionLine (error : PageError) : Log.Entry :=
  ⟨.warn, "page: " ++ error.message ++ "; using default config"⟩

/-- The level from which on lines are kept, once a start with the default settings has seen to the
logger. -/
def levelInForce (browser : Browser) : Log.Level :=
  browser.logger.getD .info

/-- The lines kept while a start sees to the logger: one, if there is a logger already. -/
def setupEntries (browser : Browser) : List Log.Entry :=
  Log.kept browser.logger [⟨.debug, "page: console logger already installed"⟩]

theorem wantedLevel_default : wantedLevel {} = .info := by
  decide +kernel

/-- What a start does after it has reported on its settings. -/
def setUp (config : PageConfig) : Action Browser Unit := do
  match ← attach config with
  | .ok report => log .debug ("page: started (" ++ report.text ++ ")")
  | .error error => log .warn ("page: not started: " ++ error.message)

theorem startWith_eq (config : PageConfig) (problem : Option PageError) :
    startWith config problem = (do
      installLogger (wantedLevel config)
      reportConfig problem
      setUp config) := rfl

theorem entries_installLogger (level : Log.Level) (browser : Browser) :
    ((installLogger level).run browser).entries = setupEntries browser := by
  rw [installLogger, Action.run_read_bind, setupEntries]
  cases h : browser.logger with
  | none => rfl
  | some installed =>
      show Log.kept browser.logger _ = _
      rw [h]

theorem entries_reportConfig (problem : Option PageError) (browser : Browser) :
    ((reportConfig problem).run browser).entries =
      Log.kept browser.logger (problem.toList.map rejectionLine) := by
  cases problem with
  | none => rfl
  | some error => rfl

/-- A run that begins with a start: the report on the settings stands after the lines of the logger
and before everything else, and changes nothing else. -/
theorem run_startWith_bind {α : Type} (config : PageConfig) (problem : Option PageError)
    (next : Unit → Action Browser α) (browser : Browser) :
    (startWith config problem >>= next).run browser =
      let ready : Browser :=
        { browser with logger := some (browser.logger.getD (wantedLevel config)) }
      let others := (setUp config >>= next).run ready
      ⟨others.value, others.state,
        setupEntries browser ++
          (Log.kept ready.logger (problem.toList.map rejectionLine) ++ others.entries)⟩ := by
  rw [startWith_eq, bind_assoc, Action.run_bind, state_installLogger, entries_installLogger,
    bind_assoc, Action.run_bind, state_reportConfig, entries_reportConfig]

theorem readConfig_of_rejected {text : String} {error : PageError}
    (h : PageConfig.ofJson text = .error error) : readConfig (some text) = ({}, some error) := by
  rw [readConfig, h]

theorem run_start_cons (text : Option String) (events : List Event) :
    run (.start text :: events) =
      startWith (readConfig text).1 (readConfig text).2 >>= fun _ =>
        run events >>= fun others => pure (0 :: others) := by
  rw [run, handle, start, bind_assoc]
  rfl

/-- **A text that is refused** is as good as none: what follows gives the same values and leaves the
same browser, and the log has one line more, right after the lines of the logger, if the logger
admits warnings. -/
theorem run_start_of_rejected (browser : Browser) {text : String} {error : PageError}
    (h : PageConfig.ofJson text = .error error) (events : List Event) :
    ((run (.start (some text) :: events)).run browser).value =
        ((run (.start none :: events)).run browser).value ∧
      ((run (.start (some text) :: events)).run browser).state =
        ((run (.start none :: events)).run browser).state ∧
      ∃ others,
        ((run (.start none :: events)).run browser).entries = setupEntries browser ++ others ∧
        ((run (.start (some text) :: events)).run browser).entries =
          setupEntries browser ++
            ((if browser.levelInForce.admits .warn then [rejectionLine error] else []) ++
              others) := by
  have hkept : Log.kept (some (browser.logger.getD (wantedLevel {}))) [rejectionLine error] =
      if browser.levelInForce.admits .warn then [rejectionLine error] else [] := by
    rw [wantedLevel_default]
    exact List.filter_cons
  rw [run_start_cons, run_start_cons, readConfig_of_rejected h, readConfig, run_startWith_bind,
    run_startWith_bind]
  refine ⟨rfl, rfl, _, rfl, ?_⟩
  rw [← hkept]
  rfl

/-- The error of a configuration that gives no log level its name. -/
def nullLevel : PageError :=
  .config ⟨.invalidType .null .string, ⟨1, 5⟩⟩

/-- A browser that shows the markups of a folder and keeps warnings and errors only. -/
def warningsKept : Browser :=
  { document := Markup.document Markup.folder "XSRF-TOKEN=t0", logger := some .warn }

/-- A list whose first element is no level, in a browser whose logger admits warnings but not what
is said about itself; the second start finds no window and is reported in both runs. -/
theorem run_start_of_rejected_nullLevel :
    PageConfig.ofJson "[null]" = .error nullLevel ∧
      ((run [.start (some "[null]"), .surroundings false true, .start none]).run
          warningsKept).entries =
        rejectionLine nullLevel ::
          ((run [.start none, .surroundings false true, .start none]).run
            warningsKept).entries := by
  have rejected : PageConfig.ofJson "[null]" = .error nullLevel := rfl
  obtain ⟨-, -, others, habsent, hrejected⟩ :=
    run_start_of_rejected warningsKept rejected [.surroundings false true, .start none]
  refine ⟨rejected, ?_⟩
  rw [habsent, hrejected]
  rfl

end PageBehaviors.Browser
