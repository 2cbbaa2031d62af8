import Mathlib.Data.List.Forall2
import PageBehaviors.Document.Memory
import PageBehaviors.Proofs.Document.Recorded
import PageBehaviors.Proofs.Page.Operations

/-!
# Every failure is logged, and nothing else is

A call that ends in an error leaves one trace in the log: a line that warns and ends with the
wording of the error.  No other line warns, and none is more severe.  So the warnings of an
operation can be read as the list of its failures.

A call and its warning are two steps, and between them stands a failure that is written down but
not yet logged.  `Owes` carries such failures along: it says that an action writes one warning for
each failure that is owed before it and for each failure of its own, in this order.  Sequencing
hands the debt on, a call adds to it, and a warning pays it.

## Main definitions and statements

* `Failure.ReportedBy`, `Reports` — the line that reports a failure; lines that report failures.
* `Recorded.Owes` — an action that reports what is owed and what fails; `Owes.bind`, `Owes.call`,
  `Owes.warn` — how actions are put together.
* `Session.reports_perform`, `Session.reports_run` — an operation; a whole run.
* `Session.failures_reported` — no failure is dropped and none is made up.
-/

namespace PageBehaviors

/-- How the line begins that reports a failing call. -/
def Unreliable.Call.complaint : Unreliable.Call → String
  | .elementsWithAttribute => "toggle: cannot query ["
  | .setAttribute => "toggle: cannot update icon #"
  | .addClass | .removeClass => "toggle: cannot update #"
  | .appendHiddenInput => "xsrf: cannot add "
  | .cookie => "xsrf: cannot read cookies: "
  -- calls of these two kinds have no error to end in
  | .attributeOf | .formMethod => ""

/-- A line reports a failure: it warns, begins with the complaint about such a call and ends with
the wording of the error. -/
def Failure.ReportedBy (failure : Failure) (entry : Log.Entry) : Prop :=
  entry.level = .warn ∧
    ∃ detail, entry.text = failure.call.complaint ++ detail ++ failure.error.message

/-- The lines that warn, in their order. -/
def Log.warnings (entries : List Log.Entry) : List Log.Entry :=
  entries.filter fun entry => entry.level == .warn

@[simp] theorem Log.warnings_append (first second : List Log.Entry) :
    warnings (first ++ second) = warnings first ++ warnings second :=
  List.filter_append ..

/-- The failures of a list are reported by the lines that warn, one by one and in their order, and
no line tells of an error. -/
structure Reports (failures : List Failure) (entries : List Log.Entry) : Prop where
  warnings : List.Forall₂ Failure.ReportedBy failures (Log.warnings entries)
  noError : ∀ entry ∈ entries, entry.level ≠ .error

namespace Reports

theorem nil : Reports [] [] :=
  ⟨.nil, fun _ h => absurd h List.not_mem_nil⟩

/-- A line that neither warns nor tells of an error reports nothing. -/
theorem quiet {entry : Log.Entry} (hwarn : entry.level ≠ .warn) (herror : entry.level ≠ .error) :
    Reports [] [entry] := by
  refine ⟨?_, fun other hother => ?_⟩
  · simp [Log.warnings, hwarn]
  · rwa [List.mem_singleton.mp hother]

/-- A warning reports the failure whose error it ends with. -/
theorem warn {call : Unreliable.Call} {error : PageError} {text : String} (detail : String)
    (h : text = call.complaint ++ detail ++ error.message) :
    Reports [⟨call, error⟩] [⟨.warn, text⟩] := by
  refine ⟨.cons ⟨rfl, detail, h⟩ .nil, fun other hother => ?_⟩
  rw [List.mem_singleton.mp hother]
  exact Log.Level.noConfusion

theorem append {failures more : List Failure} {entries others : List Log.Entry}
    (h : Reports failures entries) (hmore : Reports more others) :
    Reports (failures ++ more) (entries ++ others) := by
  refine ⟨?_, fun entry hentry => ?_⟩
  · rw [Log.warnings_append]
    exact List.rel_append h.warnings hmore.warnings
  · exact (List.mem_append.mp hentry).elim (h.noError entry) (hmore.noError entry)

/-- Where nothing fails, nothing warns. -/
theorem level_ne_warn {entries : List Log.Entry} (h : Reports [] entries) :
    ∀ entry ∈ entries, entry.level ≠ .warn := by
  intro entry hentry hlevel
  have hmem : entry ∈ Log.warnings entries := List.mem_filter.mpr ⟨hentry, by simp [hlevel]⟩
  rw [List.forall₂_nil_left_iff.mp h.warnings] at hmem
  exact List.not_mem_nil hmem

end Reports

namespace Recorded

variable {D E α β : Type}

/-- The lines of an action report the failures that are owed, and then those that it adds to the
record. -/
def Owes (owed : List Failure) (action : Action (Recorded D) α) : Prop :=
  ∀ whole, ∃ added, (action.run whole).state.failures = whole.failures ++ added ∧
    Reports (owed ++ added) (action.run whole).entries

namespace Owes

theorem pure (value : α) : Owes [] (Pure.pure value : Action (Recorded D) α) :=
  fun _ => ⟨[], (List.append_nil _).symm, .nil⟩

theorem read (view : Recorded D → α) : Owes [] (Action.read view) :=
  fun _ => ⟨[], (List.append_nil _).symm, .nil⟩

theorem debug (text : String) : Owes [] (Action.log .debug text : Action (Recorded D) Unit) :=
  fun _ => ⟨[], (List.append_nil _).symm, .quiet nofun nofun⟩

theorem info (text : String) : Owes [] (Action.log .info text : Action (Recorded D) Unit) :=
  fun _ => ⟨[], (List.append_nil _).symm, .quiet nofun nofun⟩

/-- A warning pays for one failure. -/
theorem warn {call : Unreliable.Call} {error : PageError} {text : String} (detail : String)
    (h : text = call.complaint ++ detail ++ error.message) :
    Owes [⟨call, error⟩] (Action.log .warn text : Action (Recorded D) Unit) :=
  fun _ => ⟨[], (List.append_nil _).symm, .warn detail h⟩

/-- Sequencing: what is owed is paid first, and the rest of an action owes nothing from before. -/
theorem bind {owed : List Failure} {first : Action (Recorded D) α}
    {next : α → Action (Recorded D) β} (h : Owes owed first)
    (hnext : ∀ value, Owes [] (next value)) :
    Owes owed (first >>= next) := by
  intro whole
  obtain ⟨added, hfailures, reports⟩ := h whole
  obtain ⟨more, hmore, others⟩ := hnext (first.run whole).value (first.run whole).state
  refine ⟨added ++ more, ?_, ?_⟩
  · rw [Action.state_bind, hmore, hfailures, List.append_assoc]
  · rw [Action.entries_bind, ← List.append_assoc]
    exact reports.append others

/-- A call that may end in an error: what follows it owes the failure. -/
theorem call {kind : Unreliable.Call} {step : StateM D (Except PageError α)}
    {next : Except PageError α → Action (Recorded D) β}
    (h : ∀ result, Owes (failuresOf kind result) (next result)) :
    Owes [] (Action.call (note kind step) >>= next) := by
  intro whole
  obtain ⟨added, hfailures, reports⟩ :=
    h (step.run whole.document).1 ((note kind step).run whole).2
  refine ⟨failuresOf kind (step.run whole.document).1 ++ added, ?_, reports⟩
  rw [← List.append_assoc]
  exact hfailures

/-- A call that cannot end in an error. -/
theorem look (step : StateM D α) : Owes [] (Action.call (pass step)) :=
  fun _ => ⟨[], (List.append_nil _).symm, .nil⟩

/-- What an action reports that owes nothing from before: the failures in a record that was
empty. -/
theorem reports {action : Action (Recorded D) α} (h : Owes [] action) (document : D) :
    Reports (action.run ⟨document, []⟩).state.failures (action.run ⟨document, []⟩).entries := by
  obtain ⟨added, hfailures, reports⟩ := h ⟨document, []⟩
  rw [hfailures]
  exact reports

end Owes

/-! ### The behaviours of a page -/

variable [Document D E]

theorem owes_updateIcon (config : ToggleConfig) (id : String) (visibility : Section.Visibility) :
    Owes [] (Section.updateIcon config id visibility : Action (Recorded D) Unit) := by
  refine (Owes.read _).bind fun icon => ?_
  cases icon with
  | none => exact Owes.pure _
  | some icon =>
      refine Owes.call fun result => ?_
      cases result with
      | ok => exact Owes.pure _
      | error error =>
          exact Owes.warn (config.iconId id ++ ": ") (by simp only [String.append_assoc]; rfl)

/-- Changing the class of a section is one of two calls; what follows it must do for both. -/
theorem owes_setVisibility {config : ToggleConfig} {element : E} (visibility : Section.Visibility)
    {next : Except PageError Unit → Action (Recorded D) β}
    (h : ∀ kind, kind = .addClass ∨ kind = .removeClass → ∀ result,
      Owes (failuresOf kind result) (next result)) :
    Owes [] (Action.call (Section.setVisibility config element visibility) >>= next) := by
  cases visibility with
  | visible => exact Owes.call (h .removeClass (Or.inr rfl))
  | hidden => exact Owes.call (h .addClass (Or.inl rfl))

theorem owes_toggle (config : ToggleConfig) (id : String) :
    Owes [] (Section.toggle config id : Action (Recorded D) _) := by
  refine (Owes.read _).bind fun element => ?_
  cases element with
  | none => exact (Owes.debug _).bind fun _ => Owes.pure _
  | some element =>
      refine (Owes.read _).bind fun now => ?_
      refine owes_setVisibility _ fun kind hkind result => ?_
      cases result with
      | error error =>
          have hcomplaint : kind.complaint = "toggle: cannot update #" := by
            rcases hkind with rfl | rfl <;> rfl
          refine (Owes.warn (id ++ ": ") ?_).bind fun _ => Owes.pure _
          simp only [hcomplaint, String.append_assoc]
      | ok =>
          refine (owes_updateIcon config id _).bind fun _ => ?_
          exact (Owes.debug _).bind fun _ => Owes.pure _

theorem owes_bind? (config : ToggleConfig) (trigger : E) :
    Owes [] (Section.bind? config trigger : Action (Recorded D) _) := by
  refine (Owes.look _).bind fun target => ?_
  cases target with
  | none => exact Owes.pure _
  | some target =>
      by_cases h : target = ""
      · simp only [h, if_true]
        exact (Owes.debug _).bind fun _ => Owes.pure _
      · simp only [h, if_false]
        exact Owes.pure _

theorem owes_bindAll (config : ToggleConfig) (triggers : List E) :
    Owes [] (Section.bindAll config triggers : Action (Recorded D) _) := by
  induction triggers with
  | nil => exact Owes.pure _
  | cons trigger triggers ih =>
      exact (owes_bind? config trigger).bind fun _ => ih.bind fun _ => Owes.pure _

theorem owes_discover (config : ToggleConfig) :
    Owes [] (Section.discover config : Action (Recorded D) (List (Section.Binding E))) := by
  refine Owes.call fun found => ?_
  cases found with
  | error error =>
      refine (Owes.warn (config.marker ++ "] triggers: ") ?_).bind fun _ => Owes.pure _
      simp only [String.append_assoc]
      rfl
  | ok triggers => exact owes_bindAll config triggers

theorem owes_injectInto (config : XsrfConfig) (token : String) (form : E) :
    Owes [] (FormToken.injectInto config token form : Action (Recorded D) Nat) := by
  refine (Owes.look _).bind fun method => ?_
  split
  · refine Owes.call fun result => ?_
    cases result with
    | ok => exact Owes.pure _
    | error error =>
        refine (Owes.warn (config.fieldName ++ " field: ") ?_).bind fun _ => Owes.pure _
        simp only [String.append_assoc]
        rfl
  · exact Owes.pure _

theorem owes_injectAll (config : XsrfConfig) (token : String) (forms : List E) :
    Owes [] (FormToken.injectAll config token forms : Action (Recorded D) Nat) := by
  induction forms with
  | nil => exact Owes.pure _
  | cons form forms ih =>
      exact (owes_injectInto config token form).bind fun _ => ih.bind fun _ => Owes.pure _

theorem owes_inject (config : XsrfConfig) :
    Owes [] (FormToken.inject config : Action (Recorded D) Nat) := by
  refine Owes.call fun cookies => ?_
  cases cookies with
  | error error =>
      refine (Owes.warn "" ?_).bind fun _ => Owes.pure _
      rw [String.append_empty]
      rfl
  | ok cookies =>
      cases h : FormToken.token? config cookies with
      | none =>
          simp only [h]
          exact (Owes.debug _).bind fun _ => Owes.pure _
      | some token =>
          simp only [h]
          refine (Owes.read _).bind fun forms => ?_
          refine (owes_injectAll config token forms).bind fun count => ?_
          exact (Owes.info _).bind fun _ => Owes.pure _

theorem owes_init (page : Page E) :
    Owes [] (page.init : Action (Recorded D) (Page E × InitReport)) := by
  refine (owes_discover _).bind fun bindings => ?_
  refine Owes.bind ?_ fun count => (Owes.info _).bind fun _ => Owes.pure _
  unfold Page.injectToken
  split
  · exact owes_inject _
  · exact Owes.pure _

theorem owes_click (page : Page E) (index : Nat) :
    Owes [] (page.click index : Action (Recorded D) _) := by
  unfold Page.click
  split
  · exact Owes.pure _
  · exact owes_toggle _ _

end Recorded

namespace Session

open Recorded (Owes)

variable {D E α : Type} [Document D E]

/-- The lines of an operation are the same whether or not its failures are written down. -/
theorem entries_recorded (operation : Operation) (session : Session D E) :
    ((perform operation).run session.recorded).entries =
      ((perform operation).run session).entries :=
  ((Recorded.simulation_forget session.page.config).perform operation session.recorded session
    ⟨rfl, rfl, rfl⟩).1

/-- **One operation** reports its failures. -/
theorem reports_perform (operation : Operation) (session : Session D E) :
    Reports (failures [operation] session) ((perform operation).run session).entries := by
  rw [← entries_recorded, failures_singleton]
  cases operation with
  | init =>
      rw [run_perform_init]
      exact (Recorded.owes_init session.page).reports session.document
  | bindings => exact Reports.nil
  | click index =>
      have reports := (Recorded.owes_click session.page index).reports session.document
      simpa [perform, Action.run_bind, onDocument, recorded] using reports
  | toggle id =>
      have reports := (Recorded.owes_toggle session.page.config.toggle id).reports session.document
      simpa [perform, Action.run_bind, onDocument, Page.toggle, recorded] using reports
  | visibility id => exact Reports.nil
  | discover =>
      have reports := (Recorded.owes_discover session.page.config.toggle).reports session.document
      simpa [perform, Action.run_bind, onDocument, recorded] using reports
  | inject =>
      have reports := (Recorded.owes_inject session.page.config.xsrf).reports session.document
      simpa [perform, Action.run_bind, onDocument, recorded] using reports

/-- **A whole run** reports its failures, one operation after the other. -/
theorem reports_run (operations : List Operation) (session : Session D E) :
    Reports (failures operations session) ((run operations).run session).entries := by
  induction operations generalizing session with
  | nil => exact Reports.nil
  | cons operation operations ih =>
      rw [failures_cons, run_cons]
      exact (reports_perform operation session).append (ih _)

/-- **No failure is dropped and none is made up.**  Whatever is done with a page, and whatever state
it is in: the lines that warn report the calls that ended in an error, one by one and in the order
of the calls, no line tells of an error that is more severe, and where no call ends in an error no
line warns. -/
theorem failures_reported (operation : Operation) (session : Session D E) :
    List.Forall₂ Failure.ReportedBy (failures [operation] session)
        (Log.warnings ((perform operation).run session).entries) ∧
      (∀ entry ∈ ((perform operation).run session).entries, entry.level ≠ .error) ∧
      (failures [operation] session = [] →
        ∀ entry ∈ ((perform operation).run session).entries, entry.level ≠ .warn) := by
  have reports := reports_perform operation session
  refine ⟨reports.warnings, reports.noError, fun hnone => ?_⟩
  rw [hnone] at reports
  exact reports.level_ne_warn

/-- Two forms that are sent with POST.  Triggers cannot be looked for, and the first form does not
take the field. -/
def survey : Session (Unreliable MemoryDocument) Nat where
  document :=
    { document :=
        { nodes := List.replicate 2 (.ofTag "form" [("method", "post")])
          cookies := some "XSRF-TOKEN=t" }
      faults := fun call =>
        if call = .elementsWithAttribute then some ⟨"no query", 0, none⟩
        else if call = .appendHiddenInput then some ⟨"no input", 0, some 1⟩
        else none }
  page := { config := {} }

/-- Setting this page up warns twice, and looking at it does not. -/
theorem failures_reported_survey :
    List.Forall₂ Failure.ReportedBy
      [⟨.elementsWithAttribute, .document "no query"⟩, ⟨.appendHiddenInput, .document "no input"⟩]
      (Log.warnings ((perform .init).run survey).entries) ∧
    failures [.bindings] survey = [] ∧
    ∀ entry ∈ ((perform .bindings).run survey).entries, entry.level ≠ .warn := by
  have hfailures : failures [.init] survey =
      [⟨.elementsWithAttribute, .document "no query"⟩,
        ⟨.appendHiddenInput, .document "no input"⟩] := by
    decide +kernel
  obtain ⟨hwarnings, -, -⟩ := failures_reported .init survey
  obtain ⟨-, -, hquiet⟩ := failures_reported .bindings survey
  rw [hfailures] at hwarnings
  exact ⟨hwarnings, rfl, hquiet rfl⟩

end Session

end PageBehaviors
