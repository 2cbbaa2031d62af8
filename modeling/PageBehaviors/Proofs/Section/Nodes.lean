import PageBehaviors.Proofs.Document.Nodes
import PageBehaviors.Proofs.Document.Recorded
import PageBehaviors.Proofs.Section.Toggle

/-!
# Toggles in a list of nodes

Over a list of nodes whose calls may fail, the five ways of a toggle become five pairs of lists: the
class is changed or not, and the source of the icon is written or not.  The calls that failed tell
the ways apart, and a failing call changes nothing.

## Main definitions and statements

* `MemoryDocument.Toggled` — the result of a toggle, the nodes it leaves and the calls that failed.
* `Section.toggle_nodes` — a toggle has such a result, whatever fails.
* `MemoryDocument.Toggled.visibility?_eq`, `MemoryDocument.Toggled.visibility?_before` — what is
  seen of a section afterwards and before.
-/

namespace PageBehaviors

open Section (Visibility visibilityOf visibility? iconPath)

/-- The call that makes an element visible or hidden. -/
def Section.classCall : Visibility → Unreliable.Call
  | .visible => .removeClass
  | .hidden => .addClass

/-- The result of a toggle in a list of nodes, the nodes it leaves and the calls that failed. -/
inductive MemoryDocument.Toggled (config : ToggleConfig) (id : String) (before : MemoryDocument) :
    Option Visibility → MemoryDocument → List Unreliable.Call → Prop
  /-- There is no such section. -/
  | absent (gone : Document.elementById before id = none) : Toggled config id before none before []
  /-- The class of the section could not be changed. -/
  | refused {place : Nat} {next : Visibility}
      (found : Document.elementById before id = some place)
      (flip : next = (visibilityOf config before place).flipped) :
      Toggled config id before none before [Section.classCall next]
  /-- The class was changed, and the section has no icon. -/
  | plain {place : Nat} {next : Visibility}
      (found : Document.elementById before id = some place)
      (flip : next = (visibilityOf config before place).flipped)
      (noIcon : Document.elementById before (config.iconId id) = none) :
      Toggled config id before (some next) (before.setVisibility config.hiddenClass place next) []
  /-- The class was changed, and the icon with it. -/
  | iconWritten {place icon : Nat} {next : Visibility}
      (found : Document.elementById before id = some place)
      (flip : next = (visibilityOf config before place).flipped)
      (foundIcon : Document.elementById before (config.iconId id) = some icon) :
      Toggled config id before (some next)
        ((before.setVisibility config.hiddenClass place next).setSource icon
          (resourceUrl (iconPath config next))) []
  /-- The class was changed, but the icon could not be. -/
  | iconRefused {place icon : Nat} {next : Visibility}
      (found : Document.elementById before id = some place)
      (flip : next = (visibilityOf config before place).flipped)
      (foundIcon : Document.elementById before (config.iconId id) = some icon) :
      Toggled config id before (some next) (before.setVisibility config.hiddenClass place next)
        [.setAttribute]

/-! ### The calls of a toggle -/

/-- Making a node visible or hidden, as far as the document allows changes of classes. -/
theorem MemoryDocument.run_setVisibility (config : ToggleConfig) (place : Nat)
    (visibility : Visibility) (document : MemoryDocument) :
    (Section.setVisibility config place visibility).run document =
      if document.classesReadOnly then
        (.error (.document "class list is read-only"), document)
      else (.ok (), document.setVisibility config.hiddenClass place visibility) := by
  cases visibility with
  | visible => rfl
  | hidden => rfl

namespace Unreliable

/-- A call that works and makes a change, or fails and changes nothing. -/
def Makes {D : Type} (change : D → D) (step : StateM (Unreliable D) (Except PageError Unit)) :
    Prop :=
  ∀ whole, (∃ error, (step.run whole).1 = .error error ∧
      (step.run whole).2.document = whole.document) ∨
    (step.run whole).1 = .ok () ∧ (step.run whole).2.document = change whole.document

/-- A counted call is refused and changes nothing, or it is the call of the document itself. -/
theorem run_attempt {D α : Type} (call : Call) (refuse : String → α) (step : StateM D α)
    (whole : Unreliable D) :
    (∃ message, ((attempt call refuse step).run whole).1 = refuse message ∧
        ((attempt call refuse step).run whole).2.document = whole.document) ∨
      ((attempt call refuse step).run whole).1 = (step.run whole.document).1 ∧
        ((attempt call refuse step).run whole).2.document = (step.run whole.document).2 := by
  cases hfault : whole.faults.failure? call with
  | none =>
      rw [run_attempt_of_none hfault]
      exact Or.inr ⟨rfl, rfl⟩
  | some message =>
      rw [run_attempt_of_some hfault]
      exact Or.inl ⟨message, rfl, rfl⟩

/-- A guarded call fails and changes nothing, or it is the call of the document itself. -/
theorem run_guarded {D α : Type} (call : Call) (step : StateM D (Except PageError α))
    (whole : Unreliable D) :
    (∃ error, ((guarded call step).run whole).1 = .error error ∧
        ((guarded call step).run whole).2.document = whole.document) ∨
      ((guarded call step).run whole).1 = (step.run whole.document).1 ∧
        ((guarded call step).run whole).2.document = (step.run whole.document).2 := by
  rcases run_attempt call (fun message => .error (.document message)) step whole with
    ⟨message, hvalue, hdocument⟩ | h
  · exact Or.inl ⟨_, hvalue, hdocument⟩
  · exact Or.inr h

theorem run_setVisibility {D E : Type} [Document D E] (config : ToggleConfig) (element : E)
    (visibility : Visibility) (whole : Unreliable D) :
    (Section.setVisibility config element visibility).run whole =
      (guarded (Section.classCall visibility)
        (Section.setVisibility config element visibility)).run whole := by
  cases visibility with
  | visible => rfl
  | hidden => rfl

theorem makes_setVisibility (config : ToggleConfig) (place : Nat) (visibility : Visibility) :
    Makes (MemoryDocument.setVisibility config.hiddenClass place visibility)
      (Section.setVisibility config place visibility) := by
  intro whole
  rw [run_setVisibility]
  rcases run_guarded (Section.classCall visibility)
    (Section.setVisibility config place visibility) whole with ⟨error, h⟩ | ⟨hvalue, hdocument⟩
  · exact Or.inl ⟨error, h⟩
  · rw [MemoryDocument.run_setVisibility] at hvalue hdocument
    split at hvalue
    · next h => exact Or.inl ⟨_, hvalue, by rw [hdocument, if_pos h]⟩
    · next h => exact Or.inr ⟨hvalue, by rw [hdocument, if_neg h]⟩

theorem makes_setSource (place : Nat) (value : String) :
    Makes (MemoryDocument.setSource place value) (Document.setAttribute place "src" value) :=
  run_guarded .setAttribute (Document.setAttribute place "src" value)

end Unreliable

namespace Recorded

theorem run_setVisibility {D E : Type} [Document D E] (config : ToggleConfig) (element : E)
    (visibility : Visibility) (whole : Recorded D) :
    (Section.setVisibility config element visibility).run whole =
      (note (Section.classCall visibility)
        (Section.setVisibility config element visibility)).run whole := by
  cases visibility with
  | visible => rfl
  | hidden => rfl

variable {D : Type} {change : D → D} {step : StateM (Unreliable D) (Except PageError Unit)}
variable {call : Unreliable.Call} {whole after : Recorded (Unreliable D)}

/-- A recorded call that worked made its change, and nothing was written down. -/
theorem eq_of_run_note_ok (makes : Unreliable.Makes change step)
    (h : (note call step).run whole = (.ok (), after)) :
    after.document.document = change whole.document.document ∧
      after.failures = whole.failures := by
  rw [run_note] at h
  obtain ⟨hvalue, rfl⟩ := Prod.mk.inj h
  rcases makes whole.document with ⟨error, herror, -⟩ | ⟨-, hdocument⟩
  · rw [herror] at hvalue
    cases hvalue
  · rw [hvalue]
    exact ⟨hdocument, by simp [failuresOf]⟩

/-- A recorded call that failed changed nothing, and that it failed was written down. -/
theorem eq_of_run_note_error (makes : Unreliable.Makes change step) {error : PageError}
    (h : (note call step).run whole = (.error error, after)) :
    after.document.document = whole.document.document ∧
      after.failures = whole.failures ++ [⟨call, error⟩] := by
  rw [run_note] at h
  obtain ⟨hvalue, rfl⟩ := Prod.mk.inj h
  rcases makes whole.document with ⟨_, -, hdocument⟩ | ⟨hok, -⟩
  · rw [hvalue]
    exact ⟨hdocument, rfl⟩
  · rw [hok] at hvalue
    cases hvalue

end Recorded

namespace Section

variable {config : ToggleConfig} {place : Nat} {whole after : Recorded (Unreliable MemoryDocument)}

theorem eq_of_setVisibility_ok {visibility : Visibility}
    (h : (setVisibility config place visibility).run whole = (.ok (), after)) :
    after.document.document =
        whole.document.document.setVisibility config.hiddenClass place visibility ∧
      after.failures = whole.failures := by
  rw [Recorded.run_setVisibility] at h
  exact Recorded.eq_of_run_note_ok (Unreliable.makes_setVisibility config place visibility) h

theorem eq_of_setVisibility_error {visibility : Visibility} {error : PageError}
    (h : (setVisibility config place visibility).run whole = (.error error, after)) :
    after.document.document = whole.document.document ∧
      after.failures = whole.failures ++ [⟨classCall visibility, error⟩] := by
  rw [Recorded.run_setVisibility] at h
  exact Recorded.eq_of_run_note_error (Unreliable.makes_setVisibility config place visibility) h

/-- A toggle of recorded nodes: the inversion `toggle_toggled`, read call by call. -/
theorem toggle_recorded (config : ToggleConfig) (id : String)
    (whole : Unreliable MemoryDocument) :
    MemoryDocument.Toggled config id whole.document
      ((toggle config id).run (Recorded.mk whole [])).value
      ((toggle config id).run (Recorded.mk whole [])).state.document.document
      (((toggle config id).run (Recorded.mk whole [])).state.failures.map Failure.call) := by
  have toggled := toggle_toggled config id (Recorded.mk whole [])
  generalize (toggle config id).run (Recorded.mk whole []) = outcome at toggled ⊢
  cases toggled with
  | absent gone => exact .absent gone
  | @refused place next error after found flip changed =>
      obtain ⟨hafter, hfailures⟩ := eq_of_setVisibility_error changed
      rw [hafter, hfailures]
      exact .refused found flip
  | @plain place next after found flip changed noIcon =>
      obtain ⟨hafter, hfailures⟩ := eq_of_setVisibility_ok changed
      have noIcon : Document.elementById after.document.document (config.iconId id) = none := noIcon
      rw [hafter, MemoryDocument.elementById_setVisibility] at noIcon
      rw [hafter, hfailures]
      exact .plain found flip noIcon
  | @iconWritten place icon next after last found flip changed foundIcon written =>
      obtain ⟨hafter, hfailures⟩ := eq_of_setVisibility_ok changed
      obtain ⟨hlast, hfailures'⟩ :=
        Recorded.eq_of_run_note_ok (Unreliable.makes_setSource icon _) written
      have foundIcon : Document.elementById after.document.document (config.iconId id) =
        some icon := foundIcon
      rw [hafter, MemoryDocument.elementById_setVisibility] at foundIcon
      rw [hlast, hafter, hfailures', hfailures]
      exact .iconWritten found flip foundIcon
  | @iconRefused place icon next error after last found flip changed foundIcon written =>
      obtain ⟨hafter, hfailures⟩ := eq_of_setVisibility_ok changed
      obtain ⟨hlast, hfailures'⟩ :=
        Recorded.eq_of_run_note_error (Unreliable.makes_setSource icon _) written
      have foundIcon : Document.elementById after.document.document (config.iconId id) =
        some icon := foundIcon
      rw [hafter, MemoryDocument.elementById_setVisibility] at foundIcon
      rw [hlast, hafter, hfailures', hfailures]
      exact .iconRefused found flip foundIcon

/-- **A toggle in a list of nodes**, whatever calls fail: its result, the nodes it leaves and the
calls that failed. -/
theorem toggle_nodes (config : ToggleConfig) (id : String) (whole : Unreliable MemoryDocument) :
    MemoryDocument.Toggled config id whole.document
      ((toggle config id).run whole).value
      ((toggle config id).run whole).state.document
      (((toggle config id).run (Recorded.mk whole [])).state.failures.map Failure.call) := by
  obtain ⟨-, hvalue, hdocument⟩ :=
    (Recorded.simulation_forget { toggle := config }).toggle id (Recorded.mk whole []) whole rfl
  have toggled := toggle_recorded config id whole
  rw [hdocument, hvalue] at toggled
  exact toggled

end Section

/-! ### What is seen after a toggle -/

namespace MemoryDocument

section

variable (config : ToggleConfig) (document : MemoryDocument)

theorem visibility?_setVisibility {place : Nat} (h : place < document.nodes.length)
    (visibility : Visibility) (id : String) :
    visibility? config id (document.setVisibility config.hiddenClass place visibility) =
      if Document.elementById document id = some place then some visibility
      else visibility? config id document := by
  rw [Section.visibility?, Section.visibility?, elementById_setVisibility]
  cases Document.elementById document id with
  | none => rfl
  | some other =>
      have hclass := document.hasClass_setVisibility h config.hiddenClass visibility other
        config.hiddenClass
      by_cases hother : other = place
      · subst hother
        cases visibility <;> simp [visibilityOf, hclass]
      · simp [visibilityOf, hclass, hother]

theorem visibility?_setSource (place : Nat) (source id : String) :
    visibility? config id (document.setSource place source) = visibility? config id document := by
  rw [Section.visibility?, Section.visibility?, elementById_setSource]
  cases Document.elementById document id with
  | none => rfl
  | some other => simp [visibilityOf]

/-- What a document shows of its sections tells which of them are visible. -/
theorem visibility?_congr {other : MemoryDocument} (h : document.facade = other.facade)
    (id : String) : visibility? config id document = visibility? config id other := by
  have hid := congrFun (congrArg Facade.elementById h) id
  have hclass := congrArg Facade.hasClass h
  simp only [facade] at hid hclass
  rw [Section.visibility?, Section.visibility?, hid]
  unfold visibilityOf
  rw [hclass]

end

namespace Toggled

variable {config : ToggleConfig} {id : String} {before after : MemoryDocument}
variable {failed : List Unreliable.Call}

/-- A toggle changes no lookup. -/
theorem elementById_eq {value : Option Visibility} (h : Toggled config id before value after failed)
    (other : String) :
    Document.elementById after other = Document.elementById before other := by
  cases h <;> simp

/-- A toggle without a result changes nothing. -/
theorem eq_of_none (h : Toggled config id before none after failed) : after = before := by
  cases h with
  | absent => rfl
  | refused => rfl

/-- What every toggle with a result does to the visibility of any section: its own takes on the
result, the others stay. -/
theorem visibility?_of_some {next : Visibility}
    (h : Toggled config id before (some next) after failed) (other : String) :
    visibility? config other after =
      if other = id then some next else visibility? config other before := by
  have key : ∀ {place}, Document.elementById before id = some place →
      visibility? config other (before.setVisibility config.hiddenClass place next) =
        if other = id then some next else visibility? config other before := by
    intro place found
    rw [visibility?_setVisibility config before (lt_length_of_elementById found)]
    by_cases hother : other = id
    · rw [if_pos hother, if_pos (hother ▸ found)]
    · rw [if_neg hother, if_neg fun hfound => hother (elementById_injective hfound found)]
  cases h with
  | plain found => exact key found
  | iconWritten found => rw [visibility?_setSource, key found]
  | iconRefused found => exact key found

/-- What is seen of a section after a toggle: the result, if it was its own and it had one. -/
theorem visibility?_eq {value : Option Visibility}
    (h : Toggled config id before value after failed) (other : String) :
    visibility? config other after =
      (if other = id then value else none).or (visibility? config other before) := by
  cases value with
  | none => rw [h.eq_of_none, ite_self, Option.none_or]
  | some next =>
      rw [h.visibility?_of_some other]
      split
      · rfl
      · rfl

/-- The result of a toggle is the flip of what was seen before. -/
theorem visibility?_before {next : Visibility}
    (h : Toggled config id before (some next) after failed) :
    visibility? config id before = some next.flipped := by
  have key : ∀ {place}, Document.elementById before id = some place →
      next = (visibilityOf config before place).flipped →
      visibility? config id before = some next.flipped := by
    intro place found flip
    rw [Section.visibility?, found, flip, Section.Visibility.flipped_flipped]
    rfl
  cases h with
  | plain found flip => exact key found flip
  | iconWritten found flip => exact key found flip
  | iconRefused found flip => exact key found flip

/-- The sources after a toggle that could write the icon of its section: that icon, if there is one,
shows the result, and no other source has changed. -/
theorem source_of_some {next : Visibility} (h : Toggled config id before (some next) after failed)
    (written : .setAttribute ∉ failed) (place : Nat) :
    after.attribute? place "src" =
      if Document.elementById before (config.iconId id) = some place then
        some (resourceUrl (iconPath config next))
      else before.attribute? place "src" := by
  cases h with
  | plain found flip noIcon => simp [noIcon]
  | @iconWritten node icon _ found flip foundIcon =>
      have hlt : icon < (before.setVisibility config.hiddenClass node next).nodes.length := by
        rw [length_nodes_setVisibility]
        exact lt_length_of_elementById foundIcon
      rw [attribute?_setSource _ hlt, attribute?_setVisibility, foundIcon]
      by_cases hplace : place = icon
      · rw [if_pos hplace, if_pos (congrArg some hplace.symm)]
      · rw [if_neg hplace, if_neg fun h => hplace (Option.some.inj h).symm]
  | iconRefused => exact absurd List.mem_cons_self written

end Toggled

end MemoryDocument

end PageBehaviors
