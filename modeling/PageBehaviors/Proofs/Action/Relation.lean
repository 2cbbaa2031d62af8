import PageBehaviors.Action

/-!
# Comparing actions, what they leave alone and what they write

Three kinds of statements about actions are put together along their sequencing.  Two actions are
*alike* if from related states they write the same lines and end in related states with related
values.  An action *keeps* a view of its state if the view is the same before and after.  An action
*writes* lines with a property if each of its lines has it.

## Main definitions

* `Action.CallsAgree`, `Action.Alike` — the comparison of two steps and of two actions, with
  `Alike.bind` for sequencing.
* `Action.Keeps` — a view that an action leaves alone, with `Keeps.bind` for sequencing.
* `Action.Writes` — a property of all lines of an action, with `Writes.bind` for sequencing.
-/

namespace PageBehaviors.Action

variable {σ τ α β γ δ ι : Type}

/-- Two silent steps answer alike from related states, and leave related states. -/
def CallsAgree (R : σ → τ → Prop) (Q : α → β → Prop) (step : StateM σ α) (other : StateM τ β) :
    Prop :=
  ∀ s t, R s t → Q (step.run s).1 (other.run t).1 ∧ R (step.run s).2 (other.run t).2

/-- Two steps agree if they do so in what they come down to. -/
theorem CallsAgree.of_run {R : σ → τ → Prop} {Q : α → β → Prop} {step : StateM σ α}
    {other : StateM τ β}
    (h : ∀ s t, R s t → ∃ v s' w t', step.run s = (v, s') ∧ other.run t = (w, t') ∧ Q v w ∧
      R s' t') : CallsAgree R Q step other := by
  intro s t related
  obtain ⟨v, s', w, t', hstep, hother, hvalue, hstate⟩ := h s t related
  rw [hstep, hother]
  exact ⟨hvalue, hstate⟩

/-- From related states, two actions write the same lines, end in related states, and have values
that are related by `Q`. -/
def Alike (R : σ → τ → Prop) (Q : α → β → Prop) (first : Action σ α) (second : Action τ β) : Prop :=
  ∀ s t, R s t → (first.run s).entries = (second.run t).entries ∧
    Q (first.run s).value (second.run t).value ∧ R (first.run s).state (second.run t).state

namespace Alike

variable {R : σ → τ → Prop}

theorem pure {Q : α → β → Prop} {v : α} {w : β} (h : Q v w) :
    Alike R Q (Pure.pure v) (Pure.pure w) :=
  fun _ _ related => ⟨rfl, h, related⟩

theorem log (level : Log.Level) (text : String) :
    Alike R Eq (Action.log level text) (Action.log level text) :=
  fun _ _ related => ⟨rfl, rfl, related⟩

theorem read {Q : α → β → Prop} {view : σ → α} {other : τ → β}
    (h : ∀ s t, R s t → Q (view s) (other t)) :
    Alike R Q (Action.read view) (Action.read other) :=
  fun s t related => ⟨rfl, h s t related, related⟩

theorem call {Q : α → β → Prop} {step : StateM σ α} {other : StateM τ β}
    (h : CallsAgree R Q step other) : Alike R Q (Action.call step) (Action.call other) :=
  fun s t related => ⟨rfl, h s t related⟩

/-- Sequencing: what follows is compared from related values on. -/
theorem bind {Q : α → β → Prop} {P : γ → δ → Prop} {first : Action σ α} {second : Action τ β}
    {next : α → Action σ γ} {other : β → Action τ δ} (h : Alike R Q first second)
    (hnext : ∀ v w, Q v w → Alike R P (next v) (other w)) :
    Alike R P (first >>= next) (second >>= other) := by
  intro s t related
  obtain ⟨entries, value, state⟩ := h s t related
  obtain ⟨entries', value', state'⟩ := hnext _ _ value _ _ state
  refine ⟨?_, value', state'⟩
  rw [entries_bind, entries_bind, entries, entries']

/-- Sequencing, where the first actions keep more than what is known in the end. -/
theorem bind_mono {S : σ → τ → Prop} {Q : α → β → Prop} {P : γ → δ → Prop} {first : Action σ α}
    {second : Action τ β} {next : α → Action σ γ} {other : β → Action τ δ}
    (himp : ∀ s t, S s t → R s t) (h : Alike S Q first second)
    (hnext : ∀ v w, Q v w → Alike R P (next v) (other w)) (s : σ) (t : τ) (related : S s t) :
    ((first >>= next).run s).entries = ((second >>= other).run t).entries ∧
      P ((first >>= next).run s).value ((second >>= other).run t).value ∧
      R ((first >>= next).run s).state ((second >>= other).run t).state := by
  obtain ⟨entries, value, state⟩ := h s t related
  obtain ⟨entries', value', state'⟩ := hnext _ _ value _ _ (himp _ _ state)
  refine ⟨?_, value', state'⟩
  rw [entries_bind, entries_bind, entries, entries']

/-- Sequencing after equal values. -/
theorem bind_eq {P : γ → δ → Prop} {first : Action σ α} {second : Action τ α}
    {next : α → Action σ γ} {other : α → Action τ δ} (h : Alike R Eq first second)
    (hnext : ∀ v, Alike R P (next v) (other v)) :
    Alike R P (first >>= next) (second >>= other) :=
  h.bind fun v _ heq => heq ▸ hnext v

end Alike

/-- A view of the state that an action leaves alone. -/
def Keeps (view : σ → ι) (action : Action σ α) : Prop :=
  ∀ s, view (action.run s).state = view s

namespace Keeps

variable {view : σ → ι}

theorem pure (v : α) : Keeps view (Pure.pure v) :=
  fun _ => rfl

theorem log (level : Log.Level) (text : String) : Keeps view (Action.log level text) :=
  fun _ => rfl

theorem read (f : σ → α) : Keeps view (Action.read f) :=
  fun _ => rfl

theorem call {step : StateM σ α} (h : ∀ s, view (step.run s).2 = view s) :
    Keeps view (Action.call step) :=
  h

theorem bind {action : Action σ α} {next : α → Action σ β} (h : Keeps view action)
    (hnext : ∀ v, Keeps view (next v)) : Keeps view (action >>= next) := by
  intro s
  rw [state_bind, hnext, h]

end Keeps

/-- Every line that an action writes has a property. -/
def Writes (P : Log.Entry → Prop) (action : Action σ α) : Prop :=
  ∀ s, ∀ entry ∈ (action.run s).entries, P entry

namespace Writes

variable {P : Log.Entry → Prop}

theorem pure (v : α) : Writes P (Pure.pure v : Action σ α) :=
  fun _ _ h => absurd h List.not_mem_nil

theorem read (view : σ → α) : Writes P (Action.read view) :=
  fun _ _ h => absurd h List.not_mem_nil

theorem call (step : StateM σ α) : Writes P (Action.call step) :=
  fun _ _ h => absurd h List.not_mem_nil

theorem log {level : Log.Level} {text : String} (h : P ⟨level, text⟩) :
    Writes P (Action.log level text : Action σ Unit) := by
  intro _ entry hentry
  rwa [List.mem_singleton.mp hentry]

theorem bind {action : Action σ α} {next : α → Action σ β} (h : Writes P action)
    (hnext : ∀ v, Writes P (next v)) : Writes P (action >>= next) := by
  intro s entry hentry
  rcases List.mem_append.mp hentry with hentry | hentry
  · exact h s entry hentry
  · exact hnext _ _ entry hentry

end Writes

end PageBehaviors.Action
