import PageBehaviors.Section.Visibility

/-!
# Triggers and the sections they fold

Any element may carry the marker attribute; its value is the id of the section that a click on the
element folds.  Sections are bound by id and looked up at each click, so a section that appears
later is folded all the same.

## Main definitions

* `Section.Binding` — a trigger and the ids it works on.
* `Section.discover` — the bindings of a document.
-/

namespace PageBehaviors.Section

/-- A trigger and the ids it works on. -/
structure Binding (E : Type) where
  /-- The element to be clicked. -/
  trigger : E
  /-- The id of the section. -/
  target : String
  /-- The id of the section's icon. -/
  icon : String
  deriving DecidableEq, Repr

variable {D E : Type} [Document D E]

/-- The binding of a trigger, unless its marker is gone or empty. -/
def bind? (config : ToggleConfig) (trigger : E) : Action D (Option (Binding E)) := do
  match ← .call (Document.attributeOf trigger config.marker : StateM D _) with
  | none => pure none
  | some target =>
    if target = "" then
      .log .debug ("toggle: skipping trigger with empty " ++ config.marker)
      pure none
    else
      pure (some ⟨trigger, target, config.iconId target⟩)

/-- The bindings of a list of triggers, in their order. -/
def bindAll (config : ToggleConfig) : List E → Action D (List (Binding E))
  | [] => pure []
  | trigger :: triggers => do
    let first ← bind? config trigger
    let others ← bindAll config triggers
    pure (first.toList ++ others)

/-- The bindings of a document, in document order. -/
def discover (config : ToggleConfig) : Action D (List (Binding E)) := do
  match ← .call (Document.elementsWithAttribute config.marker : StateM D _) with
  | .error error =>
    .log .warn ("toggle: cannot query [" ++ config.marker ++ "] triggers: " ++ error.message)
    pure []
  | .ok triggers => bindAll config triggers

end PageBehaviors.Section
