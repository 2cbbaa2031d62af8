import PageBehaviors.Action
import PageBehaviors.Config.Basic
import PageBehaviors.Document.Basic

/-!
# Folding sections

A section is hidden exactly if it has the configured class; nothing else tells whether it is shown.
Folding and unfolding changes the class first and then the section's icon, if it has one.  If the
class cannot be changed, nothing is; if only the icon cannot be changed, the section has still been
folded.

## Main definitions

* `Section.Visibility` — shown or hidden.
* `Section.visibility?` — what a section is now.
* `Section.toggle` — flipping it.
-/

namespace PageBehaviors.Section

/-- Whether a section is shown. -/
inductive Visibility where
  | visible
  | hidden
  deriving DecidableEq, Repr

namespace Visibility

/-- The other one. -/
def flipped : Visibility → Visibility
  | visible => hidden
  | hidden => visible

/-- The written name. -/
def name : Visibility → String
  | visible => "Visible"
  | hidden => "Hidden"

@[simp] theorem flipped_flipped (v : Visibility) : v.flipped.flipped = v := by
  cases v <;> rfl

@[simp] theorem flipped_ne (v : Visibility) : v.flipped ≠ v := by
  cases v <;> decide

end Visibility

/-- The resource path of the icon that goes with a visibility. -/
def iconPath (config : ToggleConfig) : Visibility → String
  | .visible => config.expandedIcon
  | .hidden => config.collapsedIcon

variable {D E : Type} [Document D E]

/-- What an element of a document is now. -/
def visibilityOf (config : ToggleConfig) (document : D) (element : E) : Visibility :=
  if Document.hasClass document element config.hiddenClass then .hidden else .visible

/-- What the section with an id is now, if there is one. -/
def visibility? (config : ToggleConfig) (id : String) (document : D) : Option Visibility :=
  (Document.elementById document id).map (visibilityOf config document)

/-- Make an element visible or hidden. -/
def setVisibility (config : ToggleConfig) (element : E) :
    Visibility → StateM D (Except PageError Unit)
  | .visible => Document.removeClass element config.hiddenClass
  | .hidden => Document.addClass element config.hiddenClass

/-- Show the icon that goes with a section's visibility, if the section has an icon. -/
def updateIcon (config : ToggleConfig) (id : String) (visibility : Visibility) : Action D Unit := do
  match ← .read fun document : D => Document.elementById document (config.iconId id) with
  | none => pure ()
  | some icon =>
    match ← .call (Document.setAttribute icon "src" (resourceUrl (iconPath config visibility))) with
    | .ok () => pure ()
    | .error error =>
      .log .warn ("toggle: cannot update icon #" ++ config.iconId id ++ ": " ++ error.message)

/-- Flip the visibility of the section with an id.  The value is its new visibility, or none if
there is no such section or its class could not be changed. -/
def toggle (config : ToggleConfig) (id : String) : Action D (Option Visibility) := do
  match ← .read fun document : D => Document.elementById document id with
  | none =>
    .log .debug ("toggle: no element #" ++ id)
    pure none
  | some element =>
    let now ← .read fun document : D => visibilityOf config document element
    match ← .call (setVisibility config element now.flipped) with
    | .error error =>
      .log .warn ("toggle: cannot update #" ++ id ++ ": " ++ error.message)
      pure none
    | .ok () =>
      -- the icon's own failure is logged there and no longer stops the toggle
      updateIcon config id now.flipped
      .log .debug ("toggle: #" ++ id ++ " is now " ++ now.flipped.name)
      pure (some now.flipped)

end PageBehaviors.Section
