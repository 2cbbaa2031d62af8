import PageBehaviors.PageError
import PageBehaviors.Log

/-!
# Settings of a page

Every setting has a default, which serves pages that give no configuration.

## Main definitions

* `ToggleConfig` — names and icons of the sections that can be folded.
* `XsrfConfig` — where the forgery token comes from and where it goes.
* `PageConfig` — both, and the level from which on lines are logged.
* `ToggleConfig.iconId`, `resourceUrl` — names derived from the settings.
-/

namespace PageBehaviors

/-- Names and icons of the sections that can be folded. -/
structure ToggleConfig where
  /-- The attribute of a trigger; its value is the id of the section. -/
  marker : String := "showHide"
  /-- The class of hidden sections. -/
  hiddenClass : String := "hidden"
  /-- What follows a section's id in the id of its icon. -/
  iconSuffix : String := "Img"
  /-- The resource path of the icon of a visible section. -/
  expandedIcon : String := "bullets/minus.png"
  /-- The resource path of the icon of a hidden section. -/
  collapsedIcon : String := "bullets/plus.png"
  deriving DecidableEq, Repr

/-- Where the forgery token comes from and where it goes. -/
structure XsrfConfig where
  /-- Whether a page adds the token to its forms at all. -/
  enabled : Bool := true
  /-- The cookie that holds the token. -/
  cookieName : String := "XSRF-TOKEN"
  /-- The form field that carries the token back. -/
  fieldName : String := "X-XSRF-TOKEN"
  deriving DecidableEq, Repr

/-- The settings of a page. -/
structure PageConfig where
  /-- The name of the log level. -/
  logLevel : String := "info"
  toggle : ToggleConfig := {}
  xsrf : XsrfConfig := {}
  deriving DecidableEq, Repr

instance : Inhabited ToggleConfig := ⟨{}⟩

instance : Inhabited XsrfConfig := ⟨{}⟩

instance : Inhabited PageConfig := ⟨{}⟩

/-- The id of the icon that belongs to a section. -/
def ToggleConfig.iconId (config : ToggleConfig) (target : String) : String :=
  target ++ config.iconSuffix

/-- How a page refers to a resource of its server. -/
def resourceUrl (path : String) : String :=
  "?resource=" ++ path

/-- The configured log level. -/
def PageConfig.level (config : PageConfig) : Except PageError Log.Level :=
  match Log.Level.ofName? config.logLevel with
  | some level => .ok level
  | none => .error (.logLevel config.logLevel)

/-- Ids of icons are as different as the ids of their sections. -/
theorem ToggleConfig.iconId_injective (config : ToggleConfig) {first second : String}
    (h : config.iconId first = config.iconId second) : first = second :=
  (String.append_left_inj _).mp h

end PageBehaviors
