import PageBehaviors.Config.Basic
import PageBehaviors.Json.Record
import PageBehaviors.Json.Writer

/-!
# Settings as JSON

A configuration text is an object whose members are settings, or a list of settings in their order.
What it leaves out keeps its default.

## Main definitions

* `ToggleConfig.shape`, `XsrfConfig.shape`, `PageConfig.shape` — the fields of the settings.
* `PageConfig.ofJson` — reading a configuration.
* `PageConfig.toJson` — writing one.
-/

namespace PageBehaviors

open Json (Field Shape Token)

/-- The fields of the settings for sections. -/
def ToggleConfig.shape : Shape ToggleConfig where
  name := "ToggleConfig"
  fields := [
    .text "attribute" fun value config => { config with marker := value },
    .text "hidden_class" fun value config => { config with hiddenClass := value },
    .text "icon_suffix" fun value config => { config with iconSuffix := value },
    .text "expanded_icon" fun value config => { config with expandedIcon := value },
    .text "collapsed_icon" fun value config => { config with collapsedIcon := value }]

/-- The fields of the settings for the token. -/
def XsrfConfig.shape : Shape XsrfConfig where
  name := "XsrfConfig"
  fields := [
    .boolean "enabled" fun value config => { config with enabled := value },
    .text "cookie_name" fun value config => { config with cookieName := value },
    .text "field_name" fun value config => { config with fieldName := value }]

/-- The fields of the settings of a page. -/
def PageConfig.shape : Shape PageConfig where
  name := "PageConfig"
  fields := [
    .text "log_level" fun value config => { config with logLevel := value },
    .record "toggle" ToggleConfig.shape {} fun value config => { config with toggle := value },
    .record "xsrf" XsrfConfig.shape {} fun value config => { config with xsrf := value }]

/-- Read a configuration.  Its log level is looked at only after the whole text has been read. -/
def PageConfig.ofJson (text : String) : Except PageError PageConfig :=
  match shape.readAll {} text.toList with
  | .error failure => .error (.config (.ofFailure text.toList failure))
  | .ok config =>
    match config.level with
    | .error error => .error error
    | .ok _ => .ok config

/-- The tokens of the settings for sections. -/
def ToggleConfig.tokens (config : ToggleConfig) : List Token :=
  Json.objectTokens [
    ("attribute", [Json.stringToken config.marker]),
    ("hidden_class", [Json.stringToken config.hiddenClass]),
    ("icon_suffix", [Json.stringToken config.iconSuffix]),
    ("expanded_icon", [Json.stringToken config.expandedIcon]),
    ("collapsed_icon", [Json.stringToken config.collapsedIcon])]

/-- The tokens of the settings for the token. -/
def XsrfConfig.tokens (config : XsrfConfig) : List Token :=
  Json.objectTokens [
    ("enabled", [Json.booleanToken config.enabled]),
    ("cookie_name", [Json.stringToken config.cookieName]),
    ("field_name", [Json.stringToken config.fieldName])]

/-- The tokens of the settings of a page. -/
def PageConfig.tokens (config : PageConfig) : List Token :=
  Json.objectTokens [
    ("log_level", [Json.stringToken config.logLevel]),
    ("toggle", config.toggle.tokens),
    ("xsrf", config.xsrf.tokens)]

/-- Write a configuration, every setting included. -/
def PageConfig.toJson (config : PageConfig) : String :=
  Json.compact config.tokens

end PageBehaviors
