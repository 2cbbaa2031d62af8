import PageBehaviors.Proofs.Config.Meaning
import PageBehaviors.Proofs.Json.Writer

/-!
# Writing a configuration and reading it again

A configuration is written as an object that gives every setting once, under the name by which it
is read.  So the value that is written stands for the configuration it comes from, and reading
gives it back, whatever characters the settings hold.  Only a log level that names no level is
refused, and then it is the level that is reported.

## Main definitions and statements

* `ToggleConfig.toValue`, `XsrfConfig.toValue`, `PageConfig.toValue` — the values that are written.
* `PageConfig.spells_tokens`, `PageConfig.ofValue_toValue` — what is written is that value, and it
  stands for the configuration.
* `PageConfig.written_and_read` — what is read from what was written.
-/

namespace PageBehaviors

open Json

/-! ### The values that are written -/

/-- The settings for sections as a value. -/
def ToggleConfig.toValue (config : ToggleConfig) : Value :=
  .object [
    ("attribute", .string config.marker),
    ("hidden_class", .string config.hiddenClass),
    ("icon_suffix", .string config.iconSuffix),
    ("expanded_icon", .string config.expandedIcon),
    ("collapsed_icon", .string config.collapsedIcon)]

/-- The settings for the token as a value. -/
def XsrfConfig.toValue (config : XsrfConfig) : Value :=
  .object [
    ("enabled", .boolean config.enabled),
    ("cookie_name", .string config.cookieName),
    ("field_name", .string config.fieldName)]

/-- The settings of a page as a value. -/
def PageConfig.toValue (config : PageConfig) : Value :=
  .object [
    ("log_level", .string config.logLevel),
    ("toggle", config.toggle.toValue),
    ("xsrf", config.xsrf.toValue)]

theorem ToggleConfig.spells_tokens (config : ToggleConfig) :
    Spells config.toValue config.tokens :=
  spells_objectTokens <|
    .cons ⟨rfl, spells_stringToken _⟩ <| .cons ⟨rfl, spells_stringToken _⟩ <|
    .cons ⟨rfl, spells_stringToken _⟩ <| .cons ⟨rfl, spells_stringToken _⟩ <|
    .cons ⟨rfl, spells_stringToken _⟩ .nil

theorem XsrfConfig.spells_tokens (config : XsrfConfig) : Spells config.toValue config.tokens :=
  spells_objectTokens <|
    .cons ⟨rfl, .boolean⟩ <| .cons ⟨rfl, spells_stringToken _⟩ <|
    .cons ⟨rfl, spells_stringToken _⟩ .nil

/-- What is written for a configuration spells its value. -/
theorem PageConfig.spells_tokens (config : PageConfig) : Spells config.toValue config.tokens :=
  spells_objectTokens <|
    .cons ⟨rfl, spells_stringToken _⟩ <| .cons ⟨rfl, config.toggle.spells_tokens⟩ <|
    .cons ⟨rfl, config.xsrf.spells_tokens⟩ .nil

/-! ### The settings of these values -/

theorem ToggleConfig.ofValue_toValue (config : ToggleConfig) :
    ofValue config.toValue = some config := by
  have record : config.toValue.IsRecord fieldNames :=
    Value.isRecord_of_nodup (show fieldNames.Nodup by decide)
  rw [ofValue, if_pos record]
  rfl

theorem XsrfConfig.ofValue_toValue (config : XsrfConfig) :
    ofValue config.toValue = some config := by
  have record : config.toValue.IsRecord fieldNames :=
    Value.isRecord_of_nodup (show fieldNames.Nodup by decide)
  rw [ofValue, if_pos record]
  rfl

/-- The value that is written for a configuration stands for it. -/
theorem PageConfig.ofValue_toValue (config : PageConfig) :
    ofValue config.toValue = some config := by
  have record : config.toValue.IsRecord fieldNames :=
    Value.isRecord_of_nodup (show fieldNames.Nodup by decide)
  have toggle (initial : ToggleConfig) :
      config.toValue.field? fieldNames "toggle" ToggleConfig.ofValue initial =
        some config.toggle := config.toggle.ofValue_toValue
  have xsrf (initial : XsrfConfig) :
      config.toValue.field? fieldNames "xsrf" XsrfConfig.ofValue initial =
        some config.xsrf := config.xsrf.ofValue_toValue
  rw [ofValue, if_pos record, toggle, xsrf]
  rfl

/-! ### Reading what was written -/

namespace PageConfig

theorem ofJson_of_spacedText {config : PageConfig} {text : String}
    (h : SpacedText config.tokens text) : ofJson text = config.level.map fun _ => config :=
  ofJson_eq_of_ofValue_eq_some ⟨config.tokens, config.spells_tokens, h⟩ config.ofValue_toValue

theorem error_of_level {config : PageConfig} {error : PageError}
    (h : config.level = .error error) : error = .logLevel config.logLevel := by
  unfold level at h
  cases hname : Log.Level.ofName? config.logLevel with
  | some level => simp [hname] at h
  | none => simpa [hname] using h.symm

/-- A configuration that has been read names a log level. -/
theorem exists_level_of_ofJson {config : PageConfig} {text : String}
    (h : ofJson text = .ok config) : ∃ level, config.level = .ok level := by
  unfold ofJson at h
  cases hread : shape.readAll {} text.toList with
  | error failure => simp [hread] at h
  | ok read =>
      cases hlevel : read.level with
      | error error => simp [hread, hlevel] at h
      | ok level =>
          simp only [hread, hlevel, Except.ok.injEq] at h
          exact ⟨level, h ▸ hlevel⟩

/-- **A configuration that is written and read again** is the same, or else its log level is
reported; blanks between the tokens make no difference.  So writing and reading what has once been
read changes neither the configuration nor its text. -/
theorem written_and_read (config : PageConfig) :
    (∀ level, config.level = .ok level → ofJson config.toJson = .ok config) ∧
      (∀ error, config.level = .error error →
        ofJson config.toJson = .error (.logLevel config.logLevel)) ∧
      (∀ text, SpacedText config.tokens text → ofJson text = ofJson config.toJson) ∧
      ∀ text, ofJson text = .ok config →
        ofJson config.toJson = .ok config ∧
          (ofJson config.toJson).map toJson = .ok config.toJson := by
  have written : ofJson config.toJson = config.level.map fun _ => config :=
    ofJson_of_spacedText (spacedText_compact config.tokens)
  have accepted : ∀ level, config.level = .ok level → ofJson config.toJson = .ok config := by
    intro level hlevel
    rw [written, hlevel]
    rfl
  refine ⟨accepted, fun error herror => ?_, fun text spaced => ?_, fun text hread => ?_⟩
  · rw [written, herror, ← error_of_level herror]
    rfl
  · rw [written, ofJson_of_spacedText spaced]
  · obtain ⟨level, hlevel⟩ := exists_level_of_ofJson hread
    rw [accepted level hlevel]
    exact ⟨rfl, rfl⟩

/-- Settings with characters that have to be escaped, and one that need not be. -/
def escapedConfig : PageConfig where
  logLevel := "Debug"
  toggle := { marker := "\"a\\b/\x01\n\x7f😀" }

/-- These settings come back, also with blanks around them, and so does their text; a name that
stands for no level is reported. -/
theorem written_and_read_escaped :
    ofJson escapedConfig.toJson = .ok escapedConfig ∧
      ofJson { escapedConfig with logLevel := "off" }.toJson = .error (.logLevel "off") ∧
      ofJson (" " ++ escapedConfig.toJson ++ "\t") = .ok escapedConfig ∧
      (ofJson escapedConfig.toJson).map toJson = .ok escapedConfig.toJson := by
  obtain ⟨accepted, -, blanks, again⟩ := written_and_read escapedConfig
  obtain ⟨-, refused, -, -⟩ := written_and_read { escapedConfig with logLevel := "off" }
  have hread : ofJson escapedConfig.toJson = .ok escapedConfig := accepted .debug (by decide)
  have spaced : SpacedText escapedConfig.tokens (" " ++ escapedConfig.toJson ++ "\t") :=
    spacedText_surrounded (by decide) (by decide) _ _
  exact ⟨hread, refused _ rfl, (blanks _ spaced).trans hread, (again _ hread).2⟩

end PageConfig

end PageBehaviors
