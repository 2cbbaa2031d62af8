import PageBehaviors.Config.Json
import PageBehaviors.Proofs.Json.Record
import PageBehaviors.Proofs.Json.Writer

/-!
# The meaning of a configuration

Which settings a JSON value stands for is said here without any reader: each setting is what the
value gives for it, or else its default.  A configuration text has the settings of its value,
however the value is spelled, and is refused if the value stands for no settings or if the settings
name no log level.

## Main definitions and statements

* `ToggleConfig.ofValue`, `XsrfConfig.ofValue`, `PageConfig.ofValue` — the settings that a value
  stands for.
* `PageConfig.ofJson_of_denotes` — what is read from a text that stands for a value.
-/

namespace PageBehaviors

open Json

/-! ### Settings of a value -/

/-- The names of the settings for sections, in their order. -/
def ToggleConfig.fieldNames : List String :=
  ["attribute", "hidden_class", "icon_suffix", "expanded_icon", "collapsed_icon"]

/-- The settings for sections that a value stands for. -/
def ToggleConfig.ofValue (value : Value) : Option ToggleConfig :=
  let initial : ToggleConfig := {}
  if value.IsRecord fieldNames then do
    let marker ← value.field? fieldNames "attribute" Value.text? initial.marker
    let hiddenClass ← value.field? fieldNames "hidden_class" Value.text? initial.hiddenClass
    let iconSuffix ← value.field? fieldNames "icon_suffix" Value.text? initial.iconSuffix
    let expandedIcon ← value.field? fieldNames "expanded_icon" Value.text? initial.expandedIcon
    let collapsedIcon ← value.field? fieldNames "collapsed_icon" Value.text? initial.collapsedIcon
    return { marker, hiddenClass, iconSuffix, expandedIcon, collapsedIcon }
  else
    none

/-- The names of the settings for the token, in their order. -/
def XsrfConfig.fieldNames : List String :=
  ["enabled", "cookie_name", "field_name"]

/-- The settings for the token that a value stands for. -/
def XsrfConfig.ofValue (value : Value) : Option XsrfConfig :=
  let initial : XsrfConfig := {}
  if value.IsRecord fieldNames then do
    let enabled ← value.field? fieldNames "enabled" Value.boolean? initial.enabled
    let cookieName ← value.field? fieldNames "cookie_name" Value.text? initial.cookieName
    let fieldName ← value.field? fieldNames "field_name" Value.text? initial.fieldName
    return { enabled, cookieName, fieldName }
  else
    none

/-- The names of the settings of a page, in their order. -/
def PageConfig.fieldNames : List String :=
  ["log_level", "toggle", "xsrf"]

/-- The settings of a page that a value stands for. -/
def PageConfig.ofValue (value : Value) : Option PageConfig :=
  let initial : PageConfig := {}
  if value.IsRecord fieldNames then do
    let logLevel ← value.field? fieldNames "log_level" Value.text? initial.logLevel
    let toggle ← value.field? fieldNames "toggle" ToggleConfig.ofValue initial.toggle
    let xsrf ← value.field? fieldNames "xsrf" XsrfConfig.ofValue initial.xsrf
    return { logLevel, toggle, xsrf }
  else
    none

/-! ### The fields as slots -/

/-- The settings for sections as slots. -/
def ToggleConfig.slots : List (Slot ToggleConfig) := [
  .typed "attribute" Value.text? fun value config => { config with marker := value },
  .typed "hidden_class" Value.text? fun value config => { config with hiddenClass := value },
  .typed "icon_suffix" Value.text? fun value config => { config with iconSuffix := value },
  .typed "expanded_icon" Value.text? fun value config => { config with expandedIcon := value },
  .typed "collapsed_icon" Value.text? fun value config => { config with collapsedIcon := value }]

/-- The settings for the token as slots. -/
def XsrfConfig.slots : List (Slot XsrfConfig) := [
  .typed "enabled" Value.boolean? fun value config => { config with enabled := value },
  .typed "cookie_name" Value.text? fun value config => { config with cookieName := value },
  .typed "field_name" Value.text? fun value config => { config with fieldName := value }]

/-- The settings of a page as slots. -/
def PageConfig.slots : List (Slot PageConfig) := [
  .typed "log_level" Value.text? fun value config => { config with logLevel := value },
  .typed "toggle" (recordOf ToggleConfig.slots {}) fun value config =>
    { config with toggle := value },
  .typed "xsrf" (recordOf XsrfConfig.slots {}) fun value config => { config with xsrf := value }]

theorem ToggleConfig.follows : shape.Follows slots where
  fills :=
    .cons (Field.fills_text _ _) <| .cons (Field.fills_text _ _) <|
    .cons (Field.fills_text _ _) <| .cons (Field.fills_text _ _) <|
    .cons (Field.fills_text _ _) .nil
  independent := by
    simp only [Independent, slots, List.pairwise_cons, List.forall_mem_cons, List.not_mem_nil,
      false_implies, implies_true, and_true, List.Pairwise.nil]
    refine ⟨⟨?_, ?_, ?_, ?_⟩, ⟨?_, ?_, ?_⟩, ⟨?_, ?_⟩, ?_⟩ <;>
      exact Slot.apart_typed (by decide) fun _ _ _ => rfl

theorem XsrfConfig.follows : shape.Follows slots where
  fills :=
    .cons (Field.fills_boolean _ _) <| .cons (Field.fills_text _ _) <|
    .cons (Field.fills_text _ _) .nil
  independent := by
    simp only [Independent, slots, List.pairwise_cons, List.forall_mem_cons, List.not_mem_nil,
      false_implies, implies_true, and_true, List.Pairwise.nil]
    refine ⟨⟨?_, ?_⟩, ?_⟩ <;> exact Slot.apart_typed (by decide) fun _ _ _ => rfl

theorem PageConfig.follows : shape.Follows slots where
  fills :=
    .cons (Field.fills_text _ _) <| .cons (Field.fills_record ToggleConfig.follows _ _ _) <|
    .cons (Field.fills_record XsrfConfig.follows _ _ _) .nil
  independent := by
    simp only [Independent, slots, List.pairwise_cons, List.forall_mem_cons, List.not_mem_nil,
      false_implies, implies_true, and_true, List.Pairwise.nil]
    refine ⟨⟨?_, ?_⟩, ?_⟩ <;> exact Slot.apart_typed (by decide) fun _ _ _ => rfl

/-! ### The settings of a value are the record of the slots -/

theorem ToggleConfig.ofValue_eq (value : Value) : ofValue value = recordOf slots {} value := by
  unfold ofValue recordOf
  refine if_congr Iff.rfl ?_ rfl
  refine ((fill_typed rfl).trans (Option.bind_congr fun marker _ => ?_)).symm
  refine (fill_typed rfl).trans (Option.bind_congr fun hiddenClass _ => ?_)
  refine (fill_typed rfl).trans (Option.bind_congr fun iconSuffix _ => ?_)
  refine (fill_typed rfl).trans (Option.bind_congr fun expandedIcon _ => ?_)
  exact (fill_typed rfl).trans (Option.bind_congr fun collapsedIcon _ => rfl)

theorem XsrfConfig.ofValue_eq (value : Value) : ofValue value = recordOf slots {} value := by
  unfold ofValue recordOf
  refine if_congr Iff.rfl ?_ rfl
  refine ((fill_typed rfl).trans (Option.bind_congr fun enabled _ => ?_)).symm
  refine (fill_typed rfl).trans (Option.bind_congr fun cookieName _ => ?_)
  exact (fill_typed rfl).trans (Option.bind_congr fun fieldName _ => rfl)

theorem PageConfig.ofValue_eq (value : Value) : ofValue value = recordOf slots {} value := by
  unfold ofValue recordOf
  rw [funext ToggleConfig.ofValue_eq, funext XsrfConfig.ofValue_eq]
  refine if_congr Iff.rfl ?_ rfl
  refine ((fill_typed rfl).trans (Option.bind_congr fun logLevel _ => ?_)).symm
  refine (fill_typed rfl).trans (Option.bind_congr fun toggle _ => ?_)
  exact (fill_typed rfl).trans (Option.bind_congr fun xsrf _ => rfl)

/-! ### Log levels -/

namespace PageConfig

variable {config : PageConfig} {text : String} {value : Value}

theorem level_of_named (h : ∃ level : Log.Level, Text.sameIgnoringCase level.name config.logLevel) :
    ∃ level, config.level = .ok level := by
  obtain ⟨level, hname⟩ := h
  have hmem : level ∈ Log.Level.all := by cases level <;> decide
  have hsome : (Log.Level.ofName? config.logLevel).isSome :=
    List.find?_isSome.mpr ⟨level, hmem, hname⟩
  obtain ⟨found, hfound⟩ := Option.isSome_iff_exists.mp hsome
  exact ⟨found, by rw [PageConfig.level, hfound]⟩

theorem level_of_not_named
    (h : ¬ ∃ level : Log.Level, Text.sameIgnoringCase level.name config.logLevel) :
    config.level = .error (.logLevel config.logLevel) := by
  have hnone : Log.Level.ofName? config.logLevel = none :=
    List.find?_eq_none.mpr fun level _ hname => h ⟨level, hname⟩
  rw [PageConfig.level, hnone]

/-! ### Reading a configuration -/

theorem toOption_readAll (h : Denotes text value) :
    (shape.readAll {} text.toList).toOption = ofValue value := by
  rw [ofValue_eq, follows.toOption_readAll {} h]

/-- A text is refused if its value stands for no settings. -/
theorem exists_error_of_ofValue_eq_none (h : Denotes text value) (hvalue : ofValue value = none) :
    ∃ error, ofJson text = .error (.config error) := by
  have hread := toOption_readAll h
  rw [hvalue, Json.toOption_eq_none] at hread
  obtain ⟨failure, hfailure⟩ := hread
  refine ⟨.ofFailure text.toList failure, ?_⟩
  simp only [ofJson, hfailure]

/-- If its value stands for settings, all that matters is the log level. -/
theorem ofJson_eq_of_ofValue_eq_some (h : Denotes text value)
    (hvalue : ofValue value = some config) :
    ofJson text = config.level.map fun _ => config := by
  have hread := toOption_readAll h
  rw [hvalue, Json.toOption_eq_some] at hread
  simp only [ofJson, hread]
  cases config.level <;> rfl

/-- **The meaning of a configuration text** is that of its value, however the value is spelled: a
text whose value stands for no settings is refused, one whose settings name a log level gives just
these settings, and else it is the name of the level that is reported. -/
theorem ofJson_of_denotes (h : Denotes text value) :
    (ofValue value = none → ∃ error, ofJson text = .error (.config error)) ∧
      ∀ config, ofValue value = some config →
        ((∃ level : Log.Level, Text.sameIgnoringCase level.name config.logLevel) →
          ofJson text = .ok config) ∧
        ((¬ ∃ level : Log.Level, Text.sameIgnoringCase level.name config.logLevel) →
          ofJson text = .error (.logLevel config.logLevel)) := by
  refine ⟨exists_error_of_ofValue_eq_none h, fun config hvalue => ?_⟩
  refine ⟨fun named => ?_, fun hnone => ?_⟩
  · obtain ⟨level, hlevel⟩ := level_of_named named
    rw [ofJson_eq_of_ofValue_eq_some h hvalue, hlevel]
    rfl
  · rw [ofJson_eq_of_ofValue_eq_some h hvalue, level_of_not_named hnone]
    rfl

/-- Settings with an escaped name, next to a member that is no setting and is given twice. -/
def themeText : String :=
  " \x7b\"xsrf\":[false],\"\\u006Cog_level\":\"wArN\"," ++
    "\"theme\":\x7b\"toggle\":[1.5E-3,null]\x7d,\"theme\":\"\\ud83d\\uDE00\"\x7d\n"

/-- Its value. -/
def themeValue : Value :=
  .object [
    ("xsrf", .array [.boolean false]),
    ("log_level", .string "wArN"),
    ("theme", .object [
      ("toggle", .array [.number ⟨false, ['1'], ['5'], some (true, ['3'])⟩, .null])]),
    ("theme", .string "😀")]

theorem themeText_denotes : Denotes themeText themeValue := by
  have small : FourHexDigits 0x6c ['0', '0', '6', 'C'] :=
    @FourHexDigits.mk 0 0 6 12 _ _ _ _ (by decide) (by decide) (by decide) (by decide)
  have high : FourHexDigits 0xd83d ['d', '8', '3', 'd'] :=
    @FourHexDigits.mk 13 8 3 13 _ _ _ _ (by decide) (by decide) (by decide) (by decide)
  have low : FourHexDigits 0xde00 ['D', 'E', '0', '0'] :=
    @FourHexDigits.mk 13 14 0 0 _ _ _ _ (by decide) (by decide) (by decide) (by decide)
  have key : Quotes "log_level" ('"' :: "\\u006Cog_level\"".toList) :=
    ⟨_, .code (.single small (by decide)) (characters_flatMap_escapedChar "og_level".toList), rfl⟩
  have pair := CodePoint.pair high (by decide) low (by decide)
  rw [show Char.ofNat (0x10000 + (0xd83d - 0xd800) * 0x400 + (0xde00 - 0xdc00)) = '😀' by decide]
    at pair
  have smile : Quotes "😀" ('"' :: "\\ud83d\\uDE00\"".toList) := ⟨_, .code pair .nil, rfl⟩
  have number : Numeral.Spelled ⟨false, ['1'], ['5'], some (true, ['3'])⟩ "1.5E-3".toList :=
    ⟨['.', '5'], ['E', '-', '3'], Or.inr ⟨by decide, by decide⟩, .present (by decide),
      .present (Or.inr rfl) .minus (by decide), rfl⟩
  have spells : Spells themeValue _ :=
    .object
      (.cons (quotes_stringToken "xsrf") <| .cons key <| .cons (quotes_stringToken "theme") <|
        .cons (quotes_stringToken "theme") .nil)
      (.cons (.array (.cons .boolean .nil)) <| .cons (spells_stringToken "wArN") <|
        .cons
          (.object (.cons (quotes_stringToken "toggle") .nil)
            (.cons (.array (.cons (.number number) (.cons .null .nil))) .nil)) <|
        .cons (.string smile) .nil)
  exact ⟨_, spells, ['\n'], by decide, .token (show Blank [' '] by decide) (spaced_flatten _ _)⟩

/-- These settings are read, and a list whose first setting is no string is refused. -/
theorem ofJson_of_denotes_theme :
    ofJson themeText = .ok { logLevel := "wArN", xsrf := { enabled := false } } ∧
      ∃ error, ofJson "[null]" = .error (.config error) := by
  have list : Denotes "[null]" (.array [.null]) :=
    ⟨_, .array (.cons .null .nil), spacedText_compact _⟩
  exact ⟨((ofJson_of_denotes themeText_denotes).2 _ rfl).1 ⟨.warn, by decide⟩,
    (ofJson_of_denotes list).1 rfl⟩

end PageConfig

end PageBehaviors
