import PageBehaviors.Config.Json
import PageBehaviors.Proofs.Json.Strict

/-!
# Malformed configurations

A text that is not JSON is refused as such, wherever it goes wrong: before, within or after the
settings, and also within a member that no setting is read from.  The settings that have been read
by then do not matter, not even a log level that does not exist, because the level is looked at
only in a text that has been read to its end.

## Main statements

* `PageConfig.isStrict_shape` — every setting is read from a value.
* `PageConfig.ofJson_of_not_isText` — texts that are not JSON are refused.
-/

namespace PageBehaviors

open Json (Field Shape)

theorem ToggleConfig.isStrict_shape : shape.IsStrict := by
  intro field hfield
  simp only [shape, List.mem_cons, List.not_mem_nil, or_false] at hfield
  rcases hfield with rfl | rfl | rfl | rfl | rfl <;> exact Field.isStrict_text _ _

theorem XsrfConfig.isStrict_shape : shape.IsStrict := by
  intro field hfield
  simp only [shape, List.mem_cons, List.not_mem_nil, or_false] at hfield
  rcases hfield with rfl | rfl | rfl
  · exact Field.isStrict_boolean _ _
  · exact Field.isStrict_text _ _
  · exact Field.isStrict_text _ _

/-- Every setting is read from a value. -/
theorem PageConfig.isStrict_shape : shape.IsStrict := by
  intro field hfield
  simp only [shape, List.mem_cons, List.not_mem_nil, or_false] at hfield
  rcases hfield with rfl | rfl | rfl
  · exact Field.isStrict_text _ _
  · exact ToggleConfig.isStrict_shape.isStrict_record _ _ _
  · exact XsrfConfig.isStrict_shape.isStrict_record _ _ _

namespace PageConfig

/-- **Malformed configurations**: a text that is not JSON is refused as such, never for its log
level. -/
theorem ofJson_of_not_isText {text : String} (h : ¬ Json.IsText text) :
    ∃ error, ofJson text = .error (.config error) := by
  cases hread : shape.readAll {} text.toList with
  | error failure =>
      refine ⟨.ofFailure text.toList failure, ?_⟩
      rw [ofJson, hread]
  | ok config => exact absurd (isStrict_shape.isText_of_readAll {} hread) h

/-- An unknown log level before a list that breaks off, in a member that no setting is read from. -/
theorem ofJson_of_broken_off :
    ¬ Json.IsText "\x7b\"log_level\":\"off\",\"x\":[1," ∧
      ∃ error, ofJson "\x7b\"log_level\":\"off\",\"x\":[1," = .error (.config error) := by
  have broken : ¬ Json.IsText "\x7b\"log_level\":\"off\",\"x\":[1," := by
    intro h
    obtain ⟨c, hc, hlast⟩ := h.exists_getLast?_eq
    obtain rfl : ',' = c := Option.some.inj hc
    exact absurd hlast (by decide)
  exact ⟨broken, ofJson_of_not_isText broken⟩

end PageConfig

end PageBehaviors
