/-!
# Letter case and blanks of ASCII

Names of levels, tags, attributes and methods are compared without regard to the case of the ASCII
letters; every other character stands for itself.  Class lists are cut at the five blanks that
HTML knows.

## Main definitions

* `Text.lower` — a text with its ASCII capitals made small.
* `Text.sameIgnoringCase` — equality up to the case of ASCII letters.
* `Text.isBlank` — tab, line feed, form feed, carriage return and space.
-/

namespace PageBehaviors.Text

/-- A text with its ASCII capitals made small and every other character kept. -/
def lower (s : String) : String :=
  String.ofList (s.toList.map Char.toLower)

@[simp] theorem toList_lower (s : String) : (lower s).toList = s.toList.map Char.toLower :=
  String.toList_ofList

/-- Small letters stay as they are. -/
@[simp] theorem lower_lower (s : String) : lower (lower s) = lower s := by
  have hchar (c : Char) : c.toLower.toLower = c.toLower := by
    unfold Char.toLower
    split
    · rw [dif_neg]
      grind
    · rfl
  rw [lower, toList_lower, List.map_map, lower]
  simp only [Function.comp_def, hchar]

/-- Whether two texts differ at most in the case of their ASCII letters. -/
def sameIgnoringCase (s t : String) : Bool :=
  lower s == lower t

theorem sameIgnoringCase_iff {s t : String} :
    sameIgnoringCase s t = true ↔ lower s = lower t :=
  beq_iff_eq

/-- The blanks that separate the classes of a class list. -/
def isBlank (c : Char) : Bool :=
  c == ' ' || c == '\t' || c == '\n' || c == '\x0c' || c == '\r'

end PageBehaviors.Text
