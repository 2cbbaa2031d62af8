import PageBehaviors.Browser.Element
import PageBehaviors.Proofs.Section.Nodes
import PageBehaviors.Proofs.Text.Token

/-!
# Elements of a browser and nodes of a list

An element keeps its attributes under small letters and its classes in one of them; a node keeps
its attributes as they are written and its classes apart.  This file says when the two are the same
to a page, and that the changes a page makes keep them so.

Two things could tell them apart.  Names of attributes that differ in the case of letters only are
one name to an element; so the names in use must not be confused by small letters.  And classes are
read from a text; so a class must be a token.

## Main definitions and statements

* `Browser.Unconfused` — names that stay different in small letters.
* `Browser.Element.Renders` — an element that is the same to a page as a node.
* `Browser.Element.Renders.setAttribute`, `Browser.Element.Renders.setVisibility` — the changes of
  a page.
-/

namespace PageBehaviors.Browser

open Section (Visibility classesWith classesWith_visible classesWith_hidden)

/-- Names that stay different when their letters are made small. -/
def Unconfused (names : List String) : Prop :=
  ∀ name ∈ names, ∀ other ∈ names, Text.lower name = Text.lower other → name = other

instance (names : List String) : Decidable (Unconfused names) :=
  inferInstanceAs (Decidable (∀ name ∈ names, ∀ other ∈ names,
    Text.lower name = Text.lower other → name = other))

namespace Element

/-! ### Reading and writing -/

@[simp] theorem attributes_set (element : Element) (name value : String) :
    (element.set name value).attributes = element.attributes.set (element.key name) value :=
  rfl

theorem get?_set {element : Element} (html : element.svg = false) (name value other : String) :
    (element.set name value).get? other =
      if Text.lower other = Text.lower name then some value else element.get? other := by
  have hset : (element.set name value).svg = false := html
  rw [get?, get?, key_of_html hset, key_of_html html, attributes_set, key_of_html html,
    Attributes.get?_set]

/-- A name in small letters is kept as it is by elements of every kind. -/
theorem key_of_lower {name : String} (h : Text.lower name = name) (element : Element) :
    element.key name = name := by
  rw [key, h, ite_self]

/-- Reading and writing under names in small letters. -/
theorem get?_set_of_lower {name other : String} (hname : Text.lower name = name)
    (hother : Text.lower other = other) (element : Element) (value : String) :
    (element.set name value).get? other =
      if other = name then some value else element.get? other := by
  rw [get?, get?, key_of_lower hother, key_of_lower hother, attributes_set,
    key_of_lower hname, Attributes.get?_set]

/-- The last value that is written counts. -/
theorem set_set (element : Element) (name value other : String) :
    (element.set name value).set name other = element.set name other :=
  Element.ext rfl rfl (element.attributes.set_set (element.key name) value other)

/-- Attributes of different names in small letters can be written in any order. -/
theorem set_comm_of_lower {name other : String} (hname : Text.lower name = name)
    (hother : Text.lower other = other) (hne : name ≠ other) (element : Element)
    (value text : String) :
    (element.set name value).set other text = (element.set other text).set name value := by
  have hkeys : element.key name ≠ element.key other := by
    rw [key_of_lower hname, key_of_lower hother]
    exact hne
  exact Element.ext rfl rfl (element.attributes.set_comm hkeys value text)

theorem lower_class : Text.lower "class" = "class" := by decide +kernel

theorem lower_src : Text.lower "src" = "src" := by decide +kernel

theorem lower_id : Text.lower "id" = "id" := by decide +kernel

/-- The classes of an element are tokens, each of them once. -/
theorem isToken_of_mem_classes {element : Element} {name : String} (h : name ∈ element.classes) :
    Text.IsToken name :=
  Text.isToken_of_mem_tokens h

theorem nodup_classes (element : Element) : element.classes.Nodup :=
  Text.nodup_tokens _

theorem classes_set_of_ne {element : Element} (html : element.svg = false) {name : String}
    (h : Text.lower name ≠ "class") (value : String) :
    (element.set name value).classes = element.classes := by
  rw [classes, classes, get?_set html, if_neg (by rw [lower_class]; exact Ne.symm h)]

/-- The classes of an element are the tokens of the text that holds them. -/
theorem classes_set_class (element : Element) (text : String) :
    (element.set "class" text).classes = Text.tokens text := by
  rw [classes, get?_set_of_lower lower_class lower_class, if_pos rfl, Option.getD_some]

/-- Classes that are written are the classes of the element. -/
theorem classes_setClasses {element : Element} {names : List String}
    (htokens : ∀ name ∈ names, Text.IsToken name) (hnodup : names.Nodup) :
    (element.setClasses names).classes = names := by
  unfold setClasses
  split
  · next h =>
      rw [classes, h.1, h.2]
      rfl
  · rw [classes_set_class]
    exact Text.tokens_joined htokens hnodup

/-- Writing classes changes no attribute but the one that holds them. -/
theorem attributes_setClasses (element : Element) (names : List String) {key : String}
    (h : key ≠ "class") :
    (element.setClasses names).attributes.get? key = element.attributes.get? key := by
  unfold setClasses
  split
  · rfl
  · rw [attributes_set, key_of_lower lower_class, Attributes.get?_set, if_neg h]

theorem tag_setClasses (element : Element) (names : List String) :
    (element.setClasses names).tag = element.tag := by
  unfold setClasses
  split
  · rfl
  · rfl

theorem svg_setClasses (element : Element) (names : List String) :
    (element.setClasses names).svg = element.svg := by
  unfold setClasses
  split
  · rfl
  · rfl

/-- Make an element visible or hidden, where hidden elements are those with the given class. -/
def setVisibility (name : String) : Visibility → Element → Element
  | .visible => removeClass name
  | .hidden => addClass name

theorem setVisibility_eq (name : String) (visibility : Visibility) (element : Element) :
    element.setVisibility name visibility =
      element.setClasses (classesWith name visibility element.classes) := by
  cases visibility with
  | visible => rw [classesWith_visible, setVisibility, removeClass]
  | hidden => rw [classesWith_hidden, setVisibility, addClass]

/-! ### Elements and nodes -/

/-- An element that is the same to a page as a node, as long as no other names are used for
attributes than the given ones. -/
structure Renders (names : List String) (element : Element) (node : MemoryNode) : Prop where
  html : element.svg = false
  tag : element.tag = node.tag
  classes : element.classes = node.classes
  /-- Apart from its classes, the element has the attributes of the node under small letters. -/
  attributes : ∀ key, key ≠ "class" → ∀ value,
    element.attributes.get? key = some value ↔
      ∃ name, Text.lower name = key ∧ node.attributes.get? name = some value
  /-- The node uses no other names, and keeps its classes apart. -/
  named : ∀ name value, node.attributes.get? name = some value → name ∈ names ∧ name ≠ "class"

variable {names : List String} {element : Element} {node : MemoryNode}

/-- Of names that are not confused, no other one is written like `class`. -/
theorem lower_ne_class (unconfused : Unconfused names) (hclass : "class" ∈ names) {name : String}
    (hname : name ∈ names) (hne : name ≠ "class") : Text.lower name ≠ "class" := by
  intro hlower
  exact hne (unconfused name hname "class" hclass (hlower.trans lower_class.symm))

/-- Of the methods that a form can have, POST is the one whose name is `post` in small letters. -/
theorem isPost_some (method : String) :
    Document.isPost (some method) = decide (Text.lower method = "post") := by
  have hpost : Text.lower FormToken.postMethod = "post" := by decide +kernel
  rw [Document.isPost, Option.any_some, Text.sameIgnoringCase, hpost, Bool.eq_iff_iff, beq_iff_eq,
    decide_eq_true_iff, eq_comm]

/-- The method of a form is POST exactly if it is written so. -/
theorem isPost_normalized (text : String) :
    Document.isPost (some (if Text.lower text = "post" ∨ Text.lower text = "dialog"
      then Text.lower text else "get")) = Document.isPost (some text) := by
  by_cases hpost : Text.lower text = "post"
  · rw [isPost_some, isPost_some, if_pos (Or.inl hpost), hpost]
    decide +kernel
  · by_cases hdialog : Text.lower text = "dialog"
    · rw [isPost_some, isPost_some, if_pos (Or.inr hdialog), hdialog]
      decide +kernel
    · rw [isPost_some, isPost_some, if_neg (not_or.mpr ⟨hpost, hdialog⟩),
        decide_eq_false hpost]
      decide +kernel

namespace Renders

/-- Reading an attribute gives the same in both. -/
theorem get? (renders : element.Renders names node) (unconfused : Unconfused names)
    (hclass : "class" ∈ names) {name : String} (hname : name ∈ names) (hne : name ≠ "class") :
    element.get? name = node.attributes.get? name := by
  have hkey := lower_ne_class unconfused hclass hname hne
  refine Option.ext fun value => ?_
  rw [Element.get?, key_of_html renders.html, renders.attributes _ hkey]
  constructor
  · rintro ⟨other, hlower, hvalue⟩
    have hother := (renders.named other value hvalue).1
    rw [← unconfused other hother name hname hlower]
    exact hvalue
  · intro hvalue
    exact ⟨name, rfl, hvalue⟩

/-- Writing an attribute under one of the names. -/
theorem setAttribute (renders : element.Renders names node) (unconfused : Unconfused names)
    (hclass : "class" ∈ names) {name : String} (hname : name ∈ names) (hne : name ≠ "class")
    (value : String) : (element.set name value).Renders names (node.setAttribute name value) where
  html := renders.html
  tag := renders.tag
  classes := by
    rw [classes_set_of_ne renders.html (lower_ne_class unconfused hclass hname hne)]
    exact renders.classes
  attributes key hkey text := by
    simp only [attributes_set, MemoryNode.setAttribute, key_of_html renders.html, Attributes.get?_set]
    constructor
    · split
      · next heq =>
          intro htext
          exact ⟨name, heq.symm, by rw [if_pos rfl]; exact htext⟩
      · next hother =>
          intro htext
          obtain ⟨other, hlower, hvalue⟩ := (renders.attributes key hkey text).mp htext
          have hkept : other ≠ name := by
            rintro rfl
            exact hother hlower.symm
          refine ⟨other, hlower, ?_⟩
          rw [if_neg hkept]
          exact hvalue
    · rintro ⟨other, hlower, htext⟩
      by_cases heq : other = name
      · rw [if_pos heq] at htext
        rw [if_pos (heq ▸ hlower.symm)]
        exact htext
      · rw [if_neg heq] at htext
        have hother := (renders.named other text htext).1
        have hkept : key ≠ Text.lower name := fun hsame =>
          heq (unconfused other hother name hname (hlower.trans hsame))
        rw [if_neg hkept]
        exact (renders.attributes key hkey text).mpr ⟨other, hlower, htext⟩
  named other text htext := by
    rw [MemoryNode.setAttribute, Attributes.get?_set] at htext
    split at htext
    · next heq => exact heq ▸ ⟨hname, hne⟩
    · exact renders.named other text htext

/-- Writing the attribute that holds the classes. -/
theorem setClass (renders : element.Renders names node) (text : String) :
    (element.set "class" text).Renders names { node with classes := Text.tokens text } where
  html := renders.html
  tag := renders.tag
  classes := classes_set_class element text
  attributes key hkey value := by
    rw [attributes_set, key_of_lower lower_class, Attributes.get?_set, if_neg hkey]
    exact renders.attributes key hkey value
  named := renders.named

/-- Making both visible or hidden. -/
theorem setVisibility (renders : element.Renders names node) {name : String}
    (htoken : Text.IsToken name) (visibility : Visibility) :
    (element.setVisibility name visibility).Renders names (node.setVisibility name visibility) := by
  rw [setVisibility_eq, MemoryNode.setVisibility_eq]
  constructor
  · rw [svg_setClasses]
    exact renders.html
  · rw [tag_setClasses]
    exact renders.tag
  · rw [classes_setClasses, renders.classes]
    · exact Section.forall_mem_classesWith htoken fun other hother => isToken_of_mem_classes hother
    · exact Section.nodup_classesWith (nodup_classes element)
  · intro key hkey value
    rw [attributes_setClasses _ _ hkey]
    exact renders.attributes key hkey value
  · exact renders.named

/-- Both tell alike whether they are forms that are sent with POST. -/
theorem isPost_method (renders : element.Renders names node) (unconfused : Unconfused names)
    (hclass : "class" ∈ names) (hmethod : "method" ∈ names) :
    Document.isPost element.method? = Document.isPost
      (if node.tag = "form" then some ((node.attributes.get? "method").getD "get") else none) := by
  by_cases hform : node.tag = "form"
  · have htag : element.isForm = true ∧ element.svg = false := by
      refine ⟨?_, renders.html⟩
      rw [isForm, renders.tag, hform]
      rfl
    rw [if_pos hform, method?, if_pos htag, renders.get? unconfused hclass hmethod (by decide)]
    cases node.attributes.get? "method" with
    | none => decide +kernel
    | some text => exact isPost_normalized text
  · have htag : ¬(element.isForm = true ∧ element.svg = false) := by
      rw [isForm, renders.tag, beq_iff_eq]
      exact fun h => hform h.1
    rw [if_neg hform, method?, if_neg htag]

end Renders

end Element

end PageBehaviors.Browser
