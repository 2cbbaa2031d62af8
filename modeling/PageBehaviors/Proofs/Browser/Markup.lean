import Mathlib.Data.List.Induction
import PageBehaviors.Proofs.Browser.Element

/-!
# Elements as they are written

What stands in a text of HTML, a tag and some attributes, can be taken as an element of a browser
or as a node of a list.  The node gets the tokens of the attribute `class` as its classes and all
other attributes as they are written.

## Main definitions and statements

* `Browser.Markup` — a tag with attributes; `Browser.Markup.element`, `Browser.Markup.node` — what
  it stands for.
* `Browser.Markup.renders` — the element is the same to a page as the node.
-/

namespace PageBehaviors.Browser

/-- A tag with attributes, of which the later ones win. -/
structure Markup where
  tag : String
  attributes : List (String × String) := []
  deriving DecidableEq, Repr

namespace Markup

/-- The last value that is written for a name. -/
def get? (markup : Markup) (name : String) : Option String :=
  (Attributes.empty.setAll markup.attributes).get? name

/-- The classes, each of them once. -/
def classes (markup : Markup) : List String :=
  Text.tokens ((markup.get? "class").getD "")

/-- The element of HTML with the tag and all the attributes. -/
def element (markup : Markup) : Element :=
  .ofTag markup.tag false markup.attributes

/-- The node with the tag and the attributes other than `class`. -/
def bare (markup : Markup) : MemoryNode :=
  .ofTag markup.tag (markup.attributes.filter fun entry => entry.1 != "class")

/-- The node with its classes. -/
def node (markup : Markup) : MemoryNode :=
  { markup.bare with classes := markup.classes }

/-- The markup followed by one more attribute. -/
def extended (markup : Markup) (entry : String × String) : Markup :=
  ⟨markup.tag, markup.attributes ++ [entry]⟩

theorem element_extended (markup : Markup) (entry : String × String) :
    (markup.extended entry).element = markup.element.set entry.1 entry.2 := by
  rw [element, element, Element.ofTag, extended, List.foldl_append]
  rfl

theorem get?_extended (markup : Markup) (entry : String × String) (name : String) :
    (markup.extended entry).get? name =
      if name = entry.1 then some entry.2 else markup.get? name := by
  rw [get?, get?, extended, Attributes.setAll, List.foldl_append, List.foldl_cons, List.foldl_nil,
    Attributes.get?_set]
  rfl

theorem node_extended_class (markup : Markup) (text : String) :
    (markup.extended ("class", text)).node = { markup.node with classes := Text.tokens text } := by
  have hclasses : (markup.extended ("class", text)).classes = Text.tokens text := by
    rw [classes, get?_extended, if_pos rfl, Option.getD_some]
  have hbare : (markup.extended ("class", text)).bare = markup.bare := by
    rw [bare, bare, extended, List.filter_append]
    simp
  rw [node, hclasses, hbare]
  rfl

theorem node_extended_of_ne (markup : Markup) {name : String} (h : name ≠ "class")
    (value : String) :
    (markup.extended (name, value)).node = markup.node.setAttribute name value := by
  have hclasses : (markup.extended (name, value)).classes = markup.classes := by
    rw [classes, get?_extended, if_neg (Ne.symm h)]
    rfl
  have hbare : (markup.extended (name, value)).bare = markup.bare.setAttribute name value := by
    rw [bare, bare, extended, List.filter_append, List.filter_cons_of_pos (by simpa using h),
      MemoryNode.ofTag, Attributes.setAll, List.foldl_append]
    rfl
  rw [node, hclasses, hbare]
  rfl

/-- But for the classes, the node has the attributes that are written. -/
theorem get?_node (markup : Markup) {name : String} (h : name ≠ "class") :
    markup.node.attributes.get? name = markup.get? name := by
  obtain ⟨tag, attributes⟩ := markup
  induction attributes using List.reverseRecOn with
  | nil => rfl
  | append_singleton attributes entry ih =>
      obtain ⟨other, value⟩ := entry
      have hextended : (⟨tag, attributes ++ [(other, value)]⟩ : Markup) =
          extended ⟨tag, attributes⟩ (other, value) := rfl
      rw [hextended, get?_extended]
      by_cases heq : other = "class"
      · subst heq
        rw [node_extended_class, if_neg h]
        exact ih
      · rw [node_extended_of_ne _ heq, MemoryNode.setAttribute, Attributes.get?_set, ih]

/-- **The element is the same to a page as the node**, if the tag is in small letters and the names
of the attributes are among those that are not confused. -/
theorem renders {names : List String} (unconfused : Unconfused names) (hclass : "class" ∈ names)
    {markup : Markup} (htag : Text.lower markup.tag = markup.tag)
    (hnames : ∀ entry ∈ markup.attributes, entry.1 ∈ names) :
    markup.element.Renders names markup.node := by
  obtain ⟨tag, attributes⟩ := markup
  induction attributes using List.reverseRecOn with
  | nil =>
      refine ⟨rfl, htag, rfl, fun key _ value => ?_, fun name value hvalue => by cases hvalue⟩
      constructor
      · intro hvalue
        cases hvalue
      · rintro ⟨name, _, hvalue⟩
        cases hvalue
  | append_singleton attributes entry ih =>
      have hprior := ih htag fun other hother => hnames other (List.mem_append_left _ hother)
      obtain ⟨name, value⟩ := entry
      have hname : name ∈ names := hnames (name, value) (by simp)
      have hextended : (⟨tag, attributes ++ [(name, value)]⟩ : Markup) =
          Markup.extended ⟨tag, attributes⟩ (name, value) := rfl
      rw [hextended, element_extended]
      by_cases heq : name = "class"
      · subst heq
        rw [node_extended_class]
        exact hprior.setClass value
      · rw [node_extended_of_ne _ heq]
        exact hprior.setAttribute unconfused hclass hname heq value

/-- What the document gets for the token. -/
def hiddenInput (name value : String) : Markup :=
  ⟨"input", [("type", "hidden"), ("name", name), ("value", value)]⟩

theorem node_hiddenInput (name value : String) :
    (hiddenInput name value).node = MemoryNode.hiddenInput name value := by
  have hclass : (hiddenInput name value).get? "class" = none := by
    simp [get?, hiddenInput, Attributes.setAll, Attributes.get?_set]
  have hbare : (hiddenInput name value).bare = MemoryNode.hiddenInput name value := by
    simp [bare, hiddenInput, MemoryNode.hiddenInput]
  rw [node, classes, hclass, hbare]
  rfl

end Markup

end PageBehaviors.Browser
