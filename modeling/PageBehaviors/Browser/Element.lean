import PageBehaviors.Browser.Thrown
import PageBehaviors.Document.Attributes
import PageBehaviors.Text.Token

/-!
# Elements of a browser's document

The elements of HTML are named without regard to case, so their tags and attribute names are kept
in small letters; those of SVG are kept as they are written.  The classes of an element are the
tokens of its attribute `class`, and changing them writes that attribute anew.

## Main definitions

* `Browser.Element` — tag, kind and attributes.  No attribute of an element of HTML has a capital in
  its name, so no two of them have names that differ in case only.
* `Browser.Element.get?`, `Browser.Element.set`, `Browser.Element.unset` — attributes by name.
* `Browser.Element.classes`, `Browser.Element.addClass`, `Browser.Element.removeClass` — classes.
* `Browser.Element.method?` — how a form is sent.
-/

namespace PageBehaviors.Browser

/-- An element. -/
@[ext]
structure Element where
  tag : String
  /-- Whether the element belongs to SVG. -/
  svg : Bool := false
  attributes : Attributes := .empty
  /-- Outside SVG, attributes are kept under names in small letters. -/
  tidy : svg = false → ∀ entry ∈ attributes.entries, Text.lower entry.1 = entry.1 := by
    simp [Attributes.empty]
  deriving DecidableEq

namespace Element

/-- An element without attributes. -/
def create (tag : String) (svg : Bool) : Element where
  tag := if svg then tag else Text.lower tag
  svg := svg

/-- The name under which an element keeps an attribute. -/
def key (element : Element) (name : String) : String :=
  if element.svg then name else Text.lower name

theorem key_of_html {element : Element} (h : element.svg = false) (name : String) :
    element.key name = Text.lower name := by
  simp [key, h]

/-- The value of an attribute. -/
def get? (element : Element) (name : String) : Option String :=
  element.attributes.get? (element.key name)

/-- Write an attribute. -/
def set (name value : String) (element : Element) : Element :=
  { element with
    attributes := element.attributes.set (element.key name) value
    tidy := fun html entry hentry => by
      rcases Attributes.mem_insertInto hentry with rfl | hentry
      · rw [key_of_html html, Text.lower_lower]
      · exact element.tidy html entry hentry }

/-- Take an attribute away. -/
def unset (name : String) (element : Element) : Element :=
  { element with
    attributes := element.attributes.erase (element.key name)
    tidy := fun html entry hentry => element.tidy html entry (List.mem_filter.mp hentry).1 }

/-- An element with attributes, of which the later ones win. -/
def ofTag (tag : String) (svg : Bool) (attributes : List (String × String)) : Element :=
  attributes.foldl (fun element entry => element.set entry.1 entry.2) (create tag svg)

/-! ### Classes -/

/-- The classes of an element. -/
def classes (element : Element) : List String :=
  Text.tokens ((element.get? "class").getD "")

/-- Write the classes of an element.  An element without the attribute does not get an empty one. -/
def setClasses (classes : List String) (element : Element) : Element :=
  if classes = [] ∧ element.get? "class" = none then element
  else element.set "class" (Text.joined classes)

/-- Give an element a class, at the end, unless it has it already. -/
def addClass (name : String) (element : Element) : Element :=
  let classes := element.classes
  element.setClasses (if name ∈ classes then classes else classes ++ [name])

/-- Take a class from an element. -/
def removeClass (name : String) (element : Element) : Element :=
  element.setClasses (element.classes.filter (· != name))

/-- What is thrown for a name that no class can have. -/
def tokenProblem? (name : String) : Option Thrown :=
  if name = "" then
    some (.error "SyntaxError" "The token provided must not be empty.")
  else if Text.hasBlank name then
    some (.error "InvalidCharacterError" ("The token provided ('" ++ name ++
      "') contains HTML space characters, which are not valid in tokens."))
  else
    none

/-! ### Forms -/

/-- Whether an element is counted among the forms; those of SVG are. -/
def isForm (element : Element) : Bool :=
  element.tag == "form"

/-- How a form is sent; forms of SVG are not sent at all. -/
def method? (element : Element) : Option String :=
  if element.isForm ∧ element.svg = false then
    let method := Text.lower ((element.get? "method").getD "")
    some (if method = "post" ∨ method = "dialog" then method else "get")
  else
    none

end Element

end PageBehaviors.Browser
