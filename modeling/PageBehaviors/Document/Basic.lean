import PageBehaviors.PageError

/-!
# What a page asks of its document

The behaviours of a page are written once, over any document that answers these calls.  Some calls
only look: the lookup of an id, the test for a class and the list of forms cannot fail and leave the
document alone.  The others are steps of the document, since even a reading call may fail and a
document may count its calls.

## Main definitions

* `Document D E` — the type `D` holds documents whose elements are named by `E`.
-/

namespace PageBehaviors

/-- The calls of a page to its document. -/
class Document (D : Type) (E : outParam Type) where
  /-- The element with an id. -/
  elementById : D → String → Option E
  /-- Whether an element has a class. -/
  hasClass : D → E → String → Bool
  /-- The forms, in document order. -/
  forms : D → List E
  /-- The elements that hold an attribute, in document order. -/
  elementsWithAttribute : (name : String) → StateM D (Except PageError (List E))
  /-- The value of an attribute. -/
  attributeOf : (element : E) → (name : String) → StateM D (Option String)
  /-- Write an attribute. -/
  setAttribute : (element : E) → (name value : String) → StateM D (Except PageError Unit)
  /-- Give an element a class. -/
  addClass : (element : E) → (name : String) → StateM D (Except PageError Unit)
  /-- Take a class from an element. -/
  removeClass : (element : E) → (name : String) → StateM D (Except PageError Unit)
  /-- The method by which a form is sent, or none for an element that is no form. -/
  formMethod : (form : E) → StateM D (Option String)
  /-- Give a form a hidden input as its last child. -/
  appendHiddenInput : (form : E) → (name value : String) → StateM D (Except PageError Unit)
  /-- The cookie line. -/
  cookie : StateM D (Except PageError String)

end PageBehaviors
