import PageBehaviors.Document.Attributes
import PageBehaviors.Document.Basic

/-!
# Documents that are lists of nodes

The plainest document: nodes in the order in which they were added, each named by its place.  The
classes of a node are apart from its attributes.  Names are compared exactly, case included.

## Main definitions

* `MemoryNode`, `MemoryDocument` — a node; a document.
* `MemoryDocument.add`, `MemoryDocument.modifyNode` — adding and changing nodes.
* `MemoryDocument.insert` — adding a node together with its classes.
* the instance of `Document` — the calls of a page.
-/

namespace PageBehaviors

/-- A node of a document. -/
structure MemoryNode where
  tag : String
  attributes : Attributes := .empty
  classes : List String := []
  /-- The places of the nodes that were appended to this one. -/
  children : List Nat := []
  deriving DecidableEq

namespace MemoryNode

/-- A node with a tag and attributes, of which the later ones win. -/
def ofTag (tag : String) (attributes : List (String × String)) : MemoryNode where
  tag := tag
  attributes := Attributes.empty.setAll attributes

/-- Write an attribute. -/
def setAttribute (name value : String) (node : MemoryNode) : MemoryNode :=
  { node with attributes := node.attributes.set name value }

/-- Give a node a class, at the end, unless it has it already. -/
def addClass (name : String) (node : MemoryNode) : MemoryNode :=
  if name ∈ node.classes then node else { node with classes := node.classes ++ [name] }

/-- Take a class from a node. -/
def removeClass (name : String) (node : MemoryNode) : MemoryNode :=
  { node with classes := node.classes.filter (· != name) }

/-- Append the node at a place as the last child. -/
def appendChild (place : Nat) (node : MemoryNode) : MemoryNode :=
  { node with children := node.children ++ [place] }

/-- A hidden input. -/
def hiddenInput (name value : String) : MemoryNode :=
  ofTag "input" [("type", "hidden"), ("name", name), ("value", value)]

end MemoryNode

/-- A document that is a list of nodes. -/
structure MemoryDocument where
  nodes : List MemoryNode := []
  /-- The cookie line, or none if it cannot be read. -/
  cookies : Option String := some ""
  /-- Whether changes of classes are refused. -/
  classesReadOnly : Bool := false
  deriving DecidableEq

namespace MemoryDocument

/-- Add a node at the end.  Its place is the number of nodes before. -/
def add (node : MemoryNode) (document : MemoryDocument) : MemoryDocument :=
  { document with nodes := document.nodes ++ [node] }

/-- Change the node at a place. -/
def modifyNode (place : Nat) (change : MemoryNode → MemoryNode) (document : MemoryDocument) :
    MemoryDocument :=
  { document with nodes := document.nodes.modify place change }

@[simp] theorem nodes_add (node : MemoryNode) (document : MemoryDocument) :
    (document.add node).nodes = document.nodes ++ [node] := rfl

@[simp] theorem nodes_modifyNode (place : Nat) (change : MemoryNode → MemoryNode)
    (document : MemoryDocument) :
    (document.modifyNode place change).nodes = document.nodes.modify place change := rfl

/-- The places of the nodes that satisfy a test. -/
def places (test : MemoryNode → Bool) (document : MemoryDocument) : List Nat :=
  (document.nodes.zipIdx.filter fun entry => test entry.1).map (·.2)

/-- Change the classes of a node, unless that is refused. -/
def changeClasses (place : Nat) (change : MemoryNode → MemoryNode) :
    StateM MemoryDocument (Except PageError Unit) := fun document =>
  if document.classesReadOnly then
    (.error (.document "class list is read-only"), document)
  else
    (.ok (), document.modifyNode place change)

/-- Give a node several classes, one after the other, unless that is refused. -/
def giveClasses (place : Nat) (classes : List String) (document : MemoryDocument) :
    MemoryDocument :=
  classes.foldl
    (fun written name => ((changeClasses place (·.addClass name)).run written).2) document

/-- Add a node and give it classes.  A document that refuses changes of classes refuses these as
well, and the node goes without. -/
def insert (node : MemoryNode) (classes : List String) (document : MemoryDocument) :
    MemoryDocument :=
  (document.add node).giveClasses document.nodes.length classes

@[simp] theorem giveClasses_nil (place : Nat) (document : MemoryDocument) :
    document.giveClasses place [] = document := rfl

@[simp] theorem giveClasses_cons (place : Nat) (name : String) (names : List String)
    (document : MemoryDocument) :
    document.giveClasses place (name :: names) =
      (((changeClasses place (·.addClass name)).run document).2).giveClasses place names := rfl

instance : Document MemoryDocument Nat where
  elementById document id :=
    document.nodes.findIdx? fun node => node.attributes.get? "id" == some id
  hasClass document place name :=
    document.nodes[place]?.any fun node => decide (name ∈ node.classes)
  forms document := document.places fun node => node.tag == "form"
  elementsWithAttribute name := fun document =>
    (.ok (document.places fun node => (node.attributes.get? name).isSome), document)
  attributeOf place name := fun document =>
    (document.nodes[place]?.bind fun node => node.attributes.get? name, document)
  setAttribute place name value := fun document =>
    (.ok (), document.modifyNode place (·.setAttribute name value))
  addClass place name := changeClasses place (·.addClass name)
  removeClass place name := changeClasses place (·.removeClass name)
  formMethod place := fun document =>
    (document.nodes[place]?.bind fun node =>
      if node.tag = "form" then some ((node.attributes.get? "method").getD "get") else none,
      document)
  appendHiddenInput place name value := fun document =>
    -- the input is added before its parent is looked at
    (.ok (), (document.add (.hiddenInput name value)).modifyNode place
      (·.appendChild document.nodes.length))
  cookie := fun document =>
    match document.cookies with
    | some cookies => (.ok cookies, document)
    | none => (.error (.document "cookie store is unavailable"), document)

end MemoryDocument

end PageBehaviors
