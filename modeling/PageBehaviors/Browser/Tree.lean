import PageBehaviors.Browser.Element
import PageBehaviors.Browser.Forest

/-!
# Trees of elements

Every element that was ever created keeps its number, also after it has left the document; the
forest tells which elements are in the document now, and where.

## Main definitions

* `Browser.Tree` — the elements by number, and the forest of those in the document.
* `Browser.Tree.create`, `Browser.Tree.attach`, `Browser.Tree.remove`, `Browser.Tree.modify` —
  changing a tree.
* `Browser.Tree.select` — the elements in the document that satisfy a test, in document order.
-/

namespace PageBehaviors.Browser

/-- Elements by number, and the forest of those that are in the document. -/
structure Tree where
  elements : List Element := []
  forest : Forest := .nil
  /-- No element stands in two places. -/
  nodup : forest.preorder.Nodup := by simp
  /-- Only created elements are in the document. -/
  created : ∀ n ∈ forest.preorder, n < elements.length := by simp
  deriving DecidableEq

namespace Tree

/-- The number of the next element to be created. -/
def size (tree : Tree) : Nat :=
  tree.elements.length

/-- Create an element outside the document.  Its number is the size of the tree before. -/
def create (element : Element) (tree : Tree) : Tree where
  elements := tree.elements ++ [element]
  forest := tree.forest
  nodup := tree.nodup
  created n h := by
    have := tree.created n h
    simp only [List.length_append, List.length_singleton]
    omega

/-- Put a created element into the document, as the last child of a parent or as the last root.  An
element that is in the document already stays where it is. -/
def attach (parent : Option Nat) (n : Nat) (tree : Tree) : Tree :=
  if h : n ∉ tree.forest.preorder ∧ n < tree.elements.length then
    { elements := tree.elements
      forest := tree.forest.attach parent n
      nodup := Forest.nodup_attach tree.nodup h.1
      created := fun m hm => by
        rcases Forest.mem_preorder_attach hm with hm | rfl
        · exact tree.created m hm
        · exact h.2 }
  else
    tree

/-- Take an element out of the document, with everything under it. -/
def remove (n : Nat) (tree : Tree) : Tree where
  elements := tree.elements
  forest := tree.forest.remove n
  nodup := tree.nodup.sublist (Forest.preorder_remove_sublist n tree.forest)
  created m h := tree.created m ((Forest.preorder_remove_sublist n tree.forest).subset h)

/-- Change an element. -/
def modify (n : Nat) (change : Element → Element) (tree : Tree) : Tree where
  elements := tree.elements.modify n change
  forest := tree.forest
  nodup := tree.nodup
  created m h := by
    rw [List.length_modify]
    exact tree.created m h

/-- Create an element and put it into the document. -/
def add (parent : Option Nat) (element : Element) (tree : Tree) : Tree :=
  (tree.create element).attach parent tree.size

/-- Whether an element exists and satisfies a test. -/
def satisfies (tree : Tree) (test : Element → Bool) (n : Nat) : Bool :=
  tree.elements[n]?.any test

/-- The elements in the document that satisfy a test, in document order. -/
def select (tree : Tree) (test : Element → Bool) : List Nat :=
  tree.forest.preorder.filter (tree.satisfies test)

/-- The first element in the document that satisfies a test. -/
def first? (tree : Tree) (test : Element → Bool) : Option Nat :=
  tree.forest.preorder.find? (tree.satisfies test)

/-- The elements in the document with their numbers and parents, in document order. -/
def listing (tree : Tree) : List (Nat × Option Nat × Element) :=
  (tree.forest.withParents none).filterMap fun entry =>
    tree.elements[entry.1]?.map fun element => (entry.1, entry.2, element)

end Tree

end PageBehaviors.Browser
