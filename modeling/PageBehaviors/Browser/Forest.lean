/-!
# Forests

The nodes of a document form trees.  A forest is given by its first tree and the trees after it,
and the children of a node are a forest again.

## Main definitions

* `Browser.Forest` — the type.
* `Browser.Forest.preorder` — the nodes in document order: parents before children, children in
  their order.
* `Browser.Forest.append`, `Browser.Forest.attach`, `Browser.Forest.remove` — changing a forest.
* `Browser.Forest.withParents` — the nodes in document order, each with its parent.
-/

namespace PageBehaviors.Browser

/-- An ordered forest whose nodes are numbers. -/
inductive Forest where
  | nil
  /-- A first tree, given by its root and the root's children, and the trees after it. -/
  | node (root : Nat) (children siblings : Forest)
  deriving DecidableEq, Repr

namespace Forest

/-- The nodes in document order. -/
def preorder : Forest → List Nat
  | nil => []
  | node root children siblings => root :: (children.preorder ++ siblings.preorder)

/-- Add a node as the last root. -/
def append (n : Nat) : Forest → Forest
  | nil => node n nil nil
  | node root children siblings => node root children (siblings.append n)

/-- Add a node as the last child of a parent, if the parent is there. -/
def attachUnder (parent n : Nat) : Forest → Forest
  | nil => nil
  | node root children siblings =>
    if root = parent then node root (children.append n) siblings
    else node root (children.attachUnder parent n) (siblings.attachUnder parent n)

/-- Add a node as the last child of a parent, or as the last root. -/
def attach (parent : Option Nat) (n : Nat) (forest : Forest) : Forest :=
  match parent with
  | none => forest.append n
  | some parent => forest.attachUnder parent n

/-- Take a node out, with everything under it. -/
def remove (n : Nat) : Forest → Forest
  | nil => nil
  | node root children siblings =>
    if root = n then siblings else node root (children.remove n) (siblings.remove n)

/-- The nodes in document order with their parents, where the roots have the given one. -/
def withParents (parent : Option Nat) : Forest → List (Nat × Option Nat)
  | nil => []
  | node root children siblings =>
    (root, parent) :: (children.withParents (some root) ++ siblings.withParents parent)

/-! ### Which nodes are there -/

@[simp] theorem preorder_nil : nil.preorder = [] := rfl

@[simp] theorem preorder_node (root : Nat) (children siblings : Forest) :
    (node root children siblings).preorder = root :: (children.preorder ++ siblings.preorder) :=
  rfl

@[simp] theorem preorder_append (n : Nat) (forest : Forest) :
    (forest.append n).preorder = forest.preorder ++ [n] := by
  induction forest with
  | nil => rfl
  | node root children siblings _ ih => simp [append, ih]

theorem mem_preorder_attachUnder {parent n x : Nat} {forest : Forest} :
    x ∈ (forest.attachUnder parent n).preorder ↔
      x ∈ forest.preorder ∨ x = n ∧ parent ∈ forest.preorder := by
  induction forest with
  | nil => simp [attachUnder]
  | node root children siblings ihc ihs =>
    unfold attachUnder
    split <;> simp [*] <;> grind

theorem mem_preorder_attach {parent : Option Nat} {n x : Nat} {forest : Forest}
    (h : x ∈ (forest.attach parent n).preorder) : x ∈ forest.preorder ∨ x = n := by
  cases parent with
  | none => simpa [attach] using h
  | some parent => exact (mem_preorder_attachUnder.mp h).imp_right And.left

theorem nodup_attachUnder {parent n : Nat} {forest : Forest} (nodup : forest.preorder.Nodup)
    (fresh : n ∉ forest.preorder) : (forest.attachUnder parent n).preorder.Nodup := by
  induction forest with
  | nil => simp [attachUnder]
  | node root children siblings ihc ihs =>
    simp only [preorder_node, List.nodup_cons, List.nodup_append, List.mem_append, List.mem_cons,
      not_or] at nodup fresh
    obtain ⟨notMem, nodupc, nodups, disjoint⟩ := nodup
    unfold attachUnder
    split
    · simp only [preorder_node, preorder_append, List.nodup_cons, List.nodup_append,
        List.mem_append, List.mem_singleton]
      grind
    · simp only [preorder_node, List.nodup_cons, List.nodup_append, List.mem_append,
        mem_preorder_attachUnder]
      grind

theorem nodup_attach {parent : Option Nat} {n : Nat} {forest : Forest}
    (nodup : forest.preorder.Nodup) (fresh : n ∉ forest.preorder) :
    (forest.attach parent n).preorder.Nodup := by
  cases parent with
  | none =>
    simp only [attach, preorder_append, List.nodup_append]
    grind
  | some parent => exact nodup_attachUnder nodup fresh

theorem preorder_remove_sublist (n : Nat) (forest : Forest) :
    (forest.remove n).preorder.Sublist forest.preorder := by
  induction forest with
  | nil => exact List.Sublist.refl _
  | node root children siblings ihc ihs =>
    unfold remove
    split
    · exact (List.sublist_append_right _ _).cons _
    · exact (ihc.append ihs).cons_cons _

end Forest

end PageBehaviors.Browser
