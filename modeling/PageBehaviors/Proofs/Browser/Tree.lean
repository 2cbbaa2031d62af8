import PageBehaviors.Browser.Tree

/-!
# Adding an element to a tree

A new element becomes the last root or the last child of its parent.  This file says what that does
to the children of every node and to the document order of the nodes that were there before.

## Main definitions and statements

* `Browser.Forest.childrenOf` — the children of a node in their order, or the roots.
* `Browser.Forest.childrenOf_attach` — a parent gets one more child, and no other node does.
* `Browser.Forest.filter_preorder_attachUnder` — the nodes from before keep their order.
* `Browser.Tree.add` — the lemmas on what a tree is after adding an element.
-/

namespace PageBehaviors.Browser

namespace Forest

/-! ### Children -/

/-- The nodes that have the given parent, in document order, where the roots have the parent
`above`. -/
def childrenFrom (above parent : Option Nat) (forest : Forest) : List Nat :=
  ((forest.withParents above).filter fun entry => entry.2 = parent).map Prod.fst

/-- The children of a node in their order; the roots, if no node is given. -/
def childrenOf (parent : Option Nat) (forest : Forest) : List Nat :=
  forest.childrenFrom none parent

@[simp] theorem childrenFrom_nil (above parent : Option Nat) :
    nil.childrenFrom above parent = [] := rfl

theorem childrenFrom_node (above parent : Option Nat) (root : Nat) (children siblings : Forest) :
    (node root children siblings).childrenFrom above parent =
      (if above = parent then [root] else []) ++
        (children.childrenFrom (some root) parent ++ siblings.childrenFrom above parent) := by
  rw [childrenFrom, withParents, List.filter_cons]
  by_cases h : above = parent
  · simp [h, childrenFrom]
  · simp [h, childrenFrom]

theorem childrenFrom_append (above parent : Option Nat) (n : Nat) (forest : Forest) :
    (forest.append n).childrenFrom above parent =
      forest.childrenFrom above parent ++ if above = parent then [n] else [] := by
  induction forest with
  | nil =>
      rw [append, childrenFrom_node, childrenFrom_nil, childrenFrom_nil, List.append_nil,
        List.append_nil, List.nil_append]
  | node root children siblings _ ih =>
      rw [append, childrenFrom_node, ih, childrenFrom_node, List.append_assoc, List.append_assoc]

/-- A node that is not there has no children. -/
theorem childrenFrom_of_notMem {above : Option Nat} {parent : Nat} {forest : Forest}
    (habove : above ≠ some parent) (h : parent ∉ forest.preorder) :
    forest.childrenFrom above (some parent) = [] := by
  induction forest generalizing above with
  | nil => rfl
  | node root children siblings ihc ihs =>
      simp only [preorder_node, List.mem_cons, List.mem_append, not_or] at h
      obtain ⟨hroot, hchildren, hsiblings⟩ := h
      have hne : some root ≠ some parent := fun heq => hroot (Option.some.inj heq).symm
      rw [childrenFrom_node, if_neg habove, ihc hne hchildren, ihs habove hsiblings]
      rfl

/-- Under a parent that is there, one more child is added at the end; no other node gets one. -/
theorem childrenFrom_attachUnder {above : Option Nat} {parent : Nat} (n : Nat) {forest : Forest}
    (nodup : forest.preorder.Nodup) (habove : above ≠ some parent) (other : Option Nat) :
    (forest.attachUnder parent n).childrenFrom above other =
      forest.childrenFrom above other ++
        if other = some parent ∧ parent ∈ forest.preorder then [n] else [] := by
  induction forest generalizing above with
  | nil => simp [attachUnder]
  | node root children siblings ihc ihs =>
      simp only [preorder_node, List.nodup_cons, List.mem_append, not_or, List.nodup_append]
        at nodup
      obtain ⟨⟨_, hsiblings⟩, nodupc, nodups, disjoint⟩ := nodup
      by_cases hother : other = some parent
      · subst hother
        -- the node stands in one of the three parts, and has no children in the other two
        by_cases hroot : root = parent
        · subst hroot
          rw [attachUnder, if_pos rfl, childrenFrom_node, childrenFrom_node, childrenFrom_append,
            childrenFrom_of_notMem habove hsiblings]
          simp
        · have hne : some root ≠ some parent := fun heq => hroot (Option.some.inj heq)
          rw [attachUnder, if_neg hroot, childrenFrom_node, childrenFrom_node, ihc nodupc hne,
            ihs nodups habove, if_neg habove]
          by_cases hchild : parent ∈ children.preorder
          · have hlater : parent ∉ siblings.preorder := fun h =>
              disjoint parent hchild parent h rfl
            rw [childrenFrom_of_notMem habove hlater]
            simp [hchild, hlater]
          · rw [childrenFrom_of_notMem hne hchild]
            simp [hchild, Ne.symm hroot]
      · by_cases hroot : root = parent
        · subst hroot
          rw [attachUnder, if_pos rfl, childrenFrom_node, childrenFrom_node, childrenFrom_append]
          simp [hother, Ne.symm hother]
        · have hne : some root ≠ some parent := fun heq => hroot (Option.some.inj heq)
          rw [attachUnder, if_neg hroot, childrenFrom_node, childrenFrom_node, ihc nodupc hne,
            ihs nodups habove]
          simp [hother]

/-- A parent gets one more child at the end, and no other node does. -/
theorem childrenOf_attach {parent : Option Nat} (n : Nat) {forest : Forest}
    (nodup : forest.preorder.Nodup) (h : ∀ p, parent = some p → p ∈ forest.preorder)
    (other : Option Nat) :
    (forest.attach parent n).childrenOf other =
      forest.childrenOf other ++ if other = parent then [n] else [] := by
  cases parent with
  | none =>
      rw [attach, childrenOf, childrenFrom_append, childrenOf]
      simp only [eq_comm]
  | some p =>
      rw [attach, childrenOf, childrenFrom_attachUnder n nodup (by simp), childrenOf]
      simp [h p rfl]

theorem childrenOf_of_notMem {parent : Nat} {forest : Forest} (h : parent ∉ forest.preorder) :
    forest.childrenOf (some parent) = [] :=
  childrenFrom_of_notMem (by simp) h

/-! ### Document order -/

theorem mem_preorder_attach_iff {parent : Option Nat} {n x : Nat} {forest : Forest}
    (h : ∀ p, parent = some p → p ∈ forest.preorder) :
    x ∈ (forest.attach parent n).preorder ↔ x ∈ forest.preorder ∨ x = n := by
  cases parent with
  | none => rw [attach, preorder_append, List.mem_append, List.mem_singleton]
  | some p => rw [attach, mem_preorder_attachUnder, and_iff_left (h p rfl)]

theorem filter_preorder_attachUnder (test : Nat → Bool) {n : Nat} (h : test n = false)
    (parent : Nat) (forest : Forest) :
    (forest.attachUnder parent n).preorder.filter test = forest.preorder.filter test := by
  induction forest with
  | nil => rfl
  | node root children siblings ihc ihs =>
      rw [attachUnder]
      split
      · simp [List.filter_cons, h]
      · simp [List.filter_cons, ihc, ihs]

end Forest

namespace Tree

variable (tree : Tree) (element : Element)

@[ext] theorem ext {first second : Tree} (helements : first.elements = second.elements)
    (hforest : first.forest = second.forest) : first = second := by
  cases first
  cases second
  cases helements
  cases hforest
  rfl

/-- The number that the next element gets is not in use. -/
theorem size_notMem_preorder : tree.size ∉ tree.forest.preorder :=
  fun h => absurd (tree.created _ h) (Nat.lt_irrefl _)

@[simp] theorem elements_add (parent : Option Nat) :
    (tree.add parent element).elements = tree.elements ++ [element] := by
  rw [add, attach]
  split
  · rfl
  · rfl

@[simp] theorem forest_add (parent : Option Nat) :
    (tree.add parent element).forest = tree.forest.attach parent tree.size := by
  have hfresh : tree.size ∉ (tree.create element).forest.preorder ∧
      tree.size < (tree.create element).elements.length :=
    ⟨tree.size_notMem_preorder, by simp [create, size]⟩
  rw [add, attach, dif_pos hfresh]
  rfl

section

variable {parent : Option Nat} (hparent : ∀ p, parent = some p → p ∈ tree.forest.preorder)

include hparent

/-- If all elements are in the document, the new one is as well. -/
theorem mem_preorder_add (attached : ∀ n < tree.size, n ∈ tree.forest.preorder) :
    ∀ n < (tree.add parent element).size, n ∈ (tree.add parent element).forest.preorder := by
  intro n hn
  rw [size, elements_add, List.length_append, List.length_singleton] at hn
  rw [forest_add, Forest.mem_preorder_attach_iff hparent]
  by_cases hlt : n < tree.elements.length
  · exact Or.inl (attached n hlt)
  · exact Or.inr (by rw [size]; omega)

theorem childrenOf_add (other : Option Nat) :
    (tree.add parent element).forest.childrenOf other =
      tree.forest.childrenOf other ++ if other = parent then [tree.size] else [] := by
  rw [forest_add, Forest.childrenOf_attach _ tree.nodup hparent]

end

/-- The new element has no children. -/
theorem childrenOf_size : tree.forest.childrenOf (some tree.size) = [] :=
  Forest.childrenOf_of_notMem tree.size_notMem_preorder

/-- An element may be changed after it was created, or created as it is to be. -/
theorem modify_create (change : Element → Element) :
    (tree.create element).modify tree.size change = tree.create (change element) := by
  refine Tree.ext ?_ rfl
  show (tree.elements ++ [element]).modify tree.elements.length change =
    tree.elements ++ [change element]
  rw [List.modify_eq_take_cons_drop (by simp)]
  simp

end Tree

end PageBehaviors.Browser
