import Mathlib.Data.List.Forall2
import PageBehaviors.Proofs.Browser.Calls
import PageBehaviors.Proofs.Document.Places

/-!
# A browser's document that mirrors a list of nodes

A page adds hidden inputs to a document and changes classes and sources of the nodes that were
there from the start.  In a list, an added input comes last; in a browser it stands right after its
form.  So the two orders differ, but only by inputs, which no query of a page finds.  Between the
nodes from the start the order is the same.

## Main definitions and statements

* `Browser.Suits` — settings that cannot tell an element from a node.
* `Browser.Mirrors` — the relation of the two documents.
* `Browser.Mirrors.places_eq` — what is found in the one is found in the other.
* `Browser.Mirrors.modify`, `Browser.Mirrors.appendHiddenInput` — the changes of a page.
-/

namespace PageBehaviors

namespace Browser

/-- The names of attributes that a page and its document use. -/
def usedNames (config : PageConfig) : List String :=
  [config.toggle.marker, "id", "class", "src", "method", "type", "name", "value"]

/-- Settings that cannot tell an element from a node whose attributes have the given names. -/
structure Suits (names : List String) (config : PageConfig) : Prop where
  unconfused : Unconfused names
  used : ∀ name ∈ usedNames config, name ∈ names
  identifier : Text.isIdentifier config.toggle.marker = true
  /-- The marker is no attribute of an added input, and it does not hold the classes. -/
  marker : config.toggle.marker ∉ ["class", "type", "name", "value"]
  token : Text.IsToken config.toggle.hiddenClass

namespace Suits

variable {names : List String} {config : PageConfig} (suits : Suits names config)

include suits

theorem get?_eq {element : Element} {node : MemoryNode} (h : element.Renders names node)
    {name : String} (hname : name ∈ usedNames config) (hne : name ≠ "class") :
    element.get? name = node.attributes.get? name :=
  h.get? suits.unconfused (suits.used "class" (by simp [usedNames])) (suits.used name hname) hne

theorem get?_marker {element : Element} {node : MemoryNode} (h : element.Renders names node) :
    element.get? config.toggle.marker = node.attributes.get? config.toggle.marker :=
  suits.get?_eq h List.mem_cons_self fun heq => suits.marker (by simp [heq])

/-- An added input does not have the marker. -/
theorem marker_of_isField {node : MemoryNode} (h : node.IsField) :
    node.attributes.get? config.toggle.marker = none :=
  h.2 _ fun hmem => suits.marker (List.mem_cons_of_mem _ hmem)

end Suits

/-- A document of a browser that is the same to a page as a list of nodes, of which the first
`known` were there from the start and the others have been added for the token. -/
structure Mirrors (names : List String) (known : Nat) (memory : MemoryDocument)
    (live : LiveDocument) : Prop where
  /-- Number by number, the elements are the same to a page as the nodes. -/
  renders : List.Forall₂ (Element.Renders names) live.tree.elements memory.nodes
  /-- All elements are in the document. -/
  attached : ∀ n < live.tree.size, n ∈ live.tree.forest.preorder
  /-- The nodes from the start are the roots. -/
  roots : live.tree.forest.childrenOf none = List.range known
  /-- In document order, too, they follow one another by their numbers. -/
  order : live.tree.forest.preorder.filter (· < known) = List.range known
  children : ∀ (n : Nat) node, memory.nodes[n]? = some node →
    live.tree.forest.childrenOf (some n) = node.children
  ids : ∀ (n : Nat) node, memory.nodes[n]? = some node → node.attributes.get? "id" ≠ some ""
  added : ∀ (n : Nat) node, memory.nodes[n]? = some node → known ≤ n → node.IsField
  cookies : memory.cookies = some live.cookies
  html : live.html = true
  writable : memory.classesReadOnly = false
  reliable : live.faults = .none

namespace Mirrors

variable {names : List String} {known : Nat} {memory : MemoryDocument} {live : LiveDocument}

section

variable (mirrors : Mirrors names known memory live)

include mirrors

theorem size_eq : live.tree.size = memory.nodes.length :=
  mirrors.renders.length_eq

theorem known_le : known ≤ memory.nodes.length := by
  rw [← mirrors.size_eq]
  by_contra hlt
  have hmem : live.tree.size ∈ live.tree.forest.preorder.filter (· < known) := by
    rw [mirrors.order]
    exact List.mem_range.mpr (Nat.lt_of_not_le hlt)
  exact live.tree.size_notMem_preorder (List.mem_of_mem_filter hmem)

/-! ### What a page finds -/

theorem renders_getElem? (n : Nat) :
    Option.Rel (Element.Renders names) live.tree.elements[n]? memory.nodes[n]? := by
  have hrenders := mirrors.renders
  generalize live.tree.elements = elements at hrenders ⊢
  generalize memory.nodes = nodes at hrenders ⊢
  induction hrenders generalizing n with
  | nil => exact Option.Rel.none
  | cons hfirst _ ih =>
      cases n with
      | zero => exact Option.Rel.some hfirst
      | succ n => exact ih n

/-- Reading from an element is the same as reading from its node. -/
theorem bind_eq {α : Type} {view : Element → Option α} {other : MemoryNode → Option α}
    (h : ∀ element node, element.Renders names node → view element = other node) (n : Nat) :
    live.tree.elements[n]?.bind view = memory.nodes[n]?.bind other := by
  have hrel := mirrors.renders_getElem? n
  generalize live.tree.elements[n]? = element at hrel ⊢
  generalize memory.nodes[n]? = node at hrel ⊢
  cases hrel with
  | none => rfl
  | some hrenders => exact h _ _ hrenders

/-- A test that gives the same for all that are the same to a page gives the same here. -/
theorem satisfies_eq (test : Element → Bool) {other : MemoryNode → Bool}
    (h : ∀ element node, element.Renders names node → test element = other node) (n : Nat) :
    live.tree.satisfies test n = memory.satisfies other n := by
  have hrel := mirrors.renders_getElem? n
  unfold Tree.satisfies MemoryDocument.satisfies
  generalize live.tree.elements[n]? = element at hrel ⊢
  generalize memory.nodes[n]? = node at hrel ⊢
  cases hrel with
  | none => rfl
  | some hrenders => exact h _ _ hrenders

/-- Only nodes from the start satisfy a test that no added input satisfies. -/
theorem lt_of_satisfies {test : MemoryNode → Bool} (h : ∀ node, node.IsField → test node = false)
    {n : Nat} (hn : memory.satisfies test n = true) : n < known := by
  obtain ⟨node, hnode, htest⟩ := (Option.any_eq_true _ _).mp hn
  by_contra hlt
  have hfield := mirrors.added n node hnode (Nat.le_of_not_lt hlt)
  rw [h node hfield] at htest
  cases htest

/-- Every number of a node stands in the document order, those from the start in theirs. -/
theorem filter_preorder {test : Nat → Bool} (h : ∀ n, test n = true → n < known) :
    live.tree.forest.preorder.filter test = (List.range memory.nodes.length).filter test := by
  have hsmall : ∀ numbers : List Nat,
      numbers.filter test = (numbers.filter (· < known)).filter test := by
    intro numbers
    rw [List.filter_filter]
    refine List.filter_congr fun n _ => ?_
    cases htest : test n with
    | false => rfl
    | true => simp [h n htest]
  have hrange : (List.range memory.nodes.length).filter (· < known) = List.range known := by
    obtain ⟨others, hothers⟩ := Nat.exists_eq_add_of_le mirrors.known_le
    have hfirst : (List.range known).filter (· < known) = List.range known :=
      List.filter_eq_self.mpr fun n hn => decide_eq_true (List.mem_range.mp hn)
    have hlater : ((List.range others).map (known + ·)).filter (· < known) = [] := by
      refine List.filter_eq_nil_iff.mpr fun n hn => ?_
      obtain ⟨i, _, rfl⟩ := List.mem_map.mp hn
      simp
    rw [hothers, List.range_add, List.filter_append, hfirst, hlater, List.append_nil]
  rw [hsmall live.tree.forest.preorder, mirrors.order, ← hrange,
    ← hsmall (List.range memory.nodes.length)]

/-- **What is found in the one document is found in the other**, as long as no added input is. -/
theorem places_eq (test : Element → Bool) {other : MemoryNode → Bool}
    (h : ∀ element node, element.Renders names node → test element = other node)
    (hfield : ∀ node, node.IsField → other node = false) :
    live.tree.select test = memory.places other := by
  have hsame : live.tree.satisfies test = memory.satisfies other :=
    funext fun n => mirrors.satisfies_eq test h n
  rw [Tree.select, hsame, mirrors.filter_preorder fun n => mirrors.lt_of_satisfies hfield,
    MemoryDocument.places_eq]

theorem lt_of_mem_places {other : MemoryNode → Bool}
    (hfield : ∀ node, node.IsField → other node = false) {n : Nat}
    (hn : n ∈ memory.places other) : n < known := by
  rw [MemoryDocument.places_eq] at hn
  exact mirrors.lt_of_satisfies hfield (List.mem_filter.mp hn).2

/-! ### What a page changes -/

/-- A change of a node from the start, and the same change of its element. -/
theorem modify {n : Nat} (hn : n < known) {change : Element → Element}
    {other : MemoryNode → MemoryNode}
    (hrenders : ∀ element node, element.Renders names node →
      (change element).Renders names (other node))
    (hids : ∀ node, (other node).attributes.get? "id" = node.attributes.get? "id")
    (hchildren : ∀ node, (other node).children = node.children) :
    Mirrors names known (memory.modifyNode n other) (live.onTree (·.modify n change)) where
  renders := forall₂_modify mirrors.renders fun _ _ _ _ => hrenders _ _
  attached m hm := by
    refine mirrors.attached m ?_
    simpa [LiveDocument.onTree, Tree.modify, Tree.size] using hm
  roots := mirrors.roots
  order := mirrors.order
  children m node hnode := by
    obtain ⟨prior, hprior, rfl⟩ := MemoryDocument.getElem?_modifyNode hnode
    show live.tree.forest.childrenOf (some m) = _
    rw [mirrors.children m prior hprior]
    split
    · exact (hchildren prior).symm
    · rfl
  ids m node hnode := by
    obtain ⟨prior, hprior, rfl⟩ := MemoryDocument.getElem?_modifyNode hnode
    split
    · rw [hids]
      exact mirrors.ids m prior hprior
    · exact mirrors.ids m prior hprior
  added m node hnode hm := by
    obtain ⟨prior, hprior, rfl⟩ := MemoryDocument.getElem?_modifyNode hnode
    rw [if_neg (by omega)]
    exact mirrors.added m prior hprior hm
  cookies := mirrors.cookies
  html := mirrors.html
  writable := mirrors.writable
  reliable := mirrors.reliable

/-- A form from the start gets a hidden input in both. -/
theorem appendHiddenInput {form : Nat} (hform : form < known) {name value : String}
    (hrenders : (Markup.hiddenInput name value).element.Renders names (.hiddenInput name value)) :
    Mirrors names known
      ((memory.add (.hiddenInput name value)).modifyNode form
        (·.appendChild memory.nodes.length))
      (live.onTree (·.add (some form) (Markup.hiddenInput name value).element)) := by
  have hsize := mirrors.size_eq
  have hknown := mirrors.known_le
  have hparent : ∀ p, some form = some p → p ∈ live.tree.forest.preorder := by
    intro p hp
    obtain rfl := Option.some.inj hp
    exact mirrors.attached form (by omega)
  constructor
  · have hadded := List.rel_append mirrors.renders (.cons hrenders .nil)
    have hchanged := forall₂_modify (n := form) (f := id)
      (g := MemoryNode.appendChild memory.nodes.length) hadded
      fun _ _ _ _ h => ⟨h.html, h.tag, h.classes, h.attributes, h.named⟩
    rw [List.modify_id] at hchanged
    simpa [LiveDocument.onTree] using hchanged
  · exact live.tree.mem_preorder_add _ hparent mirrors.attached
  · show (live.tree.add _ _).forest.childrenOf none = _
    rw [live.tree.childrenOf_add _ hparent, mirrors.roots]
    simp
  · show (live.tree.add _ _).forest.preorder.filter _ = _
    rw [Tree.forest_add, Forest.attach,
      Forest.filter_preorder_attachUnder _ (by simpa [hsize] using hknown)]
    exact mirrors.order
  · intro n node hnode
    obtain ⟨prior, hprior, rfl⟩ := MemoryDocument.getElem?_modifyNode hnode
    have hchildren : live.tree.forest.childrenOf (some n) = prior.children := by
      rcases MemoryDocument.getElem?_add hprior with hprior | ⟨rfl, rfl⟩
      · exact mirrors.children n prior hprior
      · rw [← hsize]
        exact live.tree.childrenOf_size
    show (live.tree.add _ _).forest.childrenOf (some n) = _
    rw [live.tree.childrenOf_add _ hparent, hsize, hchildren]
    by_cases heq : form = n
    · simp [heq, MemoryNode.appendChild]
    · simp [heq, Ne.symm heq]
  · intro n node hnode
    obtain ⟨prior, hprior, rfl⟩ := MemoryDocument.getElem?_modifyNode hnode
    have hid : prior.attributes.get? "id" ≠ some "" := by
      rcases MemoryDocument.getElem?_add hprior with hprior | ⟨_, rfl⟩
      · exact mirrors.ids n prior hprior
      · rw [(MemoryNode.isField_hiddenInput name value).2 "id" (by decide)]
        exact Option.some_ne_none "" ∘ Eq.symm
    split
    · exact hid
    · exact hid
  · intro n node hnode hn
    obtain ⟨prior, hprior, rfl⟩ := MemoryDocument.getElem?_modifyNode hnode
    rw [if_neg (by omega)]
    rcases MemoryDocument.getElem?_add hprior with hprior | ⟨_, rfl⟩
    · exact mirrors.added n prior hprior hn
    · exact MemoryNode.isField_hiddenInput name value
  · exact mirrors.cookies
  · exact mirrors.html
  · exact mirrors.writable
  · exact mirrors.reliable

end

end Mirrors

end Browser

end PageBehaviors
