import Mathlib.Data.List.Forall2
import Mathlib.Tactic.ByContra
import PageBehaviors.Proofs.Document.Nodes

/-!
# The places of a list of nodes

A query of a page gives places of nodes.  This file says how a query goes through the list, what
the nodes are after one was added or changed, and what the nodes are like that are added for the
token.

## Main definitions and statements

* `MemoryDocument.satisfies`, `MemoryDocument.places_eq` — a query as a filter of all places.
* `MemoryNode.IsField` — nodes that can have been added for the token.
* `MemoryDocument.places_append` — a query that finds no such nodes.
* `MemoryDocument.getElem?_add`, `MemoryDocument.getElem?_modifyNode` — nodes after a change.
-/

namespace PageBehaviors

/-- What holds of the elements of two lists in pairs holds after a change at a place, if the change
keeps it for the two elements there. -/
theorem forall₂_modify {α β : Type} {R : α → β → Prop} {f : α → α} {g : β → β} {first : List α}
    {second : List β} {n : Nat} (hrelated : List.Forall₂ R first second)
    (h : ∀ a b, first[n]? = some a → second[n]? = some b → R a b → R (f a) (g b)) :
    List.Forall₂ R (first.modify n f) (second.modify n g) := by
  induction hrelated generalizing n with
  | nil => simp
  | cons hfirst hothers ih =>
      cases n with
      | zero => exact List.Forall₂.cons (h _ _ rfl rfl hfirst) hothers
      | succ n => exact List.Forall₂.cons hfirst (ih h)

theorem modify_append_of_lt {α : Type} {f : α → α} {first second : List α} {n : Nat}
    (h : n < first.length) : (first ++ second).modify n f = first.modify n f ++ second := by
  induction first generalizing n with
  | nil => exact absurd h (Nat.not_lt_zero n)
  | cons head tail ih =>
      cases n with
      | zero => rfl
      | succ n => simpa using ih (Nat.lt_of_succ_lt_succ h)

namespace MemoryNode

/-- Whether a node can be one that was added for the token. -/
def IsField (node : MemoryNode) : Prop :=
  node.tag = "input" ∧ ∀ name, name ∉ ["type", "name", "value"] → node.attributes.get? name = none

theorem isField_hiddenInput (name value : String) : (hiddenInput name value).IsField := by
  refine ⟨rfl, fun other hother => ?_⟩
  simp only [List.mem_cons, List.not_mem_nil, or_false, not_or] at hother
  obtain ⟨htype, hname, hvalue⟩ := hother
  simp [hiddenInput, ofTag, Attributes.setAll, Attributes.get?_set, htype, hname, hvalue]

/-- No lookup leads to such a node. -/
theorem IsField.id_ne {node : MemoryNode} (h : node.IsField) (id : String) :
    (node.attributes.get? "id" == some id) = false := by
  rw [h.2 "id" (by decide)]
  rfl

end MemoryNode

namespace MemoryDocument

/-- Whether a node exists and satisfies a test. -/
def satisfies (document : MemoryDocument) (test : MemoryNode → Bool) (place : Nat) : Bool :=
  document.nodes[place]?.any test

theorem places_eq (document : MemoryDocument) (test : MemoryNode → Bool) :
    document.places test =
      (List.range document.nodes.length).filter (document.satisfies test) := by
  have hentries : document.nodes.zipIdx.filter (fun entry => test entry.1) =
      document.nodes.zipIdx.filter ((document.satisfies test) ∘ Prod.snd) := by
    refine List.filter_congr fun entry hentry => ?_
    have hnode := List.mem_zipIdx_iff_getElem?.mp hentry
    simp [satisfies, hnode]
  rw [places, hentries, ← List.filter_map, List.zipIdx_map_snd, List.range_eq_range']

theorem lt_of_satisfies (document : MemoryDocument) {test : MemoryNode → Bool} {place : Nat}
    (h : document.satisfies test place = true) : place < document.nodes.length := by
  by_contra hge
  rw [satisfies, List.getElem?_eq_none (Nat.le_of_not_lt hge)] at h
  cases h

/-- A query finds the same places in two documents in which the same places satisfy its test. -/
theorem places_congr (document : MemoryDocument) {test : MemoryNode → Bool} {other : MemoryDocument}
    (hlength : other.nodes.length ≤ document.nodes.length)
    (h : ∀ place, document.satisfies test place = other.satisfies test place) :
    document.places test = other.places test := by
  obtain ⟨more, hmore⟩ := Nat.exists_eq_add_of_le hlength
  have hrest : ((List.range more).map (other.nodes.length + ·)).filter
      (other.satisfies test) = [] := by
    refine List.filter_eq_nil_iff.mpr fun place hplace => ?_
    obtain ⟨i, -, rfl⟩ := List.mem_map.mp hplace
    simp [satisfies]
  rw [places_eq, places_eq, funext h, hmore, List.range_add, List.filter_append, hrest,
    List.append_nil]

/-- What no added node satisfies, only the nodes before them do. -/
theorem satisfies_append {document : MemoryDocument} {kept added : List MemoryNode}
    (h : document.nodes = kept ++ added) (hadded : ∀ node ∈ added, node.IsField)
    {test : MemoryNode → Bool} (htest : ∀ node, node.IsField → test node = false) (place : Nat) :
    document.satisfies test place = ({ nodes := kept } : MemoryDocument).satisfies test place := by
  rw [satisfies, satisfies, h]
  by_cases hlt : place < kept.length
  · rw [List.getElem?_append_left hlt]
  · rw [List.getElem?_append_right (Nat.le_of_not_lt hlt),
      List.getElem?_eq_none (Nat.le_of_not_lt hlt)]
    cases hnode : added[place - kept.length]? with
    | none => rfl
    | some node => exact htest node (hadded node (List.mem_of_getElem? hnode))

/-- A query that finds no added node goes through the nodes before them only. -/
theorem places_append {document : MemoryDocument} {kept added : List MemoryNode}
    (h : document.nodes = kept ++ added) (hadded : ∀ node ∈ added, node.IsField)
    {test : MemoryNode → Bool} (htest : ∀ node, node.IsField → test node = false) :
    document.places test = ({ nodes := kept } : MemoryDocument).places test :=
  places_congr document (by simp [h]) (satisfies_append h hadded htest)

theorem elementById_eq_head? (document : MemoryDocument) (id : String) :
    Document.elementById document id =
      (document.places fun node => node.attributes.get? "id" == some id).head? := by
  show document.nodes.findIdx? _ = _
  rw [places, List.head?_map, List.head?_filter, List.findIdx?_eq_fst_find?_zipIdx]

/-- The nodes of a document to which one node was added. -/
theorem getElem?_add {document : MemoryDocument} {added node : MemoryNode} {n : Nat}
    (h : (document.add added).nodes[n]? = some node) :
    document.nodes[n]? = some node ∨ n = document.nodes.length ∧ added = node := by
  rw [getElem?_nodes_add] at h
  split at h
  · next heq => exact Or.inr ⟨heq, Option.some.inj h⟩
  · exact Or.inl h

/-- The nodes of a document in which one node was changed. -/
theorem getElem?_modifyNode {document : MemoryDocument} {place n : Nat}
    {change : MemoryNode → MemoryNode} {node : MemoryNode}
    (h : (document.modifyNode place change).nodes[n]? = some node) :
    ∃ prior, document.nodes[n]? = some prior ∧
      node = if place = n then change prior else prior := by
  rw [nodes_modifyNode, List.getElem?_modify] at h
  obtain ⟨prior, hprior, rfl⟩ := Option.map_eq_some_iff.mp h
  exact ⟨prior, hprior, rfl⟩

end MemoryDocument

end PageBehaviors
