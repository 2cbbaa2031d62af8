import PageBehaviors.Document.Memory
import PageBehaviors.Document.Unreliable
import PageBehaviors.Proofs.Page.Operations
import PageBehaviors.Proofs.Section.Toggle

/-!
# Ids, classes and sources in a list of nodes

What a page shows of its sections is read off three things: where the ids lead, which classes the
elements have, and which sources the icons have.  This file says what each change of a list of
nodes does to them.

## Main definitions and statements

* `MemoryDocument.attribute?` — the attribute of the node at a place.
* `MemoryDocument.elementById_injective` — different ids lead to different nodes.
* `MemoryDocument.setVisibility`, `MemoryDocument.setSource` — the two changes a toggle makes.
* `MemoryDocument.Facade` — the three things together; `MemoryDocument.overlooks_facade` — the
  passes over a document leave them alone.
-/

namespace PageBehaviors

open Section (Visibility)

namespace MemoryNode

/-- Make a node visible or hidden, where hidden nodes are those with the given class. -/
def setVisibility (name : String) : Visibility → MemoryNode → MemoryNode
  | .visible => removeClass name
  | .hidden => addClass name

/-- Making a node visible or hidden changes its classes only. -/
theorem setVisibility_eq (name : String) (visibility : Visibility) (node : MemoryNode) :
    node.setVisibility name visibility =
      { node with classes := Section.classesWith name visibility node.classes } := by
  cases visibility with
  | visible => rw [Section.classesWith_visible, setVisibility, removeClass]
  | hidden =>
      rw [Section.classesWith_hidden, setVisibility, addClass]
      split
      · rfl
      · rfl

@[simp] theorem attributes_setVisibility (name : String) (visibility : Visibility)
    (node : MemoryNode) : (node.setVisibility name visibility).attributes = node.attributes := by
  rw [setVisibility_eq]

theorem mem_classes_setVisibility (name other : String) (visibility : Visibility)
    (node : MemoryNode) :
    other ∈ (node.setVisibility name visibility).classes ↔
      if other = name then visibility = .hidden else other ∈ node.classes := by
  rw [setVisibility_eq]
  exact Section.mem_classesWith

end MemoryNode

namespace MemoryDocument

/-- The value of an attribute of the node at a place. -/
def attribute? (document : MemoryDocument) (place : Nat) (name : String) : Option String :=
  document.nodes[place]?.bind fun node => node.attributes.get? name

/-- The ids of the nodes, in their order. -/
def ids (document : MemoryDocument) : List (Option String) :=
  document.nodes.map fun node => node.attributes.get? "id"

/-! ### Lookups -/

theorem elementById_eq (document : MemoryDocument) (id : String) :
    Document.elementById document id = document.ids.findIdx? (· == some id) := by
  rw [ids, List.findIdx?_map]
  rfl

theorem getElem?_ids_of_elementById {document : MemoryDocument} {id : String} {place : Nat}
    (h : Document.elementById document id = some place) :
    document.ids[place]? = some (some id) := by
  rw [elementById_eq, List.findIdx?_eq_some_iff_getElem] at h
  obtain ⟨hlt, hid, -⟩ := h
  rw [List.getElem?_eq_getElem hlt, beq_iff_eq.mp hid]

/-- Different ids lead to different nodes. -/
theorem elementById_injective {document : MemoryDocument} {id other : String} {place : Nat}
    (h : Document.elementById document id = some place)
    (hother : Document.elementById document other = some place) : id = other := by
  have hid := getElem?_ids_of_elementById h
  rw [getElem?_ids_of_elementById hother] at hid
  simpa using hid.symm

theorem lt_length_of_elementById {document : MemoryDocument} {id : String} {place : Nat}
    (h : Document.elementById document id = some place) : place < document.nodes.length := by
  obtain ⟨hlt, -⟩ := List.getElem?_eq_some_iff.mp (getElem?_ids_of_elementById h)
  simpa [ids] using hlt

/-- Lookups see nothing of a change that keeps the id of every node. -/
theorem elementById_modifyNode {change : MemoryNode → MemoryNode}
    (h : ∀ node, (change node).attributes.get? "id" = node.attributes.get? "id")
    (document : MemoryDocument) (place : Nat) (id : String) :
    Document.elementById (document.modifyNode place change) id =
      Document.elementById document id := by
  have hids : (document.modifyNode place change).ids = document.ids := by
    refine List.ext_getElem? fun i => ?_
    simp only [ids, nodes_modifyNode, List.getElem?_map, List.getElem?_modify]
    cases document.nodes[i]? with
    | none => rfl
    | some node =>
        by_cases hi : place = i
        · simp [hi, h]
        · simp [hi]
  rw [elementById_eq, elementById_eq, hids]

theorem hasClass_eq (document : MemoryDocument) (place : Nat) (name : String) :
    Document.hasClass document place name =
      document.nodes[place]?.any fun node => decide (name ∈ node.classes) := rfl

/-! ### The changes of a toggle -/

/-- Make the node at a place visible or hidden. -/
def setVisibility (name : String) (place : Nat) (visibility : Visibility)
    (document : MemoryDocument) : MemoryDocument :=
  document.modifyNode place (·.setVisibility name visibility)

/-- Write the source of the node at a place. -/
def setSource (place : Nat) (value : String) (document : MemoryDocument) : MemoryDocument :=
  document.modifyNode place (·.setAttribute "src" value)

variable (document : MemoryDocument)

@[simp] theorem length_nodes_setVisibility (name : String) (place : Nat) (visibility : Visibility) :
    (document.setVisibility name place visibility).nodes.length = document.nodes.length :=
  List.length_modify ..

@[simp] theorem elementById_setVisibility (name : String) (place : Nat) (visibility : Visibility)
    (id : String) :
    Document.elementById (document.setVisibility name place visibility) id =
      Document.elementById document id :=
  elementById_modifyNode (fun node => by simp) document place id

@[simp] theorem elementById_setSource (place : Nat) (value id : String) :
    Document.elementById (document.setSource place value) id =
      Document.elementById document id :=
  elementById_modifyNode (fun node => Attributes.get?_set_ne _ _ (by decide)) document place id

theorem hasClass_setVisibility {place : Nat} (h : place < document.nodes.length) (name : String)
    (visibility : Visibility) (other : Nat) (otherName : String) :
    Document.hasClass (document.setVisibility name place visibility) other otherName =
      if other = place ∧ otherName = name then decide (visibility = .hidden)
      else Document.hasClass document other otherName := by
  simp only [hasClass_eq, setVisibility, nodes_modifyNode, List.getElem?_modify]
  by_cases hplace : place = other
  · subst hplace
    simp only [List.getElem?_eq_getElem h]
    by_cases hname : otherName = name <;> simp [MemoryNode.mem_classes_setVisibility, hname]
  · simp [hplace, Ne.symm hplace]

@[simp] theorem hasClass_setSource (place : Nat) (value : String) (other : Nat) (name : String) :
    Document.hasClass (document.setSource place value) other name =
      Document.hasClass document other name := by
  simp only [hasClass_eq, setSource, nodes_modifyNode, List.getElem?_modify]
  cases document.nodes[other]? with
  | none => rfl
  | some node =>
      by_cases h : place = other
      · simp [h, MemoryNode.setAttribute]
      · simp [h]

@[simp] theorem attribute?_setVisibility (name : String) (place : Nat) (visibility : Visibility)
    (other : Nat) (key : String) :
    (document.setVisibility name place visibility).attribute? other key =
      document.attribute? other key := by
  simp only [attribute?, setVisibility, nodes_modifyNode, List.getElem?_modify]
  cases document.nodes[other]? with
  | none => rfl
  | some node =>
      by_cases h : place = other
      · simp [h]
      · simp [h]

theorem attribute?_setSource {place : Nat} (h : place < document.nodes.length) (value : String)
    (other : Nat) :
    (document.setSource place value).attribute? other "src" =
      if other = place then some value else document.attribute? other "src" := by
  simp only [attribute?, setSource, nodes_modifyNode, List.getElem?_modify]
  by_cases hplace : place = other
  · subst hplace
    simp [List.getElem?_eq_getElem h, MemoryNode.setAttribute]
  · simp [hplace, Ne.symm hplace]

/-! ### What the passes over a document leave alone -/

/-- What a document shows of its sections. -/
@[ext] structure Facade where
  /-- Where the ids lead. -/
  elementById : String → Option Nat
  /-- Which classes the nodes have. -/
  hasClass : Nat → String → Bool
  /-- The sources of the nodes. -/
  source : Nat → Option String

/-- What a document shows of its sections. -/
def facade (document : MemoryDocument) : Facade where
  elementById := Document.elementById document
  hasClass := Document.hasClass document
  source place := document.attribute? place "src"

theorem facade_modifyNode {change : MemoryNode → MemoryNode}
    (hattributes : ∀ node, (change node).attributes = node.attributes)
    (hclasses : ∀ node, (change node).classes = node.classes) (place : Nat) :
    (document.modifyNode place change).facade = document.facade := by
  ext other name
  · show Document.elementById _ _ = some _ ↔ Document.elementById _ _ = some _
    rw [elementById_modifyNode fun node => by rw [hattributes]]
  · show Document.hasClass _ _ _ = Document.hasClass _ _ _
    simp only [hasClass_eq, nodes_modifyNode, List.getElem?_modify]
    cases document.nodes[other]? with
    | none => rfl
    | some node => by_cases h : place = other <;> simp [h, hclasses]
  · show attribute? _ _ _ = some _ ↔ attribute? _ _ _ = some _
    simp only [attribute?, nodes_modifyNode, List.getElem?_modify]
    cases document.nodes[other]? with
    | none => rfl
    | some node => by_cases h : place = other <;> simp [h, hattributes]

theorem getElem?_nodes_add (node : MemoryNode) (place : Nat) :
    (document.add node).nodes[place]? =
      if place = document.nodes.length then some node else document.nodes[place]? := by
  rw [nodes_add, List.getElem?_append]
  by_cases hlt : place < document.nodes.length
  · rw [if_pos hlt, if_neg (Nat.ne_of_lt hlt)]
  · rw [if_neg hlt, List.getElem?_singleton, List.getElem?_eq_none (Nat.le_of_not_lt hlt)]
    by_cases heq : place = document.nodes.length
    · simp [heq]
    · rw [if_neg heq, if_neg (by omega)]

/-- A node without an id, classes and a source shows nothing. -/
theorem facade_add {node : MemoryNode} (hid : node.attributes.get? "id" = none)
    (hclasses : node.classes = []) (hsource : node.attributes.get? "src" = none) :
    (document.add node).facade = document.facade := by
  have hlast := List.getElem?_eq_none (Nat.le_refl document.nodes.length)
  ext other name
  · show Document.elementById _ _ = some _ ↔ Document.elementById _ _ = some _
    rw [elementById_eq, elementById_eq, ids, ids, nodes_add, List.map_append, List.findIdx?_append]
    simp [hid]
  · show Document.hasClass _ _ _ = Document.hasClass _ _ _
    rw [hasClass_eq, hasClass_eq, getElem?_nodes_add]
    split
    · next h => simp [h, hclasses]
    · rfl
  · show attribute? _ _ _ = some _ ↔ attribute? _ _ _ = some _
    rw [attribute?, attribute?, getElem?_nodes_add]
    split
    · next h => simp [h, hsource]
    · rfl

/-- A hidden input has no id, no class and no source, and its parent keeps its own. -/
theorem facade_appendHiddenInput (form : Nat) (name value : String) :
    ((Document.appendHiddenInput form name value).run document).2.facade = document.facade := by
  show ((document.add (.hiddenInput name value)).modifyNode form
    (·.appendChild document.nodes.length)).facade = document.facade
  have hattributes : ∀ node, (MemoryNode.appendChild document.nodes.length node).attributes =
      node.attributes := fun _ => rfl
  rw [facade_modifyNode _ hattributes fun _ => rfl]
  refine facade_add document ?_ rfl ?_
  · simp [MemoryNode.hiddenInput, MemoryNode.ofTag, Attributes.setAll, Attributes.get?_set]
  · simp [MemoryNode.hiddenInput, MemoryNode.ofTag, Attributes.setAll, Attributes.get?_set]

theorem document_run_cookie :
    ((Document.cookie : StateM MemoryDocument _).run document).2 = document := by
  obtain ⟨nodes, cookies, readOnly⟩ := document
  cases cookies with
  | none => rfl
  | some cookies => rfl

/-- Finding bindings changes nothing. -/
theorem overlooksTriggers_self : Document.OverlooksTriggers fun document : MemoryDocument =>
    document where
  elementsWithAttribute _ _ := rfl
  attributeOf _ _ _ := rfl

theorem overlooks_facade : Document.Overlooks facade where
  elementsWithAttribute _ _ := rfl
  attributeOf _ _ _ := rfl
  formMethod _ _ := rfl
  appendHiddenInput form name value document := facade_appendHiddenInput document form name value
  cookie document := congrArg facade (document_run_cookie document)

end MemoryDocument

namespace Unreliable

variable {D E ι α : Type}

theorem view_attempt {view : D → ι} {step : StateM D α}
    (h : ∀ document, view (step.run document).2 = view document) (call : Call)
    (refuse : String → α) (whole : Unreliable D) :
    view ((attempt call refuse step).run whole).2.document = view whole.document := by
  cases hfault : whole.faults.failure? call with
  | none => rw [run_attempt_of_none hfault, h]
  | some message => rw [run_attempt_of_some hfault]

/-- What finding bindings leaves alone, it leaves alone as well if calls may fail. -/
theorem overlooksTriggers [Document D E] {view : D → ι} (h : Document.OverlooksTriggers view) :
    Document.OverlooksTriggers fun whole : Unreliable D => view whole.document where
  elementsWithAttribute name := view_attempt (h.elementsWithAttribute name) _ _
  attributeOf element name := view_attempt (h.attributeOf element name) _ _

/-- What the passes over a document leave alone, they leave alone as well if calls may fail. -/
theorem overlooks [Document D E] {view : D → ι} (h : Document.Overlooks view) :
    Document.Overlooks fun whole : Unreliable D => view whole.document where
  toOverlooksTriggers := overlooksTriggers h.toOverlooksTriggers
  formMethod form := view_attempt (h.formMethod form) _ _
  appendHiddenInput form name value := view_attempt (h.appendHiddenInput form name value) _ _
  cookie := view_attempt h.cookie _ _

end Unreliable

end PageBehaviors
