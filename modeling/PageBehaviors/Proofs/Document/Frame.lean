import PageBehaviors.Proofs.Document.Edits

/-!
# What edits leave alone

The nodes of an edited document are those from the start, in their order, followed by the inputs
that were added.  A node from the start keeps its tag, its attributes but for the source, its
classes but for the one of hidden sections, and its children, which stand before the inputs it was
given.  Each input that was added is the child of one node.

## Main definitions and statements

* `MemoryNode.Kept` — how a node from the start may have changed.
* `MemoryDocument.Framed`, `MemoryDocument.Edited.framed` — the nodes of an edited document.
* `MemoryDocument.timesListed`, `MemoryDocument.Edited.timesListed_eq` — how often a node is a
  child.
-/

namespace PageBehaviors

open Section (Visibility)

namespace MemoryNode

/-- How a node may have changed, given which sections were flipped.  The places of the inputs that
it was given lie between two bounds. -/
structure Kept (config : ToggleConfig) (flipped : String → Prop) (first last : Nat)
    (before after : MemoryNode) : Prop where
  tag : after.tag = before.tag
  attributes : ∀ name, name ≠ "src" → after.attributes.get? name = before.attributes.get? name
  /-- Only the icon of a flipped section has another source. -/
  source : after.attributes.get? "src" = before.attributes.get? "src" ∨
    ∃ id, flipped id ∧ before.attributes.get? "id" = some (id ++ config.iconSuffix)
  classes : after.classes.filter (· != config.hiddenClass) =
    before.classes.filter (· != config.hiddenClass)
  /-- Only a flipped section has become or ceased to be hidden. -/
  hidden : after.classes = before.classes ∨
    ∃ id, flipped id ∧ before.attributes.get? "id" = some id
  /-- Only a form that is sent with POST has been given inputs. -/
  children : ∃ fields, after.children = before.children ++ fields ∧
    (∀ place ∈ fields, first ≤ place ∧ place < last) ∧ (fields ≠ [] → before.isPost = true)

variable {config : ToggleConfig} {flipped : String → Prop} {first last : Nat}
variable {before after : MemoryNode}

theorem classes_setVisibility (name : String) (next : Visibility) (node : MemoryNode) :
    (node.setVisibility name next).classes.filter (· != name) =
      node.classes.filter (· != name) := by
  rw [setVisibility_eq]
  exact Section.filter_classesWith name next node.classes

theorem tag_setVisibility (name : String) (next : Visibility) (node : MemoryNode) :
    (node.setVisibility name next).tag = node.tag := by
  rw [setVisibility_eq]

theorem children_setVisibility (name : String) (next : Visibility) (node : MemoryNode) :
    (node.setVisibility name next).children = node.children := by
  rw [setVisibility_eq]

/-- A form is sent as its tag and its method say. -/
theorem isPost_congr (htag : after.tag = before.tag)
    (hmethod : after.attributes.get? "method" = before.attributes.get? "method") :
    after.isPost = before.isPost := by
  rw [isPost, isPost, htag, hmethod]

namespace Kept

theorem refl (node : MemoryNode) : Kept config flipped first last node node where
  tag := rfl
  attributes _ _ := rfl
  source := Or.inl rfl
  classes := rfl
  hidden := Or.inl rfl
  children := ⟨[], (List.append_nil _).symm, by simp, by simp⟩

variable (kept : Kept config flipped first last before after)

include kept

theorem isPost_eq : after.isPost = before.isPost :=
  isPost_congr kept.tag (kept.attributes "method" (by decide))

/-- A node stays kept while further nodes are added. -/
theorem widen {bound : Nat} (h : last ≤ bound) :
    Kept config flipped first bound before after where
  tag := kept.tag
  attributes := kept.attributes
  source := kept.source
  classes := kept.classes
  hidden := kept.hidden
  children := by
    obtain ⟨fields, hchildren, hbounds, hpost⟩ := kept.children
    refine ⟨fields, hchildren, fun place hplace => ?_, hpost⟩
    obtain ⟨hfirst, hlast⟩ := hbounds place hplace
    exact ⟨hfirst, by omega⟩

theorem setVisibility {id : String} (flip : flipped id)
    (hid : after.attributes.get? "id" = some id) (next : Visibility) :
    Kept config flipped first last before (after.setVisibility config.hiddenClass next) where
  tag := (tag_setVisibility ..).trans kept.tag
  attributes name hname := by
    rw [attributes_setVisibility]
    exact kept.attributes name hname
  source := by
    rw [attributes_setVisibility]
    exact kept.source
  classes := (classes_setVisibility ..).trans kept.classes
  hidden := Or.inr ⟨id, flip, (kept.attributes "id" (by decide)).symm.trans hid⟩
  children := by
    rw [children_setVisibility]
    exact kept.children

theorem setSource {id : String} (flip : flipped id)
    (hid : after.attributes.get? "id" = some (config.iconId id)) (value : String) :
    Kept config flipped first last before (after.setAttribute "src" value) where
  tag := kept.tag
  attributes name hname := (Attributes.get?_set_ne _ _ hname).trans (kept.attributes name hname)
  source := Or.inr ⟨id, flip, (kept.attributes "id" (by decide)).symm.trans hid⟩
  classes := kept.classes
  hidden := kept.hidden
  children := kept.children

theorem appendChild {place : Nat} (hfirst : first ≤ place) (hlast : place < last)
    (hpost : after.isPost = true) :
    Kept config flipped first last before (after.appendChild place) where
  tag := kept.tag
  attributes := kept.attributes
  source := kept.source
  classes := kept.classes
  hidden := kept.hidden
  children := by
    obtain ⟨fields, hchildren, hbounds, -⟩ := kept.children
    refine ⟨fields ++ [place], ?_, fun other hother => ?_, fun _ => ?_⟩
    · show after.children ++ [place] = _
      rw [hchildren, List.append_assoc]
    · rcases List.mem_append.mp hother with hother | hother
      · exact hbounds other hother
      · obtain rfl := List.mem_singleton.mp hother
        exact ⟨hfirst, hlast⟩
    · rw [← kept.isPost_eq]
      exact hpost

end Kept

end MemoryNode

namespace MemoryDocument

/-- The nodes of a document are those from the start, kept, and inputs with the token. -/
structure Framed (config : PageConfig) (flipped : String → Prop) (start document : MemoryDocument)
    (kept added : List MemoryNode) : Prop where
  nodes : document.nodes = kept ++ added
  kept : List.Forall₂
    (MemoryNode.Kept config.toggle flipped start.nodes.length document.nodes.length)
    start.nodes kept
  added : ∀ node ∈ added, ∃ token, start.token? config.xsrf = some token ∧
    node = .hiddenInput config.xsrf.fieldName token

/-- A lookup finds a node with the id. -/
theorem satisfies_of_elementById {document : MemoryDocument} {id : String} {place : Nat}
    (h : Document.elementById document id = some place) :
    document.satisfies (fun node => node.attributes.get? "id" == some id) place = true := by
  have hid := getElem?_ids_of_elementById h
  rw [ids, List.getElem?_map] at hid
  obtain ⟨node, hnode, hid⟩ := Option.map_eq_some_iff.mp hid
  rw [satisfies, hnode]
  simpa using hid

namespace Framed

variable {config : PageConfig} {flipped : String → Prop} {start document : MemoryDocument}
variable {kept added : List MemoryNode} (framed : Framed config flipped start document kept added)

include framed

theorem length_kept : kept.length = start.nodes.length :=
  framed.kept.length_eq.symm

theorem length_eq : document.nodes.length = start.nodes.length + added.length := by
  rw [framed.nodes, List.length_append, framed.length_kept]

theorem isField {node : MemoryNode} (h : node ∈ added) : node.IsField := by
  obtain ⟨token, -, rfl⟩ := framed.added node h
  exact MemoryNode.isField_hiddenInput ..

/-- A node from the start is there, kept. -/
theorem exists_kept {place : Nat} {before : MemoryNode}
    (h : start.nodes[place]? = some before) :
    ∃ after, document.nodes[place]? = some after ∧ MemoryNode.Kept config.toggle flipped
      start.nodes.length document.nodes.length before after := by
  obtain ⟨hlt, rfl⟩ := List.getElem?_eq_some_iff.mp h
  have hkept : place < kept.length := by
    rw [framed.length_kept]
    exact hlt
  refine ⟨kept[place], ?_, framed.kept.get hlt hkept⟩
  rw [framed.nodes, List.getElem?_append_left hkept, List.getElem?_eq_getElem hkept]

/-- Any further node is an input with the token. -/
theorem exists_token {place : Nat} {node : MemoryNode} (h : document.nodes[place]? = some node)
    (hplace : start.nodes.length ≤ place) :
    ∃ token, start.token? config.xsrf = some token ∧
      node = .hiddenInput config.xsrf.fieldName token := by
  rw [framed.nodes, List.getElem?_append_right (by rw [framed.length_kept]; exact hplace)] at h
  exact framed.added node (List.mem_of_getElem? h)

/-- What no input satisfies, only nodes from the start do. -/
theorem of_satisfies {test : MemoryNode → Bool} (htest : ∀ node, node.IsField → test node = false)
    {place : Nat} (h : document.satisfies test place = true) :
    place < kept.length ∧ ∀ node, kept[place]? = some node → test node = true := by
  rw [satisfies_append framed.nodes (fun _ => framed.isField) htest] at h
  refine ⟨lt_of_satisfies _ h, fun node hnode => ?_⟩
  simpa [satisfies, hnode] using h

/-- A lookup finds nodes from the start only. -/
theorem of_elementById {id : String} {place : Nat}
    (found : Document.elementById document id = some place) :
    place < kept.length ∧ ∀ node, kept[place]? = some node →
      node.attributes.get? "id" = some id := by
  obtain ⟨hlt, hid⟩ := framed.of_satisfies (fun _ hfield => hfield.id_ne id)
    (satisfies_of_elementById found)
  exact ⟨hlt, fun node hnode => beq_iff_eq.mp (hid node hnode)⟩

/-- Only forms from the start are sent with POST. -/
theorem of_isPost {form : Nat} (post : document.satisfies MemoryNode.isPost form = true) :
    form < kept.length ∧ ∀ node, kept[form]? = some node → node.isPost = true :=
  framed.of_satisfies (fun node hfield => by simp [MemoryNode.isPost, hfield.1]) post

/-- The nodes after a change of one of the nodes from the start. -/
theorem modifyNode {place : Nat} (hplace : place < kept.length) {change : MemoryNode → MemoryNode}
    (h : ∀ before prior, kept[place]? = some prior →
      MemoryNode.Kept config.toggle flipped start.nodes.length document.nodes.length before prior →
      MemoryNode.Kept config.toggle flipped start.nodes.length document.nodes.length before
        (change prior)) :
    Framed config flipped start (document.modifyNode place change) (kept.modify place change)
      added where
  nodes := by rw [nodes_modifyNode, framed.nodes, modify_append_of_lt hplace]
  kept := by
    have hmodified := forall₂_modify (n := place) (f := id) (g := change) framed.kept
      fun before prior _ hprior hkept => h before prior hprior hkept
    rw [List.modify_id] at hmodified
    simpa using hmodified
  added := framed.added

/-- The nodes after an input with the token was added. -/
theorem add {token : String} (present : start.token? config.xsrf = some token) :
    Framed config flipped start (document.add (.hiddenInput config.xsrf.fieldName token)) kept
      (added ++ [.hiddenInput config.xsrf.fieldName token]) where
  nodes := by rw [nodes_add, framed.nodes, List.append_assoc]
  kept := framed.kept.imp fun _ _ hkept => hkept.widen (by simp)
  added node hnode := by
    rcases List.mem_append.mp hnode with hnode | hnode
    · exact framed.added node hnode
    · exact ⟨token, present, List.mem_singleton.mp hnode⟩

end Framed

/-- **The nodes of an edited document** are those from the start, kept, and the inputs. -/
theorem Edited.framed {config : PageConfig} {flipped : String → Prop}
    {start document : MemoryDocument} {fields : Nat}
    (h : Edited config flipped start fields document) :
    ∃ kept added, Framed config flipped start document kept added ∧ added.length = fields := by
  induction h with
  | start =>
      refine ⟨start.nodes, [], ⟨(List.append_nil _).symm, ?_, by simp⟩, rfl⟩
      exact List.forall₂_same.mpr fun node _ => MemoryNode.Kept.refl node
  | visibility _ flip found next ih =>
      obtain ⟨kept, added, framed, hfields⟩ := ih
      obtain ⟨hplace, hid⟩ := framed.of_elementById found
      refine ⟨_, added, framed.modifyNode hplace fun before prior hprior keeps => ?_, hfields⟩
      exact keeps.setVisibility flip (hid prior hprior) next
  | source _ flip found value ih =>
      obtain ⟨kept, added, framed, hfields⟩ := ih
      obtain ⟨hplace, hid⟩ := framed.of_elementById found
      refine ⟨_, added, framed.modifyNode hplace fun before prior hprior keeps => ?_, hfields⟩
      exact keeps.setSource flip (hid prior hprior) value
  | @field _ document token form earlier present post ih =>
      obtain ⟨kept, added, framed, rfl⟩ := ih
      obtain ⟨hform, hpost⟩ := framed.of_isPost post
      have hstart : start.token? config.xsrf = some token := by
        rw [← earlier.token?_eq]
        exact present
      have hlength := framed.length_eq
      -- the input is added first; its form, which stands before all inputs, is changed then
      refine ⟨_, _, (framed.add hstart).modifyNode hform fun before prior hprior keeps => ?_,
        by simp⟩
      exact keeps.appendChild (by omega) (by simp) (hpost prior hprior)

/-! ### Whose children the inputs are -/

/-- Children are nodes of the document. -/
def Closed (document : MemoryDocument) : Prop :=
  ∀ node ∈ document.nodes, ∀ child ∈ node.children, child < document.nodes.length

/-- How many times a place is listed as a child, in the lists of all nodes together. -/
def timesListed (document : MemoryDocument) (place : Nat) : Nat :=
  (document.nodes.flatMap MemoryNode.children).count place

/-- A place that no node has is listed nowhere. -/
theorem Closed.timesListed_eq_zero {document : MemoryDocument} (closed : document.Closed)
    {place : Nat} (h : document.nodes.length ≤ place) : document.timesListed place = 0 := by
  refine List.count_eq_zero.mpr fun hlisted => ?_
  obtain ⟨node, hnode, hchild⟩ := List.mem_flatMap.mp hlisted
  have hlt := closed node hnode place hchild
  omega

/-- A change that lists a child some times more for one element does so for the whole list. -/
theorem count_flatMap_modify {α : Type} {f : α → α} {listed : α → List Nat} {place extra : Nat}
    (h : ∀ a, (listed (f a)).count place = (listed a).count place + extra) (l : List α) (n : Nat) :
    ((l.modify n f).flatMap listed).count place =
      (l.flatMap listed).count place + if n < l.length then extra else 0 := by
  induction l generalizing n with
  | nil => simp
  | cons head tail ih =>
      cases n with
      | zero =>
          rw [List.modify_zero_cons, List.flatMap_cons, List.flatMap_cons, List.count_append,
            List.count_append, h, if_pos (List.length_pos_of_ne_nil (List.cons_ne_nil _ _))]
          omega
      | succ n =>
          rw [List.modify_succ_cons, List.flatMap_cons, List.flatMap_cons, List.count_append,
            List.count_append, ih]
          simp only [List.length_cons, Nat.succ_lt_succ_iff]
          omega

theorem timesListed_modifyNode {change : MemoryNode → MemoryNode}
    (h : ∀ node, (change node).children = node.children) (document : MemoryDocument)
    (place other : Nat) :
    (document.modifyNode place change).timesListed other = document.timesListed other := by
  have hlisted : ∀ node, (change node).children.count other = node.children.count other + 0 :=
    fun node => by rw [h, Nat.add_zero]
  rw [timesListed, nodes_modifyNode, count_flatMap_modify hlisted, ite_self]
  rfl

/-- A form lists the input that it is given, once. -/
theorem timesListed_giveField {document : MemoryDocument} {form : Nat}
    (h : form < document.nodes.length) (name value : String) (place : Nat) :
    (document.giveField name value form).timesListed place =
      document.timesListed place + if place = document.nodes.length then 1 else 0 := by
  have hlisted : ∀ node : MemoryNode,
      (node.appendChild document.nodes.length).children.count place =
        node.children.count place + if place = document.nodes.length then 1 else 0 := by
    intro node
    rw [MemoryNode.appendChild, List.count_append, List.count_singleton]
    by_cases heq : place = document.nodes.length
    · simp [heq]
    · simp [heq, Ne.symm heq]
  have hlt : form < (document.add (.hiddenInput name value)).nodes.length := by
    simp only [nodes_add, List.length_append]
    omega
  rw [timesListed, giveField, nodes_modifyNode, count_flatMap_modify hlisted, if_pos hlt]
  simp [timesListed, MemoryNode.hiddenInput, MemoryNode.ofTag]

/-- **Each input that was added is listed once more than before**, and no other node is. -/
theorem Edited.timesListed_eq {config : PageConfig} {flipped : String → Prop}
    {start document : MemoryDocument} {fields : Nat}
    (h : Edited config flipped start fields document) (place : Nat) :
    document.timesListed place = start.timesListed place +
      if start.nodes.length ≤ place ∧ place < document.nodes.length then 1 else 0 := by
  induction h with
  | start => rw [if_neg (by omega), Nat.add_zero]
  | visibility _ _ _ next ih =>
      rw [setVisibility, timesListed_modifyNode (MemoryNode.children_setVisibility _ next), ih]
      simp
  | source _ _ _ value ih =>
      have hchildren : ∀ node : MemoryNode, (node.setAttribute "src" value).children =
          node.children := fun _ => rfl
      rw [setSource, timesListed_modifyNode hchildren, ih]
      simp
  | @field _ document token form earlier present post ih =>
      obtain ⟨kept, added, framed, -⟩ := earlier.framed
      have hlength := framed.length_eq
      have hform : form < document.nodes.length := by
        have hlt := (framed.of_isPost post).1
        rw [framed.length_kept] at hlt
        omega
      have hafter : (document.giveField config.xsrf.fieldName token form).nodes.length =
          document.nodes.length + 1 := by
        simp [giveField]
      -- the place of the new input is the bound up to which inputs were listed so far
      rw [timesListed_giveField hform, ih, hafter]
      split_ifs <;> omega

end MemoryDocument

end PageBehaviors
