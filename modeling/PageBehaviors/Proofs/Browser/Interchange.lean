import PageBehaviors.Proofs.Browser.Simulation

/-!
# One page over a browser and over a list of nodes

The same markups can be read into a list of nodes and into the document of a browser.  A page that
is used in the same way over both gives the same replies and writes the same lines, and the
browser's document mirrors the list of nodes all along.

## Main definitions and statements

* `Browser.Markup.nodes`, `Browser.Markup.document` — the two documents of a list of markups.
* `Browser.Markup.Plain` — markups and settings that do not tell the two apart.
* `Browser.Markup.Plain.mirrors` — the documents at the start.
* `Browser.Markup.pages_agree` — what is seen of a page over either.
-/

namespace PageBehaviors

namespace MemoryDocument

/-! ### Adding nodes with their classes -/

/-- Changing the node that was added last. -/
theorem modifyNode_add (node : MemoryNode) (change : MemoryNode → MemoryNode)
    (document : MemoryDocument) :
    (document.add node).modifyNode document.nodes.length change = document.add (change node) := by
  have hnodes : (document.nodes ++ [node]).modify document.nodes.length change =
      document.nodes ++ [change node] := by
    rw [List.modify_eq_take_cons_drop (by simp)]
    simp
  rw [modifyNode, nodes_add, hnodes]
  rfl

/-- Classes that differ are given to a new node all of them, in their order. -/
theorem giveClasses_add {document : MemoryDocument} (hwritable : document.classesReadOnly = false)
    {node : MemoryNode} {names : List String} (hnodup : (node.classes ++ names).Nodup) :
    (document.add node).giveClasses document.nodes.length names =
      document.add { node with classes := node.classes ++ names } := by
  induction names generalizing node with
  | nil => rw [giveClasses_nil, List.append_nil]
  | cons name names ih =>
      have hnotMem : name ∉ node.classes := fun hmem =>
        (List.nodup_append.mp hnodup).2.2 name hmem name List.mem_cons_self rfl
      have hgiven : node.addClass name = { node with classes := node.classes ++ [name] } := by
        rw [MemoryNode.addClass, if_neg hnotMem]
      have hstep : ((changeClasses document.nodes.length (·.addClass name)).run
            (document.add node)).2 =
          document.add { node with classes := node.classes ++ [name] } := by
        show (changeClasses document.nodes.length (·.addClass name) (document.add node)).2 = _
        rw [changeClasses, if_neg (by simp [add, hwritable]), modifyNode_add, hgiven]
      rw [giveClasses_cons, hstep, ih (by simpa using hnodup)]
      simp

/-- A node without classes is added with all the classes that it is to have. -/
theorem insert_eq_add {document : MemoryDocument} (hwritable : document.classesReadOnly = false)
    {node : MemoryNode} (hclasses : node.classes = []) {names : List String}
    (hnodup : names.Nodup) :
    document.insert node names = document.add { node with classes := names } := by
  rw [insert, giveClasses_add hwritable (by simpa [hclasses] using hnodup), hclasses,
    List.nil_append]

end MemoryDocument

namespace Browser

/-! ### Elements without a parent -/

namespace Mirrors

variable {names : List String} {known : Nat} {memory : MemoryDocument} {live : LiveDocument}

/-- As long as all nodes are from the start, one more can be added to them. -/
theorem add (mirrors : Mirrors names known memory live) (hknown : memory.nodes.length = known)
    {element : Element} {node : MemoryNode} (hrenders : element.Renders names node)
    (hid : node.attributes.get? "id" ≠ some "") (hchildren : node.children = []) :
    Mirrors names (known + 1) (memory.add node) (live.onTree (·.add none element)) := by
  have hsize : live.tree.size = known := mirrors.size_eq.trans hknown
  have hparent : ∀ p, none = some p → p ∈ live.tree.forest.preorder := by
    intro p hp
    cases hp
  constructor
  · simpa [LiveDocument.onTree] using List.rel_append mirrors.renders (.cons hrenders .nil)
  · exact live.tree.mem_preorder_add _ hparent mirrors.attached
  · show (live.tree.add _ _).forest.childrenOf none = _
    rw [live.tree.childrenOf_add _ hparent, mirrors.roots, if_pos rfl, hsize, List.range_succ]
  · have hpreorder : live.tree.forest.preorder = List.range known := by
      rw [← mirrors.order]
      refine (List.filter_eq_self.mpr fun n hn => decide_eq_true ?_).symm
      rw [← hsize]
      exact live.tree.created n hn
    show (live.tree.add _ _).forest.preorder.filter _ = _
    rw [Tree.forest_add, Forest.attach, Forest.preorder_append, hpreorder, hsize,
      ← List.range_succ]
    exact List.filter_eq_self.mpr fun n hn => decide_eq_true (List.mem_range.mp hn)
  · intro n other hother
    show (live.tree.add _ _).forest.childrenOf (some n) = _
    rw [live.tree.childrenOf_add _ hparent, if_neg (by simp), List.append_nil]
    rcases MemoryDocument.getElem?_add hother with hother | ⟨rfl, rfl⟩
    · exact mirrors.children n other hother
    · rw [hchildren, ← mirrors.size_eq]
      exact live.tree.childrenOf_size
  · intro n other hother
    rcases MemoryDocument.getElem?_add hother with hother | ⟨_, rfl⟩
    · exact mirrors.ids n other hother
    · exact hid
  · intro n other hother hn
    have hlt := (List.getElem?_eq_some_iff.mp hother).1
    rw [MemoryDocument.nodes_add, List.length_append, List.length_singleton] at hlt
    omega
  · exact mirrors.cookies
  · exact mirrors.html
  · exact mirrors.writable
  · exact mirrors.reliable

end Mirrors

/-! ### Markups -/

namespace Markup

/-- The nodes that markups stand for, with a cookie line. -/
def nodes (markups : List Markup) (cookies : String) : MemoryDocument :=
  markups.foldl (fun document markup => document.insert markup.bare markup.classes)
    { cookies := some cookies }

/-- The document of a browser in which markups stand side by side, with a cookie line. -/
def document (markups : List Markup) (cookies : String) : LiveDocument :=
  markups.foldl (fun document markup => document.onTree (·.add none markup.element))
    { cookies := cookies }

/-- The names of attributes that a page with the given settings and markups use. -/
def names (config : PageConfig) (markups : List Markup) : List String :=
  usedNames config ++ markups.flatMap fun markup => markup.attributes.map Prod.fst

/-- Markups and settings that do not tell a browser from a list of nodes. -/
structure Plain (config : PageConfig) (markups : List Markup) : Prop where
  tags : ∀ markup ∈ markups, Text.lower markup.tag = markup.tag
  ids : ∀ markup ∈ markups, markup.get? "id" ≠ some ""
  /-- Two of the names are the same in small letters only if they are equal. -/
  unconfused : Unconfused (names config markups)
  identifier : Text.isIdentifier config.toggle.marker = true
  marker : config.toggle.marker ∉ ["class", "type", "name", "value"]
  token : Text.IsToken config.toggle.hiddenClass

variable {config : PageConfig} {markups : List Markup}

theorem Plain.suits (plain : Plain config markups) : Suits (names config markups) config where
  unconfused := plain.unconfused
  used _ hname := List.mem_append_left _ hname
  identifier := plain.identifier
  marker := plain.marker
  token := plain.token

/-- The documents of no markups. -/
theorem mirrors_nil (names : List String) (cookies : String) :
    Mirrors names 0 (nodes [] cookies) (document [] cookies) where
  renders := List.Forall₂.nil
  attached n hn := absurd hn (Nat.not_lt_zero n)
  roots := rfl
  order := rfl
  children n node hnode := by simp [nodes] at hnode
  ids n node hnode := by simp [nodes] at hnode
  added n node hnode := by simp [nodes] at hnode
  cookies := rfl
  html := rfl
  writable := rfl
  reliable := rfl

/-- Reading markups into both kinds of documents. -/
theorem mirrors_of_names {names : List String} (unconfused : Unconfused names)
    (hclass : "class" ∈ names) (htags : ∀ markup ∈ markups, Text.lower markup.tag = markup.tag)
    (hids : ∀ markup ∈ markups, markup.get? "id" ≠ some "")
    (hnames : ∀ markup ∈ markups, ∀ entry ∈ markup.attributes, entry.1 ∈ names)
    (cookies : String) :
    (nodes markups cookies).nodes.length = markups.length ∧
      Mirrors names markups.length (nodes markups cookies) (document markups cookies) := by
  induction markups using List.reverseRecOn with
  | nil => exact ⟨rfl, mirrors_nil names cookies⟩
  | append_singleton markups markup ih =>
      obtain ⟨hlength, hmirrors⟩ := ih
        (fun other h => htags other (List.mem_append_left _ h))
        (fun other h => hids other (List.mem_append_left _ h))
        (fun other h => hnames other (List.mem_append_left _ h))
      have hmem : markup ∈ markups ++ [markup] := by simp
      have hnodes : nodes (markups ++ [markup]) cookies =
          (nodes markups cookies).add markup.node := by
        rw [nodes, List.foldl_append, List.foldl_cons, List.foldl_nil, ← nodes]
        exact MemoryDocument.insert_eq_add hmirrors.writable rfl (Text.nodup_tokens _)
      have hdocument : document (markups ++ [markup]) cookies =
          (document markups cookies).onTree (·.add none markup.element) := by
        rw [document, List.foldl_append, List.foldl_cons, List.foldl_nil, ← document]
      rw [hnodes, hdocument, List.length_append, List.length_singleton]
      refine ⟨by simp [hlength], hmirrors.add hlength ?_ ?_ rfl⟩
      · exact markup.renders unconfused hclass (htags markup hmem) (hnames markup hmem)
      · rw [get?_node markup (by decide)]
        exact hids markup hmem

theorem Plain.mirrors (plain : Plain config markups) (cookies : String) :
    Mirrors (names config markups) markups.length (nodes markups cookies)
      (document markups cookies) := by
  refine (mirrors_of_names plain.unconfused (plain.suits.used "class" (by simp [usedNames]))
    plain.tags plain.ids (fun markup hmarkup entry hentry => ?_) cookies).2
  exact List.mem_append_right _
    (List.mem_flatMap.mpr ⟨markup, hmarkup, List.mem_map_of_mem hentry⟩)

/-- **A page over a browser is as good as one over a list of nodes**: whatever is done with it, in
any order, the replies, the lines, the bindings and the visibilities are the same, and the
browser's document mirrors the list of nodes.  As the operations are arbitrary, this is so after
each of them. -/
theorem pages_agree (plain : Plain config markups) (cookies : String)
    (operations : List Operation) :
    let memory := (Session.run operations).run
      (⟨nodes markups cookies, ⟨config, []⟩⟩ : Session MemoryDocument Nat)
    let live := (Session.run operations).run
      (⟨document markups cookies, ⟨config, []⟩⟩ : Session LiveDocument Nat)
    memory.value = live.value ∧ memory.entries = live.entries ∧
      memory.state.page = live.state.page ∧
      (∀ id, Section.visibility? config.toggle id memory.state.document =
        Section.visibility? config.toggle id live.state.document) ∧
      Mirrors (names config markups) markups.length memory.state.document live.state.document := by
  intro memory live
  have sim : Document.Simulation config (Mirrors (names config markups) markups.length) _ :=
    Mirrors.simulation plain.suits
  obtain ⟨hentries, hvalue, hagree⟩ := sim.run operations
    ⟨nodes markups cookies, ⟨config, []⟩⟩ ⟨document markups cookies, ⟨config, []⟩⟩
    ⟨plain.mirrors cookies, rfl, rfl⟩
  refine ⟨hvalue, hentries, hagree.page, fun id => ?_, hagree.document⟩
  exact sim.visibility? hagree.document id

/-- A form, a trigger, its section and the section's icon. -/
def folder : List Markup :=
  [⟨"form", [("id", "search"), ("method", "POST")]⟩, ⟨"a", [("showHide", "box")]⟩,
    ⟨"div", [("id", "box"), ("class", "wide  hidden wide")]⟩,
    ⟨"img", [("id", "boxImg"), ("dataTitle", "fold")]⟩]

theorem plain_folder : Plain {} folder where
  tags := by decide +kernel
  ids := by decide +kernel
  unconfused := by decide +kernel
  identifier := by decide +kernel
  marker := by decide +kernel
  token := by decide +kernel

/-- Over a browser, the page answers what it answers over the list of nodes. -/
theorem pages_agree_folder :
    ((Session.run [.init, .click 0, .visibility "box", .init, .toggle "box"]).run
      (⟨document folder "XSRF-TOKEN=t0", ⟨{}, []⟩⟩ : Session LiveDocument Nat)).value =
      [.report ⟨1, 1⟩, .visibility (some .visible), .visibility (some .visible),
        .report ⟨1, 1⟩, .visibility (some .hidden)] :=
  (pages_agree plain_folder "XSRF-TOKEN=t0" _).1.symm.trans (by decide +kernel)

end Markup

end Browser

end PageBehaviors
