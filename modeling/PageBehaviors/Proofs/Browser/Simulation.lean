import PageBehaviors.Proofs.Browser.Mirrors

/-!
# A page cannot tell a browser from a list of nodes

If a browser's document mirrors a list of nodes and no call fails, each call of a page is answered
alike by the two, and the one document still mirrors the other afterwards.

## Main statements

* `Browser.Mirrors.simulation` — the relation is a simulation for all settings that suit it.
-/

namespace PageBehaviors.Browser.Mirrors

open PageBehaviors.Action (CallsAgree)

variable {names : List String} {known : Nat} {memory : MemoryDocument} {live : LiveDocument}
variable {config : PageConfig}

/-! ### Lookups -/

/-- No node has the empty id. -/
theorem elementById_empty (mirrors : Mirrors names known memory live) :
    Document.elementById memory "" = none := by
  cases h : Document.elementById memory "" with
  | none => rfl
  | some place =>
      have hid := MemoryDocument.getElem?_ids_of_elementById h
      rw [MemoryDocument.ids, List.getElem?_map] at hid
      obtain ⟨node, hnode, hempty⟩ := Option.map_eq_some_iff.mp hid
      exact absurd hempty (mirrors.ids place node hnode)

theorem elementById_eq (suits : Suits names config) (mirrors : Mirrors names known memory live)
    (id : String) :
    Document.elementById memory id = Document.elementById live id ∧
      ∀ place, Document.elementById memory id = some place → place < known := by
  have hfield : ∀ node : MemoryNode, node.IsField →
      (node.attributes.get? "id" == some id) = false := fun _ hnode => hnode.id_ne id
  constructor
  · by_cases hempty : id = ""
    · subst hempty
      rw [mirrors.elementById_empty]
      rfl
    · have hplaces := mirrors.places_eq (fun element => element.get? "id" == some id)
        (fun element node h => by rw [suits.get?_eq h (by simp [usedNames]) (by decide)]) hfield
      show _ = if id = "" then none else live.tree.first? _
      rw [if_neg hempty, MemoryDocument.elementById_eq_head?, ← hplaces, Tree.select,
        List.head?_filter]
      rfl
  · intro place hplace
    rw [MemoryDocument.elementById_eq_head?] at hplace
    exact mirrors.lt_of_mem_places hfield (List.mem_of_head? hplace)

theorem forms_eq (mirrors : Mirrors names known memory live) :
    Document.forms memory = Document.forms live ∧ ∀ form ∈ Document.forms memory, form < known := by
  have hfield : ∀ node : MemoryNode, node.IsField → (node.tag == "form") = false := by
    intro node hnode
    rw [hnode.1]
    decide
  constructor
  · refine (mirrors.places_eq _ (fun element node h => ?_) hfield).symm
    rw [Element.isForm, h.tag]
  · exact fun form hform => mirrors.lt_of_mem_places hfield hform

/-! ### Calls -/

theorem elementsWithAttribute_agree (suits : Suits names config) :
    CallsAgree (Mirrors names known) (fun found other => found = other ∧
        ∀ elements, found = .ok elements → ∀ element ∈ elements, element < known)
      (Document.elementsWithAttribute config.toggle.marker : StateM MemoryDocument _)
      (Document.elementsWithAttribute config.toggle.marker : StateM LiveDocument _) := by
  refine CallsAgree.of_run fun memory live mirrors => ?_
  have hfield : ∀ node : MemoryNode, node.IsField →
      (node.attributes.get? config.toggle.marker).isSome = false := by
    intro node hnode
    rw [suits.marker_of_isField hnode]
    rfl
  have hplaces := mirrors.places_eq
    (fun element => (element.get? config.toggle.marker).isSome)
    (fun element node h => by rw [suits.get?_marker h]) hfield
  refine ⟨_, _, _, _, rfl, LiveDocument.guarded_ok
    (LiveDocument.run_querySelectorAll mirrors.reliable suits.identifier), ?_, mirrors⟩
  refine ⟨by rw [hplaces], ?_⟩
  rintro elements heq element hmem
  obtain rfl := Except.ok.inj heq
  exact mirrors.lt_of_mem_places hfield hmem

theorem attributeOf_agree (suits : Suits names config) (n : Nat) :
    CallsAgree (Mirrors names known) Eq
      (Document.attributeOf n config.toggle.marker : StateM MemoryDocument _)
      (Document.attributeOf n config.toggle.marker : StateM LiveDocument _) := by
  refine CallsAgree.of_run fun memory live mirrors => ?_
  refine ⟨_, _, _, _, rfl, LiveDocument.run_attributeOf mirrors.reliable n _, ?_, mirrors⟩
  exact (mirrors.bind_eq (fun element node h => suits.get?_marker h) n).symm

theorem setSource_agree (suits : Suits names config) {n : Nat} (hn : n < known) (value : String) :
    CallsAgree (Mirrors names known) Eq
      (Document.setAttribute n "src" value : StateM MemoryDocument _)
      (Document.setAttribute n "src" value : StateM LiveDocument _) := by
  refine CallsAgree.of_run fun memory live mirrors => ?_
  refine ⟨_, _, _, _, rfl, LiveDocument.guarded_ok
    (LiveDocument.run_setAttribute mirrors.reliable n "src" value), rfl, ?_⟩
  refine mirrors.modify hn (fun element node h => ?_) (fun node => ?_) fun node => rfl
  · exact h.setAttribute suits.unconfused (suits.used "class" (by simp [usedNames]))
      (suits.used "src" (by simp [usedNames])) (by decide) value
  · exact Attributes.get?_set_ne _ _ (by decide)

/-- Making an element visible or hidden. -/
theorem setVisibility (suits : Suits names config) (mirrors : Mirrors names known memory live)
    {n : Nat} (hn : n < known) (visibility : Section.Visibility) :
    Mirrors names known
      (memory.modifyNode n (·.setVisibility config.toggle.hiddenClass visibility))
      (live.onTree (·.modify n (·.setVisibility config.toggle.hiddenClass visibility))) := by
  refine mirrors.modify hn (fun element node h => ?_) (fun node => ?_) fun node => ?_
  · exact h.setVisibility suits.token visibility
  · rw [MemoryNode.setVisibility_eq]
  · rw [MemoryNode.setVisibility_eq]

/-- A change of classes that is not refused. -/
theorem run_changeClasses (mirrors : Mirrors names known memory live) (n : Nat)
    (change : MemoryNode → MemoryNode) :
    (MemoryDocument.changeClasses n change).run memory = (.ok (), memory.modifyNode n change) := by
  show MemoryDocument.changeClasses n change memory = _
  rw [MemoryDocument.changeClasses, mirrors.writable]
  rfl

theorem addClass_agree (suits : Suits names config) {n : Nat} (hn : n < known) :
    CallsAgree (Mirrors names known) Eq
      (Document.addClass n config.toggle.hiddenClass : StateM MemoryDocument _)
      (Document.addClass n config.toggle.hiddenClass : StateM LiveDocument _) := by
  refine CallsAgree.of_run fun memory live mirrors => ?_
  exact ⟨_, _, _, _, mirrors.run_changeClasses n _, LiveDocument.guarded_ok
    (LiveDocument.run_classAdd mirrors.reliable n suits.token), rfl,
    mirrors.setVisibility suits hn .hidden⟩

theorem removeClass_agree (suits : Suits names config) {n : Nat} (hn : n < known) :
    CallsAgree (Mirrors names known) Eq
      (Document.removeClass n config.toggle.hiddenClass : StateM MemoryDocument _)
      (Document.removeClass n config.toggle.hiddenClass : StateM LiveDocument _) := by
  refine CallsAgree.of_run fun memory live mirrors => ?_
  exact ⟨_, _, _, _, mirrors.run_changeClasses n _, LiveDocument.guarded_ok
    (LiveDocument.run_classRemove mirrors.reliable n suits.token), rfl,
    mirrors.setVisibility suits hn .visible⟩

theorem formMethod_agree (suits : Suits names config) (n : Nat) :
    CallsAgree (Mirrors names known)
      (fun method other => Document.isPost method = Document.isPost other)
      (Document.formMethod n : StateM MemoryDocument _)
      (Document.formMethod n : StateM LiveDocument _) := by
  refine CallsAgree.of_run fun memory live mirrors => ?_
  refine ⟨_, _, _, _, rfl, rfl, ?_, mirrors⟩
  have hrel := mirrors.renders_getElem? n
  generalize live.tree.elements[n]? = element at hrel ⊢
  generalize memory.nodes[n]? = node at hrel ⊢
  cases hrel with
  | none => rfl
  | some h =>
      exact (h.isPost_method suits.unconfused (suits.used "class" (by simp [usedNames]))
        (suits.used "method" (by simp [usedNames]))).symm

theorem appendHiddenInput_agree (suits : Suits names config) {form : Nat} (hform : form < known)
    (name value : String) :
    CallsAgree (Mirrors names known) Eq
      (Document.appendHiddenInput form name value : StateM MemoryDocument _)
      (Document.appendHiddenInput form name value : StateM LiveDocument _) := by
  refine CallsAgree.of_run fun memory live mirrors => ?_
  refine ⟨_, _, _, _, rfl, LiveDocument.guarded_ok
    (LiveDocument.run_appendHiddenInput mirrors.reliable form name value), rfl, ?_⟩
  refine mirrors.appendHiddenInput hform ?_
  rw [← Markup.node_hiddenInput]
  refine Markup.renders suits.unconfused (suits.used "class" (by simp [usedNames])) ?_ ?_
  · show Text.lower "input" = "input"
    decide +kernel
  · intro entry hentry
    refine suits.used entry.1 ?_
    simp only [Markup.hiddenInput, List.mem_cons, List.not_mem_nil, or_false] at hentry
    rcases hentry with rfl | rfl | rfl
    · simp [usedNames]
    · simp [usedNames]
    · simp [usedNames]

theorem cookie_agree :
    CallsAgree (Mirrors names known) Eq (Document.cookie : StateM MemoryDocument _)
      (Document.cookie : StateM LiveDocument _) := by
  refine CallsAgree.of_run fun memory live mirrors => ?_
  have hmemory : (Document.cookie : StateM MemoryDocument _).run memory =
      (.ok live.cookies, memory) := by
    show (Document.cookie : StateM MemoryDocument _) memory = _
    simp only [Document.cookie, mirrors.cookies]
  exact ⟨_, _, _, _, hmemory, LiveDocument.run_cookie mirrors.reliable mirrors.html, rfl, mirrors⟩

/-- **A page cannot tell a browser's document from the list of nodes that it mirrors.** -/
theorem simulation (suits : Suits names config) :
    Document.Simulation config (Mirrors names known) (· < known) where
  elementById _ _ mirrors := mirrors.elementById_eq suits
  hasClass _ _ mirrors n _ :=
    (mirrors.satisfies_eq _ (fun element node h => by rw [h.classes]) n).symm
  forms _ _ mirrors := mirrors.forms_eq
  elementsWithAttribute := elementsWithAttribute_agree suits
  attributeOf n _ := attributeOf_agree suits n
  setSource _ hn := setSource_agree suits hn
  addClass _ hn := addClass_agree suits hn
  removeClass _ hn := removeClass_agree suits hn
  formMethod n _ := formMethod_agree suits n
  appendHiddenInput _ hform value := appendHiddenInput_agree suits hform _ value
  cookie := cookie_agree

end PageBehaviors.Browser.Mirrors
