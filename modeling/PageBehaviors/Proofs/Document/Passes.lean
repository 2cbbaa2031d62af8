import Mathlib.Data.List.Nodup
import PageBehaviors.Proofs.Document.Frame

/-!
# The passes over a list of nodes none of whose calls fail

Where no call fails, the two passes of setting a page up do exactly what they are for: the one finds
every trigger, and the other gives the token to every form that is sent with POST.  Neither depends
on what earlier passes and flips of sections have done to the document.

## Main definitions and statements

* `MemoryDocument.bindings`, `MemoryDocument.run_discover` — finding the triggers.
* `MemoryDocument.posts`, `MemoryDocument.injected`, `MemoryDocument.run_inject` — giving the token.
* `MemoryDocument.Edited.bindings_eq`, `MemoryDocument.Edited.posts_eq` — edits change neither the
  triggers nor the forms.
-/

namespace PageBehaviors

open Section (Binding)

/-! ### Views in which edits do not show -/

namespace MemoryDocument

section

variable {ι : Type}

/-- What a view shows of the node at a place; where there is none, it is blank. -/
def viewAt (view : MemoryNode → ι) (blank : ι) (document : MemoryDocument) (place : Nat) : ι :=
  document.nodes[place]?.elim blank view

variable {view : MemoryNode → ι} {blank : ι} (document : MemoryDocument)

theorem viewAt_modifyNode {change : MemoryNode → MemoryNode}
    (h : ∀ node, view (change node) = view node) (place other : Nat) :
    (document.modifyNode place change).viewAt view blank other =
      document.viewAt view blank other := by
  rw [viewAt, viewAt, nodes_modifyNode, List.getElem?_modify]
  cases document.nodes[other]? with
  | none => rfl
  | some node => by_cases heq : place = other <;> simp [heq, h]

theorem viewAt_giveField {name value : String} (hinput : view (.hiddenInput name value) = blank)
    (hchild : ∀ child node, view (MemoryNode.appendChild child node) = view node)
    (form place : Nat) :
    (document.giveField name value form).viewAt view blank place =
      document.viewAt view blank place := by
  rw [giveField, viewAt_modifyNode _ (hchild _), viewAt, viewAt, getElem?_nodes_add]
  split
  · next h => simp [h, hinput]
  · rfl

theorem satisfies_eq_viewAt (test : MemoryNode → Bool) :
    document.satisfies test = document.viewAt test false := by
  funext place
  rw [satisfies, viewAt]
  cases document.nodes[place]? <;> rfl

theorem attribute?_eq_viewAt (name : String) (place : Nat) :
    document.attribute? place name =
      document.viewAt (fun node => node.attributes.get? name) none place := by
  rw [attribute?, viewAt]
  cases document.nodes[place]? <;> rfl

end

end MemoryDocument

/-- A view of nodes that no edit changes, and in which an input is blank. -/
structure MemoryNode.Steady {ι : Type} (config : PageConfig) (view : MemoryNode → ι) (blank : ι) :
    Prop where
  visibility : ∀ next node, view (setVisibility config.toggle.hiddenClass next node) = view node
  source : ∀ value node, view (setAttribute "src" value node) = view node
  child : ∀ place node, view (appendChild place node) = view node
  input : ∀ token, view (hiddenInput config.xsrf.fieldName token) = blank

theorem MemoryNode.steady_isPost (config : PageConfig) : Steady config isPost false where
  visibility next node := isPost_congr (tag_setVisibility ..) (by rw [attributes_setVisibility])
  source value node := isPost_congr rfl (Attributes.get?_set_ne _ _ (by decide))
  child place node := rfl
  input token := rfl

theorem MemoryNode.steady_attribute (config : PageConfig) {name : String}
    (h : name ∉ ["src", "type", "name", "value"]) :
    Steady config (fun node => node.attributes.get? name) none where
  visibility next node := by rw [attributes_setVisibility]
  source value node := Attributes.get?_set_ne _ _ fun heq => h (heq ▸ List.mem_cons_self)
  child place node := rfl
  input token :=
    (isField_hiddenInput _ token).2 name fun hname => h (List.mem_cons_of_mem _ hname)

namespace MemoryDocument

/-- **Edits do not show in a steady view.** -/
theorem Edited.viewAt_eq {config : PageConfig} {flipped : String → Prop}
    {start document : MemoryDocument} {fields : Nat} {ι : Type} {view : MemoryNode → ι} {blank : ι}
    (h : Edited config flipped start fields document)
    (steady : MemoryNode.Steady config view blank) (place : Nat) :
    document.viewAt view blank place = start.viewAt view blank place := by
  induction h with
  | start => rfl
  | visibility _ _ _ next ih =>
      rw [setVisibility, viewAt_modifyNode _ (steady.visibility next), ih]
  | source _ _ _ value ih => rw [setSource, viewAt_modifyNode _ (steady.source value), ih]
  | field _ _ _ ih => rw [viewAt_giveField _ (steady.input _) steady.child, ih]

/-! ### Triggers -/

/-- The binding of the node at a place, if its marker names a section. -/
def binding? (config : ToggleConfig) (document : MemoryDocument) (place : Nat) :
    Option (Binding Nat) :=
  ((document.attribute? place config.marker).filter (· != "")).map fun target =>
    ⟨place, target, config.iconId target⟩

/-- The bindings of a document. -/
def bindings (config : ToggleConfig) (document : MemoryDocument) : List (Binding Nat) :=
  (document.places fun node => (node.attributes.get? config.marker).isSome).filterMap
    (document.binding? config)

variable (document : MemoryDocument)

theorem satisfies_marker (name : String) (place : Nat) :
    document.satisfies (fun node => (node.attributes.get? name).isSome) place =
      (document.attribute? place name).isSome := by
  rw [satisfies, attribute?]
  cases document.nodes[place]? <;> rfl

theorem run_bind? (config : ToggleConfig) (place : Nat) :
    ((Section.bind? config place).run document).value = document.binding? config place ∧
      ((Section.bind? config place).run document).state = document := by
  have hanswer : (Document.attributeOf place config.marker : StateM MemoryDocument _).run document =
      (document.attribute? place config.marker, document) := rfl
  rw [binding?, Section.bind?, Action.run_bind, Action.run_call, hanswer]
  cases document.attribute? place config.marker with
  | none => exact ⟨rfl, rfl⟩
  | some target => by_cases h : target = "" <;> simp [h, Option.filter_some]

theorem run_bindAll (config : ToggleConfig) (triggers : List Nat) :
    ((Section.bindAll config triggers).run document).value =
        triggers.filterMap (document.binding? config) ∧
      ((Section.bindAll config triggers).run document).state = document := by
  induction triggers with
  | nil => exact ⟨rfl, rfl⟩
  | cons trigger triggers ih =>
      obtain ⟨hvalue, hstate⟩ := document.run_bind? config trigger
      simp only [Section.bindAll, Action.value_bind, Action.state_bind, Action.run_pure, hstate,
        hvalue, ih, List.filterMap_cons]
      cases document.binding? config trigger <;> simp

/-- **Finding the triggers** gives the bindings and changes nothing. -/
theorem run_discover (config : ToggleConfig) :
    ((Section.discover config).run document).value = document.bindings config ∧
      ((Section.discover config).run document).state = document :=
  document.run_bindAll config _

/-! ### The token -/

/-- The places of the forms that are sent with POST. -/
def posts (document : MemoryDocument) : List Nat :=
  document.places MemoryNode.isPost

/-- Give each node of a list an input, one after the other. -/
def giveFields (name value : String) (forms : List Nat) (document : MemoryDocument) :
    MemoryDocument :=
  forms.foldl (fun given form => given.giveField name value form) document

/-- The document after its forms were given the token. -/
def injected (config : XsrfConfig) (document : MemoryDocument) : MemoryDocument :=
  match document.token? config with
  | none => document
  | some token => document.giveFields config.fieldName token document.posts

theorem satisfies_isPost_giveField (name value : String) (form place : Nat) :
    (document.giveField name value form).satisfies MemoryNode.isPost place =
      document.satisfies MemoryNode.isPost place := by
  have hinput : (MemoryNode.hiddenInput name value).isPost = false := rfl
  rw [satisfies_eq_viewAt, satisfies_eq_viewAt, viewAt_giveField _ hinput fun _ _ => rfl]

/-- Giving the token to a form adds an input if the form is sent with POST. -/
theorem run_injectInto (config : XsrfConfig) (token : String) (form : Nat) :
    ((FormToken.injectInto config token form).run document).value =
        (if document.satisfies MemoryNode.isPost form then 1 else 0) ∧
      ((FormToken.injectInto config token form).run document).state =
        if document.satisfies MemoryNode.isPost form then
          document.giveField config.fieldName token form
        else document := by
  have given := FormToken.injectInto_given config token form document
  have hanswer := document.isPost_formMethod form
  generalize (FormToken.injectInto config token form).run document = outcome at given
  cases given with
  | spared asked other =>
      rw [asked, other] at hanswer
      rw [← hanswer]
      exact ⟨rfl, (congrArg Prod.snd asked).symm⟩
  | @added method next after asked post appended =>
      rw [asked, post] at hanswer
      have hnext : document = next := congrArg Prod.snd asked
      have hafter : next.giveField config.fieldName token form = after :=
        congrArg Prod.snd appended
      rw [← hanswer, hnext, ← hafter]
      exact ⟨rfl, rfl⟩
  | refused asked post appended => cases congrArg Prod.fst appended

theorem run_injectAll (config : XsrfConfig) (token : String) (forms : List Nat) :
    ((FormToken.injectAll config token forms).run document).value =
        (forms.filter (document.satisfies MemoryNode.isPost)).length ∧
      ((FormToken.injectAll config token forms).run document).state =
        document.giveFields config.fieldName token
          (forms.filter (document.satisfies MemoryNode.isPost)) := by
  induction forms generalizing document with
  | nil => exact ⟨rfl, rfl⟩
  | cons form forms ih =>
      obtain ⟨hvalue, hstate⟩ := document.run_injectInto config token form
      rw [FormToken.run_injectAll_cons]
      simp only [hvalue, hstate]
      cases hpost : document.satisfies MemoryNode.isPost form with
      | false => simpa [List.filter_cons, hpost] using ih document
      | true =>
          -- the other forms are sent as before, so it makes no difference when they are asked
          have hsame : (document.giveField config.fieldName token form).satisfies
              MemoryNode.isPost = document.satisfies MemoryNode.isPost :=
            funext fun place => document.satisfies_isPost_giveField _ _ form place
          obtain ⟨hcount, hgiven⟩ := ih (document.giveField config.fieldName token form)
          rw [hsame] at hcount hgiven
          simp only [if_true, List.filter_cons, hpost, List.length_cons, hcount, hgiven]
          exact ⟨Nat.add_comm .., rfl⟩

/-- Among the forms, those that are sent with POST are found. -/
theorem filter_forms :
    (Document.forms document).filter (document.satisfies MemoryNode.isPost) = document.posts := by
  show (document.places fun node => node.tag == "form").filter _ = document.places _
  rw [places_eq, places_eq, List.filter_filter]
  refine List.filter_congr fun place _ => ?_
  simp only [satisfies]
  cases document.nodes[place]? with
  | none => rfl
  | some node => cases htag : node.tag == "form" <;> simp [MemoryNode.isPost, htag]

/-- **Giving the token** gives it to each form that is sent with POST, if there is one. -/
theorem run_inject (config : XsrfConfig) :
    ((FormToken.inject config).run document).value =
        (if (document.token? config).isSome then document.posts.length else 0) ∧
      ((FormToken.inject config).run document).state = document.injected config := by
  have injected := FormToken.inject_injected config document
  have hline := document.toOption_run_cookie
  have hrest := document.document_run_cookie
  generalize (FormToken.inject config).run document = outcome at injected
  cases injected with
  | unreadable asked =>
      rw [asked] at hline hrest
      have htoken : document.token? config = none := by
        rw [token?, ← hline]
        rfl
      simpa [MemoryDocument.injected, htoken] using hrest
  | absent asked missing =>
      rw [asked] at hline hrest
      have htoken : document.token? config = none := by
        rw [token?, ← hline]
        exact missing
      simpa [MemoryDocument.injected, htoken] using hrest
  | @given cookies token next asked present outcome run =>
      rw [asked] at hline hrest
      have htoken : document.token? config = some token := by
        rw [token?, ← hline]
        exact present
      obtain rfl : next = document := hrest
      obtain ⟨hcount, hgiven⟩ := next.run_injectAll config token (Document.forms next)
      rw [filter_forms] at hcount hgiven
      simp [MemoryDocument.injected, htoken, run, hcount, hgiven]

/-! ### After edits -/

namespace Edited

variable {config : PageConfig} {flipped : String → Prop} {start : MemoryDocument} {fields : Nat}
variable {document}

theorem length_le (h : Edited config flipped start fields document) :
    start.nodes.length ≤ document.nodes.length := by
  obtain ⟨kept, added, framed, -⟩ := h.framed
  have hlength := framed.length_eq
  omega

theorem satisfies_isPost_eq (h : Edited config flipped start fields document) (place : Nat) :
    document.satisfies MemoryNode.isPost place = start.satisfies MemoryNode.isPost place := by
  rw [satisfies_eq_viewAt, satisfies_eq_viewAt, h.viewAt_eq (MemoryNode.steady_isPost config)]

/-- **Edits make no form** that is sent with POST, and keep those there are. -/
theorem posts_eq (h : Edited config flipped start fields document) :
    document.posts = start.posts :=
  places_congr _ h.length_le h.satisfies_isPost_eq

/-- **Edits make no trigger** and keep those there are, unless the marker is an attribute that they
write. -/
theorem bindings_eq (h : Edited config flipped start fields document)
    (hmarker : config.toggle.marker ∉ ["src", "type", "name", "value"]) :
    document.bindings config.toggle = start.bindings config.toggle := by
  have hattribute : ∀ place, document.attribute? place config.toggle.marker =
      start.attribute? place config.toggle.marker := by
    intro place
    rw [attribute?_eq_viewAt, attribute?_eq_viewAt,
      h.viewAt_eq (MemoryNode.steady_attribute config hmarker)]
  have hbinding : document.binding? config.toggle = start.binding? config.toggle := by
    funext place
    rw [binding?, binding?, hattribute]
  rw [bindings, bindings, hbinding, places_congr _ h.length_le fun place => ?_]
  rw [satisfies_marker, satisfies_marker, hattribute]

end Edited

/-! ### Children -/

/-- The children of the node at a place. -/
def childrenAt (document : MemoryDocument) (place : Nat) : List Nat :=
  document.viewAt MemoryNode.children [] place

/-- A form that is given an input has one child more, and no other node has. -/
theorem length_childrenAt_giveField {form : Nat} (h : form < document.nodes.length)
    (name value : String) (place : Nat) :
    ((document.giveField name value form).childrenAt place).length =
      (document.childrenAt place).length + if form = place then 1 else 0 := by
  have hadd : (document.add (.hiddenInput name value)).childrenAt place =
      document.childrenAt place := by
    rw [childrenAt, childrenAt, viewAt, viewAt, getElem?_nodes_add]
    split
    · next hplace => simp [hplace, MemoryNode.hiddenInput, MemoryNode.ofTag]
    · rfl
  rw [← hadd, giveField, childrenAt, childrenAt, viewAt, viewAt, nodes_modifyNode,
    List.getElem?_modify]
  by_cases hplace : form = place
  · subst hplace
    have hnode : (document.add (.hiddenInput name value)).nodes[form]? =
        some document.nodes[form] := by
      rw [nodes_add, List.getElem?_append_left h, List.getElem?_eq_getElem h]
    rw [hnode]
    simp [MemoryNode.appendChild]
  · simp [hplace]

theorem length_childrenAt_giveFields {forms : List Nat}
    (h : ∀ form ∈ forms, form < document.nodes.length) (name value : String) (place : Nat) :
    ((document.giveFields name value forms).childrenAt place).length =
      (document.childrenAt place).length + forms.count place := by
  induction forms generalizing document with
  | nil => rfl
  | cons form forms ih =>
      obtain ⟨hform, hforms⟩ := List.forall_mem_cons.mp h
      have hlength : (document.giveField name value form).nodes.length =
          document.nodes.length + 1 := by
        simp [giveField]
      have hrest := ih (document.giveField name value form) fun other hother => by
        have hlt := hforms other hother
        omega
      rw [length_childrenAt_giveField document hform] at hrest
      rw [List.count_cons]
      simp only [beq_iff_eq]
      exact hrest.trans (by omega)

theorem mem_posts (place : Nat) :
    place ∈ document.posts ↔ document.satisfies MemoryNode.isPost place = true := by
  rw [posts, places_eq, List.mem_filter, List.mem_range]
  exact ⟨And.right, fun h => ⟨document.lt_of_satisfies h, h⟩⟩

theorem nodup_posts : document.posts.Nodup := by
  rw [posts, places_eq]
  exact List.nodup_range.filter _

/-- Giving the token gives each form that is sent with POST one child, if there is a token. -/
theorem length_childrenAt_injected (config : XsrfConfig) (place : Nat) :
    ((document.injected config).childrenAt place).length = (document.childrenAt place).length +
      if (document.token? config).isSome ∧ document.satisfies MemoryNode.isPost place = true then 1
      else 0 := by
  have hlt : ∀ form ∈ document.posts, form < document.nodes.length :=
    fun form hform => document.lt_of_satisfies ((document.mem_posts form).mp hform)
  have hcount : document.posts.count place =
      if document.satisfies MemoryNode.isPost place = true then 1 else 0 := by
    rw [document.nodup_posts.count]
    simp only [document.mem_posts]
  cases htoken : document.token? config with
  | none => simp [injected, htoken]
  | some token =>
      rw [injected, htoken]
      simp [length_childrenAt_giveFields _ hlt, hcount]

/-- Edits that give no input change no list of children. -/
theorem Edited.childrenAt_eq {config : PageConfig} {flipped : String → Prop}
    {start : MemoryDocument} (h : Edited config flipped start 0 document) (place : Nat) :
    document.childrenAt place = start.childrenAt place := by
  generalize hfields : 0 = fields at h
  induction h with
  | start => rfl
  | visibility _ _ _ next ih =>
      rw [setVisibility, childrenAt, viewAt_modifyNode _ (MemoryNode.children_setVisibility _ next)]
      exact ih hfields
  | source _ _ _ value ih =>
      have hchildren : ∀ node : MemoryNode, (node.setAttribute "src" value).children =
          node.children := fun _ => rfl
      rw [setSource, childrenAt, viewAt_modifyNode _ hchildren]
      exact ih hfields
  | field => cases hfields

end MemoryDocument

end PageBehaviors
