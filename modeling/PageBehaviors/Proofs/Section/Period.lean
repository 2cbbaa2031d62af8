import Mathlib.Logic.Function.Iterate
import PageBehaviors.Proofs.Browser.Toggle
import PageBehaviors.Proofs.Document.Reliable
import PageBehaviors.Proofs.Section.Failures

/-!
# Toggling a section again and again

Where no call fails, a toggle writes everything that belongs to its section anew, so only the last
toggle counts.  From the first one on a document goes to and fro between two states, one for each
visibility.  The state before the first toggle need not be one of the two: the class of hidden
sections may have stood before other classes, and the icon may have had any source.

## Main definitions and statements

* `Section.afterToggle` — the document after a toggle.
* `Section.iterate_afterToggle` — the second and the third toggle of a document that goes to and fro.
* `MemoryDocument.withFlipped_withFlipped`, `MemoryDocument.withFlipped_eq_self_iff` — only the last
  flip counts; which documents a flip leaves as they are.
* `Section.toggle_period_two` — toggling three times is toggling once, and when toggling twice
  changes nothing.
-/

namespace PageBehaviors

variable {D E : Type} [Document D E]

namespace Section

/-- The document after a section was asked to flip. -/
def afterToggle (config : ToggleConfig) (id : String) (document : D) : D :=
  ((toggle config id).run document).state

variable {config : ToggleConfig} {id : String} {document : D}

theorem afterToggle_of_absent (config : ToggleConfig)
    (gone : Document.elementById document id = none) :
    afterToggle config id document = document := by
  rw [afterToggle, run_toggle_of_absent gone]

/-- The toggles of a document that is one of two once it was toggled. -/
theorem iterate_afterToggle (state : Visibility → D) {now : Visibility}
    (first : afterToggle config id document = state now.flipped)
    (others : ∀ next, afterToggle config id (state next) = state next.flipped) :
    (afterToggle config id)^[2] document = state now ∧
      (afterToggle config id)^[3] document = afterToggle config id document := by
  have htwice : (afterToggle config id)^[2] document = state now := by
    show afterToggle config id (afterToggle config id document) = state now
    rw [first, others, Visibility.flipped_flipped]
  refine ⟨htwice, ?_⟩
  rw [Function.iterate_succ_apply', htwice, others, first]

end Section

open Section (Visibility visibilityOf visibility? iconPath classesAfter afterToggle toggle)

/-! ### Lists of nodes -/

namespace MemoryDocument

variable {config : ToggleConfig} {id : String} {document : MemoryDocument} {target : Nat}

/-- **Only the last flip counts**: everything that an earlier one wrote is written anew. -/
theorem withFlipped_withFlipped (config : ToggleConfig) (target : Nat) (icon : Option Nat)
    (first second : Visibility) (document : MemoryDocument) :
    (document.withFlipped config target icon first).withFlipped config target icon second =
      document.withFlipped config target icon second := by
  refine ext_nodes rfl rfl ?_
  intro place
  rw [getElem?_withFlipped, getElem?_withFlipped, getElem?_withFlipped, Option.map_map]
  congr 1
  funext node
  have hclasses := Section.classesAfter_classesAfter config.hiddenClass first second node.classes
  have hsource := node.attributes.set_set "src" (resourceUrl (iconPath config first))
    (resourceUrl (iconPath config second))
  by_cases htarget : place = target
  · subst htarget
    by_cases hicon : icon = some place
    · simp [hicon, hclasses, hsource]
    · simp [hicon, hclasses]
  · by_cases hicon : icon = some place
    · simp [htarget, hicon, hsource]
    · simp [htarget, hicon]

/-- A flip leads no lookup elsewhere. -/
theorem elementById_withFlipped (config : ToggleConfig) (target : Nat) (icon : Option Nat)
    (next : Visibility) (document : MemoryDocument) (id : String) :
    Document.elementById (document.withFlipped config target icon next) id =
      Document.elementById document id := by
  have hids : (document.withFlipped config target icon next).ids = document.ids := by
    apply List.ext_getElem?
    intro place
    rw [ids, ids, List.getElem?_map, List.getElem?_map, getElem?_withFlipped, Option.map_map]
    congr 1
    funext node
    by_cases hicon : icon = some place
    · simp [hicon, Attributes.get?_set]
    · simp [hicon]
  rw [elementById_eq, elementById_eq, hids]

/-- The classes that are seen of the section after a flip. -/
theorem hasClass_withFlipped {node : MemoryNode} (hnode : document.nodes[target]? = some node)
    (icon : Option Nat) (next : Visibility) (name : String) :
    Document.hasClass (document.withFlipped config target icon next) target name =
      decide (name ∈ classesAfter config.hiddenClass next node.classes) := by
  rw [hasClass_eq, getElem?_withFlipped, hnode, Option.map_some, Option.any_some, if_pos rfl]

theorem visibilityOf_eq_hidden_iff {node : MemoryNode}
    (hnode : document.nodes[target]? = some node) :
    visibilityOf config document target = .hidden ↔ config.hiddenClass ∈ node.classes := by
  rw [visibilityOf, hasClass_eq, hnode, Option.any_some]
  by_cases hmem : config.hiddenClass ∈ node.classes
  · simp [hmem]
  · simp [hmem]

/-- An id leads to a node. -/
theorem exists_node_of_elementById (found : Document.elementById document id = some target) :
    ∃ node, document.nodes[target]? = some node :=
  ⟨_, List.getElem?_eq_getElem (lt_length_of_elementById found)⟩

/-- What a section is after it was flipped. -/
theorem visibilityOf_withFlipped (found : Document.elementById document id = some target)
    (icon : Option Nat) (next : Visibility) :
    visibilityOf config (document.withFlipped config target icon next) target = next := by
  obtain ⟨node, hnode⟩ := exists_node_of_elementById found
  rw [visibilityOf, hasClass_withFlipped hnode]
  simp only [Section.mem_classesAfter, if_true]
  cases next with
  | visible => rfl
  | hidden => rfl

/-- Making a section what it is already leaves its classes as a set. -/
theorem hasClass_withFlipped_visibilityOf
    (found : Document.elementById document id = some target) (icon : Option Nat) (name : String) :
    Document.hasClass (document.withFlipped config target icon
        (visibilityOf config document target)) target name =
      Document.hasClass document target name := by
  obtain ⟨node, hnode⟩ := exists_node_of_elementById found
  rw [hasClass_withFlipped hnode, hasClass_eq, hnode, Option.any_some, decide_eq_decide,
    Section.mem_classesAfter, visibilityOf_eq_hidden_iff hnode]
  by_cases hname : name = config.hiddenClass
  · rw [if_pos hname, hname]
  · rw [if_neg hname]

/-- A flip leaves a document as it is if it writes what is there already. -/
theorem withFlipped_eq_self_iff_forall {icon : Option Nat} {next : Visibility} :
    document.withFlipped config target icon next = document ↔
      ∀ (place : Nat) node, document.nodes[place]? = some node →
        (place = target → classesAfter config.hiddenClass next node.classes = node.classes) ∧
        (icon = some place →
          node.attributes.get? "src" = some (resourceUrl (iconPath config next))) := by
  constructor
  · intro hsame place node hnode
    have hread : (document.withFlipped config target icon next).nodes[place]? = some node := by
      rw [hsame, hnode]
    rw [getElem?_withFlipped, hnode, Option.map_some, Option.some.injEq] at hread
    constructor
    · intro htarget
      have hclasses := congrArg MemoryNode.classes hread
      rwa [if_pos htarget] at hclasses
    · intro hicon
      have hattributes := congrArg MemoryNode.attributes hread
      rwa [if_pos hicon, Attributes.set_eq_self_iff] at hattributes
  · intro hkept
    refine ext_nodes rfl rfl ?_
    intro place
    rw [getElem?_withFlipped]
    cases hnode : document.nodes[place]? with
    | none => rfl
    | some node =>
        obtain ⟨hclasses, hsource⟩ := hkept place node hnode
        simp only [← Attributes.set_eq_self_iff] at hsource
        rw [Option.map_some, ite_eq_right_iff.mpr hclasses, ite_eq_right_iff.mpr hsource]

/-- **Which documents stay as they are** when a section is made what it is already: those in which
the class of hidden sections comes last, if it is there, and the icon shows what the section is. -/
theorem withFlipped_eq_self_iff {node : MemoryNode}
    (hnode : document.nodes[target]? = some node) (hnodup : node.classes.Nodup)
    {icon : Option Nat}
    (hicon : ∀ place, icon = some place → ∃ other, document.nodes[place]? = some other) :
    document.withFlipped config target icon (visibilityOf config document target) = document ↔
      (config.hiddenClass ∉ node.classes ∨ node.classes.getLast? = some config.hiddenClass) ∧
        ∀ place, icon = some place → document.attribute? place "src" =
          some (resourceUrl (iconPath config (visibilityOf config document target))) := by
  rw [withFlipped_eq_self_iff_forall,
    ← Section.classesAfter_eq_self_iff hnodup (visibilityOf_eq_hidden_iff hnode)]
  constructor
  · intro hkept
    refine ⟨(hkept target node hnode).1 rfl, ?_⟩
    intro place hplace
    obtain ⟨other, hother⟩ := hicon place hplace
    rw [attribute?, hother]
    exact (hkept place other hother).2 hplace
  · rintro ⟨hclasses, hshown⟩ place other hother
    constructor
    · rintro rfl
      obtain rfl := Option.some.inj (hnode.symm.trans hother)
      exact hclasses
    · intro hplace
      have hvalue := hshown place hplace
      rwa [attribute?, hother] at hvalue

/-! #### Toggles -/

/-- A document that refuses changes of classes stays as it is. -/
theorem afterToggle_of_readOnly (config : ToggleConfig) (id : String)
    (readOnly : document.classesReadOnly = true) :
    afterToggle config id document = document := by
  cases found : Document.elementById document id with
  | none => exact Section.afterToggle_of_absent config found
  | some target =>
      have hrefused : (Section.setVisibility config target
          (visibilityOf config document target).flipped).run document =
            (.error (.document "class list is read-only"), document) := by
        rw [run_setVisibility, if_pos readOnly]
      rw [afterToggle, Section.run_toggle_of_refused found rfl hrefused]

/-- A document whose classes can be changed, after the toggle of a section that is there. -/
theorem afterToggle_of_found (found : Document.elementById document id = some target)
    (writable : document.classesReadOnly = false) :
    afterToggle config id document =
      document.withFlipped config target (Document.elementById document (config.iconId id))
        (visibilityOf config document target).flipped := by
  have hreliable : ((toggle config id).run (Unreliable.reliable document)).state =
      Unreliable.reliable (afterToggle config id document) :=
    ((Unreliable.simulation_reliable { toggle := config }).toggle id _ document rfl).2.2
  have hnotRefused : ¬ (Unreliable.reliable document).RefusesClass
      (visibilityOf config document target).flipped := by
    simp [Unreliable.RefusesClass, Unreliable.reliable, writable]
  have found : Document.elementById (Unreliable.reliable document).document id = some target :=
    found
  have htoggled := (Unreliable.toggle_of_not_refuses found rfl hnotRefused).2
  rw [hreliable] at htoggled
  exact htoggled

/-- The second and the third toggle of a section. -/
theorem iterate_afterToggle (found : Document.elementById document id = some target)
    (writable : document.classesReadOnly = false) :
    (afterToggle config id)^[2] document =
        document.withFlipped config target (Document.elementById document (config.iconId id))
          (visibilityOf config document target) ∧
      (afterToggle config id)^[3] document = afterToggle config id document := by
  refine Section.iterate_afterToggle (fun next => document.withFlipped config target
    (Document.elementById document (config.iconId id)) next)
    (afterToggle_of_found found writable) ?_
  intro next
  have found' := (elementById_withFlipped config target
    (Document.elementById document (config.iconId id)) next document id).trans found
  rw [afterToggle_of_found found' writable, elementById_withFlipped,
    visibilityOf_withFlipped found, withFlipped_withFlipped]

end MemoryDocument

/-! ### Documents of a browser -/

namespace Browser.LiveDocument

variable {config : ToggleConfig} {id : String} {document : LiveDocument} {target : Nat}

/-- A document after the toggle of a section that is there. -/
theorem afterToggle_of_found (reliable : document.faults = .none)
    (htoken : Text.IsToken config.hiddenClass)
    (found : Document.elementById document id = some target) :
    afterToggle config id document =
      document.onTree (·.withFlipped config target
        (Document.elementById document (config.iconId id))
        (visibilityOf config document target).flipped) := by
  rw [afterToggle, run_toggle reliable htoken found rfl]

/-- A document in which no section can be hidden stays as it is. -/
theorem afterToggle_of_not_isToken (reliable : document.faults = .none)
    (htoken : ¬ Text.IsToken config.hiddenClass)
    (found : Document.elementById document id = some target) :
    afterToggle config id document = document := by
  obtain ⟨problem, -, hrun⟩ := run_toggle_of_not_isToken reliable htoken found
  rw [afterToggle, hrun]

/-- The third toggle does what the first one did. -/
theorem iterate_afterToggle (reliable : document.faults = .none) (config : ToggleConfig)
    (id : String) : (afterToggle config id)^[3] document = afterToggle config id document := by
  have hfixed (h : afterToggle config id document = document) :
      (afterToggle config id)^[3] document = afterToggle config id document :=
    (Function.iterate_fixed h 3).trans h.symm
  cases found : Document.elementById document id with
  | none => exact hfixed (Section.afterToggle_of_absent config found)
  | some target =>
      by_cases htoken : Text.IsToken config.hiddenClass
      · refine (Section.iterate_afterToggle (fun next => document.onTree (·.withFlipped config
          target (Document.elementById document (config.iconId id)) next))
          (afterToggle_of_found reliable htoken found) ?_).2
        intro next
        have found' := (elementById_withFlipped document config target
          (Document.elementById document (config.iconId id)) next id).trans found
        rw [afterToggle_of_found (reliable_onTree reliable _) htoken found',
          elementById_withFlipped, visibilityOf_withFlipped htoken found]
        simp only [onTree, Tree.withFlipped_withFlipped htoken]
      · exact hfixed (afterToggle_of_not_isToken reliable htoken found)

end Browser.LiveDocument

/-! ### The period -/

namespace Section

/-- **Toggling three times is toggling once**, in a browser's document none of whose calls fail as
in a list of nodes.  Toggling a section of a list twice restores what is seen of it and its classes
as a set.  It restores the whole document, if that allows changes of classes and no node has a class
twice, exactly if the class of hidden sections was not there or was the last one and the icon, if
there is one, already showed what the section was. -/
theorem toggle_period_two (config : ToggleConfig) (id : String) :
    (∀ document : Browser.LiveDocument, document.faults = .none →
      (afterToggle config id)^[3] document = afterToggle config id document) ∧
    ∀ document : MemoryDocument,
      (afterToggle config id)^[3] document = afterToggle config id document ∧
      ∀ target, Document.elementById document id = some target →
        visibility? config id ((afterToggle config id)^[2] document) =
          visibility? config id document ∧
        (∀ name, Document.hasClass ((afterToggle config id)^[2] document) target name =
          Document.hasClass document target name) ∧
        (document.classesReadOnly = false → (∀ node ∈ document.nodes, node.classes.Nodup) →
          ((afterToggle config id)^[2] document = document ↔
            (∃ node, document.nodes[target]? = some node ∧
              (config.hiddenClass ∉ node.classes ∨
                node.classes.getLast? = some config.hiddenClass)) ∧
            ∀ icon, Document.elementById document (id ++ config.iconSuffix) = some icon →
              document.attribute? icon "src" =
                some (resourceUrl (iconPath config (visibilityOf config document target))))) := by
  refine ⟨fun document reliable => Browser.LiveDocument.iterate_afterToggle reliable config id, ?_⟩
  intro document
  have hfixed (h : afterToggle config id document = document) (times : Nat) :
      (afterToggle config id)^[times] document = document :=
    Function.iterate_fixed h times
  cases found : Document.elementById document id with
  | none =>
      have hsame := afterToggle_of_absent config found
      refine ⟨(hfixed hsame 3).trans hsame.symm, ?_⟩
      intro target htarget
      cases htarget
  | some target =>
      cases hwritable : document.classesReadOnly with
      | true =>
          have hsame := MemoryDocument.afterToggle_of_readOnly config id hwritable
          refine ⟨(hfixed hsame 3).trans hsame.symm, ?_⟩
          intro _ _
          rw [hfixed hsame 2]
          exact ⟨rfl, fun _ => rfl, nofun⟩
      | false =>
          obtain ⟨htwice, hthrice⟩ := MemoryDocument.iterate_afterToggle found hwritable
          refine ⟨hthrice, ?_⟩
          rintro _ ⟨⟩
          rw [htwice]
          refine ⟨?_, ?_, ?_⟩
          · rw [visibility?_of_found config ((MemoryDocument.elementById_withFlipped ..).trans found),
              MemoryDocument.visibilityOf_withFlipped found, visibility?_of_found config found]
          · exact MemoryDocument.hasClass_withFlipped_visibilityOf found _
          · intro _ hnodup
            obtain ⟨node, hnode⟩ := MemoryDocument.exists_node_of_elementById found
            rw [MemoryDocument.withFlipped_eq_self_iff hnode
              (hnodup node (List.mem_of_getElem? hnode))
              fun _ => MemoryDocument.exists_node_of_elementById, hnode]
            simp [ToggleConfig.iconId]

/-- A hidden section whose class comes before another one, and its icon. -/
def shelf : MemoryDocument where
  nodes :=
    [{ MemoryNode.ofTag "div" [("id", "s")] with classes := ["hidden", "wide"] },
      .ofTag "img" [("id", "sImg"), ("src", "?resource=bullets/plus.png")]]

/-- The section is folded again, but its classes come in another order from then on. -/
theorem toggle_period_two_shelf :
    (afterToggle {} "s")^[2] shelf ≠ shelf ∧
      visibility? {} "s" ((afterToggle {} "s")^[2] shelf) = some .hidden ∧
      (afterToggle {} "s")^[3] shelf = afterToggle {} "s" shelf ∧
      (afterToggle {} "s")^[3] Browser.LiveDocument.folded =
        afterToggle {} "s" Browser.LiveDocument.folded := by
  have found : Document.elementById shelf "s" = some 0 := by decide +kernel
  obtain ⟨hbrowser, hnodes⟩ := toggle_period_two {} "s"
  obtain ⟨hthrice, htwice⟩ := hnodes shelf
  obtain ⟨hseen, -, hrestored⟩ := htwice 0 found
  refine ⟨?_, ?_, hthrice, hbrowser Browser.LiveDocument.folded rfl⟩
  · rw [ne_eq, hrestored rfl (by decide)]
    rintro ⟨⟨node, hnode, hplace⟩, -⟩
    obtain rfl := Option.some.inj hnode
    revert hplace
    decide
  · rw [hseen]
    decide +kernel

end Section

end PageBehaviors
