import PageBehaviors.Proofs.Section.Nodes

/-!
# Toggles while calls fail

Whether a toggle has a result can be told before it is made: there has to be a section, and the call
that changes its class must not be refused.  A toggle without a result has changed nothing.  After
one with a result the nodes are written down place by place: the classes of the section are those
of its new visibility, whatever becomes of the icon, and the icon has its new source unless that
very call failed.

## Main definitions and statements

* `MemoryDocument.withFlipped` — the nodes after a section was made visible or hidden.
* `Unreliable.RefusesClass` — the next change of a class is refused, by its schedule or because the
  document refuses all of them.
* `Unreliable.writtenIcon?` — the icon of a section, if there is one and it can be written.
* `Unreliable.toggle_of_refuses`, `Unreliable.toggle_of_not_refuses` — the two ways of a toggle of a
  section that is there.
* `Unreliable.toggle_all_or_nothing` — when a toggle has a result, and what it has done then.
-/

namespace PageBehaviors

open Section (Visibility visibilityOf visibility? iconPath classesAfter toggle updateIcon)

/-! ### The nodes afterwards -/

namespace MemoryNode

/-- A node that becomes what it was not before. -/
theorem setVisibility_of_flip {name : String} {next : Visibility} {node : MemoryNode}
    (flip : next = .visible ↔ name ∈ node.classes) :
    node.setVisibility name next = { node with classes := classesAfter name next node.classes } := by
  rw [setVisibility_eq, Section.classesWith_of_flip flip]

end MemoryNode

namespace MemoryDocument

/-- The document after the node at a place was made visible or hidden, and the source of the icon
written, if one is given. -/
def withFlipped (config : ToggleConfig) (target : Nat) (icon : Option Nat) (next : Visibility)
    (document : MemoryDocument) : MemoryDocument :=
  { document with
    nodes := document.nodes.mapIdx fun place node =>
      { node with
        classes :=
          if place = target then classesAfter config.hiddenClass next node.classes
          else node.classes
        attributes :=
          if icon = some place then node.attributes.set "src" (resourceUrl (iconPath config next))
          else node.attributes } }

@[simp] theorem cookies_withFlipped (config : ToggleConfig) (target : Nat) (icon : Option Nat)
    (next : Visibility) (document : MemoryDocument) :
    (document.withFlipped config target icon next).cookies = document.cookies := rfl

@[simp] theorem classesReadOnly_withFlipped (config : ToggleConfig) (target : Nat)
    (icon : Option Nat) (next : Visibility) (document : MemoryDocument) :
    (document.withFlipped config target icon next).classesReadOnly = document.classesReadOnly :=
  rfl

theorem getElem?_withFlipped (config : ToggleConfig) (target : Nat) (icon : Option Nat)
    (next : Visibility) (document : MemoryDocument) (place : Nat) :
    (document.withFlipped config target icon next).nodes[place]? =
      document.nodes[place]?.map fun node =>
        { node with
          classes :=
            if place = target then classesAfter config.hiddenClass next node.classes
            else node.classes
          attributes :=
            if icon = some place then node.attributes.set "src" (resourceUrl (iconPath config next))
            else node.attributes } :=
  List.getElem?_mapIdx

/-- Documents are the same if their nodes are, place by place, and all else is. -/
theorem ext_nodes {first second : MemoryDocument} (hcookies : first.cookies = second.cookies)
    (hreadOnly : first.classesReadOnly = second.classesReadOnly)
    (hnodes : ∀ place : Nat, first.nodes[place]? = second.nodes[place]?) : first = second := by
  have hsame : first.nodes = second.nodes := List.ext_getElem? hnodes
  cases first
  cases second
  cases hcookies
  cases hreadOnly
  cases hsame
  rfl

/-- There is no element with an id exactly if no node has it. -/
theorem elementById_eq_none_iff (document : MemoryDocument) (id : String) :
    Document.elementById document id = none ↔
      ∀ node ∈ document.nodes, node.attributes.get? "id" ≠ some id := by
  show document.nodes.findIdx? (fun node => node.attributes.get? "id" == some id) = none ↔ _
  rw [List.findIdx?_eq_none_iff]
  simp only [beq_eq_false_iff_ne, ne_eq]

variable {config : ToggleConfig} {document : MemoryDocument} {target : Nat} {next : Visibility}

/-- Changing the class of a section that becomes what it was not before. -/
theorem setVisibility_eq_withFlipped
    (flip : next = (visibilityOf config document target).flipped) :
    document.setVisibility config.hiddenClass target next =
      document.withFlipped config target none next := by
  refine ext_nodes rfl rfl ?_
  intro place
  rw [getElem?_withFlipped, setVisibility, nodes_modifyNode, List.getElem?_modify]
  cases hnode : document.nodes[place]? with
  | none => rfl
  | some node =>
      by_cases hplace : target = place
      · have hflip : next = .visible ↔ config.hiddenClass ∈ node.classes := by
          rw [flip, Section.flipped_visibilityOf_eq_visible_iff, hasClass_eq, hplace, hnode,
            Option.any_some, decide_eq_true_iff]
        simp [hplace, MemoryNode.setVisibility_of_flip hflip]
      · simp [hplace, Ne.symm hplace]

/-- Writing the icon after that. -/
theorem setSource_withFlipped (config : ToggleConfig) (document : MemoryDocument)
    (target icon : Nat) (next : Visibility) :
    (document.withFlipped config target none next).setSource icon
        (resourceUrl (iconPath config next)) =
      document.withFlipped config target (some icon) next := by
  refine ext_nodes rfl rfl ?_
  intro place
  rw [getElem?_withFlipped, setSource, nodes_modifyNode, List.getElem?_modify,
    getElem?_withFlipped]
  cases document.nodes[place]? with
  | none => rfl
  | some node =>
      by_cases hplace : icon = place
      · simp [hplace, MemoryNode.setAttribute]
      · simp [hplace]

end MemoryDocument

/-! ### The calls of a toggle -/

namespace Unreliable

variable {config : ToggleConfig} {id : String} {whole : Unreliable MemoryDocument}
variable {target : Nat} {next : Visibility}

/-- Whether the next change of a class is refused, by its schedule or because the document refuses
all of them. -/
def RefusesClass (whole : Unreliable MemoryDocument) (next : Visibility) : Prop :=
  whole.faults.failure? (Section.classCall next) ≠ none ∨ whole.document.classesReadOnly = true

instance (next : Visibility) : Decidable (whole.RefusesClass next) :=
  inferInstanceAs (Decidable (_ ∨ _))

/-- The icon of a section, the node whose id is that of the section with the suffix, if there is one
and its source can be written. -/
def writtenIcon? (config : ToggleConfig) (id : String) (whole : Unreliable MemoryDocument) :
    Option Nat :=
  if whole.faults.failure? .setAttribute = none then
    Document.elementById whole.document (id ++ config.iconSuffix)
  else none

theorem run_setVisibility_of_refuses (h : whole.RefusesClass next) (place : Nat) :
    ∃ error after, (Section.setVisibility config place next).run whole = (.error error, after) ∧
      after.document = whole.document := by
  rw [run_setVisibility, guarded]
  cases hfault : whole.faults.failure? (Section.classCall next) with
  | some message => exact ⟨_, _, run_attempt_of_some hfault _ _, rfl⟩
  | none =>
      have hreadOnly : whole.document.classesReadOnly = true := h.resolve_left (by simp [hfault])
      rw [run_attempt_of_none hfault, MemoryDocument.run_setVisibility, if_pos hreadOnly]
      exact ⟨_, _, rfl, rfl⟩

theorem run_setVisibility_of_not_refuses (h : ¬ whole.RefusesClass next) (place : Nat) :
    (Section.setVisibility config place next).run whole =
      (.ok (), ⟨whole.document.setVisibility config.hiddenClass place next,
        whole.faults.next (Section.classCall next)⟩) := by
  obtain ⟨hfault, hreadOnly⟩ := not_or.mp h
  rw [run_setVisibility, guarded, run_attempt_of_none (not_not.mp hfault),
    MemoryDocument.run_setVisibility, if_neg hreadOnly]

/-- Writing the icon, as far as there is one and the call works. -/
theorem document_updateIcon (config : ToggleConfig) (id : String) (next : Visibility)
    (whole : Unreliable MemoryDocument) :
    ((updateIcon config id next).run whole).state.document =
      match whole.writtenIcon? config id with
      | none => whole.document
      | some icon => whole.document.setSource icon (resourceUrl (iconPath config next)) := by
  rw [writtenIcon?]
  cases found : Document.elementById whole.document (id ++ config.iconSuffix) with
  | none =>
      have found : Document.elementById whole (config.iconId id) = none := found
      rw [Section.run_updateIcon_of_none next found, ite_self]
  | some icon =>
      have found : Document.elementById whole (config.iconId id) = some icon := found
      have hwritten : (Document.setAttribute icon "src"
          (resourceUrl (iconPath config next))).run whole =
            (guarded .setAttribute (Document.setAttribute icon "src"
              (resourceUrl (iconPath config next)))).run whole := rfl
      rw [Section.run_updateIcon_of_some next found, hwritten, guarded]
      cases hfault : whole.faults.failure? .setAttribute with
      | none =>
          rw [run_attempt_of_none hfault]
          rfl
      | some message =>
          rw [run_attempt_of_some hfault]
          rfl

/-! ### The ways of a toggle -/

theorem toggle_of_absent (config : ToggleConfig)
    (gone : Document.elementById whole.document id = none) :
    ((toggle config id).run whole).value = none ∧ ((toggle config id).run whole).state = whole := by
  have gone : Document.elementById whole id = none := gone
  rw [Section.run_toggle_of_absent gone]
  exact ⟨rfl, rfl⟩

/-- If the class cannot be changed, nothing is. -/
theorem toggle_of_refuses (found : Document.elementById whole.document id = some target)
    (flip : next = (visibilityOf config whole.document target).flipped)
    (h : whole.RefusesClass next) :
    ((toggle config id).run whole).value = none ∧
      ((toggle config id).run whole).state.document = whole.document := by
  have found : Document.elementById whole id = some target := found
  obtain ⟨error, after, changed, hafter⟩ := run_setVisibility_of_refuses h target
  rw [Section.run_toggle_of_refused found flip changed]
  exact ⟨rfl, hafter⟩

/-- If the class can be changed, it is, and the icon as well if that is possible. -/
theorem toggle_of_not_refuses (found : Document.elementById whole.document id = some target)
    (flip : next = (visibilityOf config whole.document target).flipped)
    (h : ¬ whole.RefusesClass next) :
    ((toggle config id).run whole).value = some next ∧
      ((toggle config id).run whole).state.document =
        whole.document.withFlipped config target (whole.writtenIcon? config id) next := by
  have found : Document.elementById whole id = some target := found
  rw [Section.run_toggle_of_changed found flip (run_setVisibility_of_not_refuses h target)]
  refine ⟨rfl, ?_⟩
  rw [document_updateIcon]
  -- the change of the class moved neither the icon nor the schedule of its call
  have hicon : writtenIcon? config id ⟨whole.document.setVisibility config.hiddenClass target next,
      whole.faults.next (Section.classCall next)⟩ = whole.writtenIcon? config id := by
    have hcall : Call.setAttribute ≠ Section.classCall next := by
      cases next with
      | visible => decide
      | hidden => decide
    rw [writtenIcon?, writtenIcon?, MemoryDocument.elementById_setVisibility,
      whole.faults.failure?_next_ne hcall]
  rw [hicon, MemoryDocument.setVisibility_eq_withFlipped flip]
  cases whole.writtenIcon? config id with
  | none => rfl
  | some icon => exact MemoryDocument.setSource_withFlipped config whole.document target icon next

/-! ### All or nothing -/

/-- **A toggle is all or nothing, and tells what it did.**  It has no result exactly if no node has
the id or the call that is to change the class is refused; then the document is as before.  If it
has a result, that is the flip of the visibility before and is the visibility afterwards.  The
section has lost the class of hidden sections or got it at the end, its other classes being as they
were; the icon of the section, if there is one, has the source that goes with the result unless the
call that writes it fails; and nothing else has changed. -/
theorem toggle_all_or_nothing (config : ToggleConfig) (id : String)
    (whole : Unreliable MemoryDocument) :
    let outcome := (toggle config id).run whole
    (outcome.value = none ↔
      (∀ node ∈ whole.document.nodes, node.attributes.get? "id" ≠ some id) ∨
        ∃ now, visibility? config id whole.document = some now ∧
          whole.RefusesClass now.flipped) ∧
    (outcome.value = none → outcome.state.document = whole.document) ∧
    ∀ next, outcome.value = some next →
      visibility? config id whole.document = some next.flipped ∧
      visibility? config id outcome.state.document = some next ∧
      ∃ target, Document.elementById whole.document id = some target ∧
        outcome.state.document =
          whole.document.withFlipped config target (whole.writtenIcon? config id) next := by
  intro outcome
  have toggled := Section.toggle_nodes config id whole
  rw [← MemoryDocument.elementById_eq_none_iff]
  cases found : Document.elementById whole.document id with
  | none =>
      obtain ⟨hvalue, hstate⟩ := toggle_of_absent config found
      refine ⟨iff_of_true hvalue (Or.inl rfl), fun _ => congrArg Unreliable.document hstate, ?_⟩
      intro next hnext
      cases hvalue.symm.trans hnext
  | some target =>
      have hnow := Section.visibility?_of_found config found
      by_cases h : whole.RefusesClass (visibilityOf config whole.document target).flipped
      · obtain ⟨hvalue, hdocument⟩ := toggle_of_refuses found rfl h
        refine ⟨iff_of_true hvalue (Or.inr ⟨_, hnow, h⟩), fun _ => hdocument, ?_⟩
        intro next hnext
        cases hvalue.symm.trans hnext
      · obtain ⟨hvalue, hdocument⟩ := toggle_of_not_refuses found rfl h
        refine ⟨iff_of_false ?_ ?_, ?_, ?_⟩
        · intro hnone
          cases hvalue.symm.trans hnone
        · rintro (hgone | ⟨now, hthen, hrefused⟩)
          · cases hgone
          · obtain rfl := Option.some.inj (hnow.symm.trans hthen)
            exact h hrefused
        · intro hnone
          cases hvalue.symm.trans hnone
        · intro next hnext
          obtain rfl := Option.some.inj (hvalue.symm.trans hnext)
          rw [hvalue] at toggled
          refine ⟨toggled.visibility?_before, ?_, target, rfl, hdocument⟩
          rw [toggled.visibility?_of_some, if_pos rfl]

/-- Two sections with one id, the first of them hidden, and an icon whose source cannot be written
the first time. -/
def panel : Unreliable MemoryDocument where
  document :=
    { nodes :=
        [{ MemoryNode.ofTag "div" [("id", "s")] with classes := ["wide", "hidden", "dark"] },
          .ofTag "div" [("id", "s")], .ofTag "img" [("id", "sImg"), ("src", "old.png")]] }
  faults
    | .setAttribute => some ⟨"no attribute", 0, some 1⟩
    | .addClass => some ⟨"no class", 0, none⟩
    | _ => none

/-- The first section is unfolded although its icon stays as it is; where no call fails, the icon
follows. -/
theorem toggle_all_or_nothing_panel :
    let sound : Unreliable MemoryDocument := { panel with faults := .none }
    let failing := (toggle {} "s").run panel
    let working := (toggle {} "s").run sound
    (failing.value = some .visible ∧ failing.state.document.nodes =
      [{ MemoryNode.ofTag "div" [("id", "s")] with classes := ["wide", "dark"] },
        .ofTag "div" [("id", "s")], .ofTag "img" [("id", "sImg"), ("src", "old.png")]]) ∧
    (working.value = some .visible ∧ working.state.document.nodes =
      [{ MemoryNode.ofTag "div" [("id", "s")] with classes := ["wide", "dark"] },
        .ofTag "div" [("id", "s")],
        .ofTag "img" [("id", "sImg"), ("src", "?resource=bullets/minus.png")]]) := by
  intro sound failing working
  have hfirst : Document.elementById panel.document "s" = some 0 := by decide +kernel
  constructor
  · have hvalue : failing.value = some .visible := by decide +kernel
    obtain ⟨-, -, hsome⟩ := toggle_all_or_nothing {} "s" panel
    obtain ⟨-, -, target, found, hdocument⟩ := hsome .visible hvalue
    obtain rfl := Option.some.inj (hfirst.symm.trans found)
    refine ⟨hvalue, ?_⟩
    rw [hdocument]
    decide +kernel
  · have hvalue : working.value = some .visible := by decide +kernel
    obtain ⟨-, -, hsome⟩ := toggle_all_or_nothing {} "s" sound
    obtain ⟨-, -, target, found, hdocument⟩ := hsome .visible hvalue
    obtain rfl := Option.some.inj (hfirst.symm.trans found)
    refine ⟨hvalue, ?_⟩
    rw [hdocument]
    decide +kernel

end Unreliable

end PageBehaviors
