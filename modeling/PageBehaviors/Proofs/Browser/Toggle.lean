import PageBehaviors.Proofs.Browser.Interchange
import PageBehaviors.Proofs.Section.Toggle

/-!
# Toggles in a browser's document

The classes of an element stand in one text, and any text can be there: with blanks of all kinds,
with repetitions, or none at all.  Changing a class writes the text anew, and reading it again gives
the classes that were meant, as long as the class of hidden sections is a name that a class can
have.  If it is not, no element ever has it, and giving it to one is refused.

## Main definitions and statements

* `Browser.Element.flipped` — an element after a section was flipped;
  `Browser.Element.flipped_flipped` — only the last flip counts.
* `Browser.Tree.withFlipped` — the tree after a section was made visible or hidden.
* `Browser.LiveDocument.run_setVisibility` — changing the class while calls fail.
* `Browser.LiveDocument.run_toggle` — a toggle where nothing fails.
* `Browser.LiveDocument.toggle_written` — what a toggle reads, writes and leaves alone.
-/

namespace PageBehaviors.Browser

open Section (Visibility visibilityOf visibility? iconPath classesAfter toggle updateIcon)

/-! ### Elements -/

namespace Element

variable {config : ToggleConfig} {next : Visibility} {element : Element}

/-- An element after a section was flipped: it may be the section, its icon, or both. -/
def flipped (config : ToggleConfig) (next : Visibility) (isSection isIcon : Bool)
    (element : Element) : Element :=
  let folded :=
    if isSection then
      element.set "class" (Text.joined (classesAfter config.hiddenClass next element.classes))
    else element
  if isIcon then folded.set "src" (resourceUrl (iconPath config next)) else folded

/-- An element that becomes what it was not before has the text of its classes written. -/
theorem setVisibility_of_flip {name : String} (flip : next = .visible ↔ name ∈ element.classes) :
    element.setVisibility name next =
      element.set "class" (Text.joined (classesAfter name next element.classes)) := by
  rw [setVisibility_eq, Section.classesWith_of_flip flip]
  refine if_neg ?_
  rintro ⟨hclasses, hunwritten⟩
  cases next with
  | visible =>
      have hmem : name ∈ element.classes := flip.mp rfl
      rw [classes, hunwritten] at hmem
      cases hmem
  | hidden =>
      have hmem : name ∈ classesAfter name .hidden element.classes :=
        Section.mem_classesAfter.mpr (by rw [if_pos rfl])
      rw [hclasses] at hmem
      cases hmem

/-- **The classes are read back as they were meant**, whatever the text was before. -/
theorem classes_flipped (htoken : Text.IsToken config.hiddenClass) (isSection isIcon : Bool)
    (element : Element) :
    (element.flipped config next isSection isIcon).classes =
      if isSection then classesAfter config.hiddenClass next element.classes
      else element.classes := by
  have hsource : ∀ (other : Element) value, (other.set "src" value).classes = other.classes := by
    intro other value
    rw [classes, classes, get?_set_of_lower lower_src lower_class, if_neg (by decide)]
  have hsection : (if isSection then
      element.set "class" (Text.joined (classesAfter config.hiddenClass next element.classes))
      else element).classes =
        if isSection then classesAfter config.hiddenClass next element.classes
        else element.classes := by
    cases isSection with
    | false => rfl
    | true =>
        refine (classes_set_class element _).trans (Text.tokens_joined ?_ ?_)
        · exact Section.forall_mem_classesAfter htoken fun _ => isToken_of_mem_classes
        · exact Section.nodup_classesAfter (nodup_classes element)
  cases isIcon with
  | false => exact hsection
  | true => exact (hsource _ _).trans hsection

/-- **Only the last flip counts**: everything that an earlier one wrote is written anew. -/
theorem flipped_flipped (htoken : Text.IsToken config.hiddenClass) (first second : Visibility)
    (isSection isIcon : Bool) (element : Element) :
    (element.flipped config first isSection isIcon).flipped config second isSection isIcon =
      element.flipped config second isSection isIcon := by
  cases isSection with
  | false =>
      cases isIcon with
      | false => rfl
      | true => exact set_set element "src" _ _
  | true =>
      have hclasses : classesAfter config.hiddenClass second
          (element.flipped config first true isIcon).classes =
            classesAfter config.hiddenClass second element.classes := by
        rw [classes_flipped htoken, if_pos rfl, Section.classesAfter_classesAfter]
      cases isIcon with
      | false =>
          show (element.flipped config first true false).set "class" _ = element.set "class" _
          rw [hclasses]
          exact set_set element "class" _ _
      | true =>
          show ((element.flipped config first true true).set "class" _).set "src" _ =
            (element.set "class" _).set "src" _
          rw [hclasses]
          -- the class that is written last goes before the source that was written first
          show (((element.set "class" _).set "src" _).set "class" _).set "src" _ = _
          rw [set_comm_of_lower lower_src lower_class (by decide), set_set, set_set]

/-- A flip leaves the id of an element alone. -/
theorem get?_id_flipped (config : ToggleConfig) (next : Visibility) (isSection isIcon : Bool)
    (element : Element) :
    (element.flipped config next isSection isIcon).get? "id" = element.get? "id" := by
  have hkept : ∀ {name}, Text.lower name = name → "id" ≠ name → ∀ (other : Element) value,
      (other.set name value).get? "id" = other.get? "id" := by
    intro name hname hne other value
    rw [get?_set_of_lower hname lower_id, if_neg hne]
  unfold flipped
  cases isSection with
  | false =>
      cases isIcon with
      | false => rfl
      | true => exact hkept lower_src (by decide) element _
  | true =>
      cases isIcon with
      | false => exact hkept lower_class (by decide) element _
      | true =>
          refine (hkept lower_src (by decide) _ _).trans ?_
          exact hkept lower_class (by decide) element _

end Element

/-! ### Trees -/

namespace Tree

/-- The tree after an element was made visible or hidden, and the source of the icon written, if
one is given. -/
def withFlipped (config : ToggleConfig) (target : Nat) (icon : Option Nat) (next : Visibility)
    (tree : Tree) : Tree where
  elements := tree.elements.mapIdx fun n element =>
    element.flipped config next (n == target) (icon == some n)
  forest := tree.forest
  nodup := tree.nodup
  created n h := by
    rw [List.length_mapIdx]
    exact tree.created n h

variable {config : ToggleConfig} {target : Nat} {icon : Option Nat} {next : Visibility}

theorem getElem?_withFlipped (tree : Tree) (n : Nat) :
    (tree.withFlipped config target icon next).elements[n]? =
      tree.elements[n]?.map fun element =>
        element.flipped config next (n == target) (icon == some n) :=
  List.getElem?_mapIdx

theorem withFlipped_withFlipped (htoken : Text.IsToken config.hiddenClass) (target : Nat)
    (icon : Option Nat) (first second : Visibility) (tree : Tree) :
    (tree.withFlipped config target icon first).withFlipped config target icon second =
      tree.withFlipped config target icon second := by
  refine Tree.ext (List.ext_getElem? ?_) rfl
  intro n
  rw [getElem?_withFlipped, getElem?_withFlipped, getElem?_withFlipped, Option.map_map]
  congr 1
  funext element
  exact Element.flipped_flipped htoken first second _ _ element

/-- Changing the class of a section that becomes what it was not before. -/
theorem modify_setVisibility {tree : Tree}
    (flip : ∀ element, tree.elements[target]? = some element →
      (next = .visible ↔ config.hiddenClass ∈ element.classes)) :
    tree.modify target (·.setVisibility config.hiddenClass next) =
      tree.withFlipped config target none next := by
  refine Tree.ext (List.ext_getElem? ?_) rfl
  intro n
  rw [getElem?_withFlipped, modify, List.getElem?_modify]
  cases helement : tree.elements[n]? with
  | none => rfl
  | some element =>
      by_cases hn : target = n
      · subst hn
        simp [Element.flipped, Element.setVisibility_of_flip (flip element helement)]
      · simp [Element.flipped, hn, Ne.symm hn]

/-- Writing the icon after that. -/
theorem modify_setSource (config : ToggleConfig) (target n : Nat) (next : Visibility)
    (tree : Tree) :
    (tree.withFlipped config target none next).modify n
        (·.set "src" (resourceUrl (iconPath config next))) =
      tree.withFlipped config target (some n) next := by
  refine Tree.ext (List.ext_getElem? ?_) rfl
  intro m
  rw [getElem?_withFlipped, modify, List.getElem?_modify, getElem?_withFlipped]
  cases tree.elements[m]? with
  | none => rfl
  | some element =>
      by_cases hm : n = m
      · simp [Element.flipped, hm]
      · simp [Element.flipped, hm]

/-- A flip leads no lookup elsewhere. -/
theorem first?_id_withFlipped (tree : Tree) (id : String) :
    (tree.withFlipped config target icon next).first? (fun element =>
        element.get? "id" == some id) =
      tree.first? fun element => element.get? "id" == some id := by
  have hsame : (tree.withFlipped config target icon next).satisfies
      (fun element => element.get? "id" == some id) =
        tree.satisfies fun element => element.get? "id" == some id := by
    funext n
    rw [satisfies, satisfies, getElem?_withFlipped, Option.any_map]
    simp only [Element.get?_id_flipped]
  rw [first?, first?, hsame]
  rfl

end Tree

/-! ### Calls -/

namespace LiveDocument

variable {config : ToggleConfig} {id : String} {document after : LiveDocument} {target : Nat}
variable {next : Visibility}

/-- The call that makes an element visible or hidden. -/
def classCall : Visibility → Call
  | .visible => .classRemove
  | .hidden => .classAdd

/-- A call that is refused for its schedule or for another reason changes nothing, any other call
makes its change. -/
theorem run_enter_refuse_change (call : Call) (problem : Option Thrown) (f : Tree → Tree)
    (document : LiveDocument) :
    (enter call >>= fun _ => refuse problem >>= fun _ => change f).run document =
      match (document.faults.failure? call).or problem with
      | some thrown => (.error thrown, { document with faults := document.faults.next call })
      | none => (.ok (), { document with
          tree := f document.tree, faults := document.faults.next call }) := by
  rw [run_bind]
  cases hfault : document.faults.failure? call with
  | some thrown => rw [run_enter_of_some hfault, Option.some_or]
  | none =>
      rw [run_enter_of_none hfault, Option.none_or]
      cases problem with
      | some thrown => rfl
      | none => rfl

/-- **Changing the class while calls fail**: the call is refused if it is to fail or if the class is
a name that no class can have. -/
theorem run_setVisibility (config : ToggleConfig) (n : Nat) (next : Visibility)
    (document : LiveDocument) :
    (Section.setVisibility config n next).run document =
      match (document.faults.failure? (classCall next)).or
          (Element.tokenProblem? config.hiddenClass) with
      | some thrown => (.error thrown.toPageError,
          { document with faults := document.faults.next (classCall next) })
      | none => (.ok (), { document with
          tree := document.tree.modify n (·.setVisibility config.hiddenClass next)
          faults := document.faults.next (classCall next) }) := by
  have hguarded : (Section.setVisibility config n next).run document =
      (guarded (enter (classCall next) >>= fun _ =>
        refuse (Element.tokenProblem? config.hiddenClass) >>= fun _ =>
          change (·.modify n (·.setVisibility config.hiddenClass next)))).run document := by
    cases next with
    | visible => rfl
    | hidden => rfl
  rw [hguarded]
  show guarded _ document = _
  rw [guarded, run_enter_refuse_change]
  cases (document.faults.failure? (classCall next)).or
      (Element.tokenProblem? config.hiddenClass) with
  | some thrown => rfl
  | none => rfl

/-- If the class could not be changed, nothing was. -/
theorem eq_of_setVisibility_error {error : PageError}
    (h : (Section.setVisibility config target next).run document = (.error error, after)) :
    after = { document with faults := after.faults } := by
  rw [run_setVisibility] at h
  split at h
  · obtain ⟨-, rfl⟩ := Prod.mk.inj h
    rfl
  · cases congrArg Prod.fst h

/-- A name that no class can have is refused. -/
theorem exists_tokenProblem?_iff {name : String} :
    (∃ problem, Element.tokenProblem? name = some problem) ↔ ¬ Text.IsToken name := by
  rw [Element.tokenProblem?, Text.IsToken]
  by_cases hempty : name = ""
  · simp [hempty]
  · by_cases hblank : Text.hasBlank name = true
    · simp [hempty, hblank]
    · simp [hempty, hblank]

/-! ### Lookups -/

/-- An id leads to an element that was created. -/
theorem exists_element_of_elementById (found : Document.elementById document id = some target) :
    ∃ element, document.tree.elements[target]? = some element := by
  have found : (if id = "" then none
      else document.tree.first? fun element => element.get? "id" == some id) = some target := found
  split at found
  · cases found
  · have hsatisfied : document.tree.satisfies (fun element => element.get? "id" == some id)
        target = true := List.find?_some found
    obtain ⟨element, helement, -⟩ := (Option.any_eq_true _ _).mp hsatisfied
    exact ⟨element, helement⟩

theorem elementById_withFlipped (document : LiveDocument) (config : ToggleConfig) (target : Nat)
    (icon : Option Nat) (next : Visibility) (id : String) :
    Document.elementById (document.onTree (·.withFlipped config target icon next)) id =
      Document.elementById document id := by
  show (if id = "" then none else Tree.first? _ _) = if id = "" then none else _
  rw [onTree, Tree.first?_id_withFlipped]

theorem hasClass_eq {element : Element} (helement : document.tree.elements[target]? = some element)
    (name : String) :
    Document.hasClass document target name = decide (name ∈ element.classes) := by
  show document.tree.satisfies (fun element => decide (name ∈ element.classes)) target = _
  rw [Tree.satisfies, helement, Option.any_some]

/-! ### Toggles -/

/-- Without failing calls, a section that becomes what it was not before has its class changed if
that is a name a class can have. -/
theorem run_setVisibility_of_flip (reliable : document.faults = .none)
    (htoken : Text.IsToken config.hiddenClass)
    (flip : next = (visibilityOf config document target).flipped) :
    (Section.setVisibility config target next).run document =
      (.ok (), document.onTree (·.withFlipped config target none next)) := by
  have hflip : ∀ element, document.tree.elements[target]? = some element →
      (next = .visible ↔ config.hiddenClass ∈ element.classes) := by
    intro element helement
    rw [flip, Section.flipped_visibilityOf_eq_visible_iff, hasClass_eq helement, decide_eq_true_iff]
  rw [run_setVisibility, tokenProblem?_eq_none htoken, Option.or_none, reliable,
    Faults.failure?_none, Faults.next_none, ← reliable, onTree, ← Tree.modify_setVisibility hflip]

/-- Without failing calls, the icon of a section is written if there is one. -/
theorem run_updateIcon_withFlipped (reliable : document.faults = .none) (config : ToggleConfig)
    (id : String) (target : Nat) (next : Visibility) :
    (updateIcon config id next).run
        (document.onTree (·.withFlipped config target none next)) =
      ⟨(), document.onTree (·.withFlipped config target
        (Document.elementById document (config.iconId id)) next), []⟩ := by
  have hlookup := elementById_withFlipped document config target none next (config.iconId id)
  cases foundIcon : Document.elementById document (config.iconId id) with
  | none =>
      rw [foundIcon] at hlookup
      rw [Section.run_updateIcon_of_none next hlookup]
  | some icon =>
      rw [foundIcon] at hlookup
      have hwritten : (Document.setAttribute icon "src" (resourceUrl (iconPath config next))).run
          (document.onTree (·.withFlipped config target none next)) =
            (.ok (), document.onTree (·.withFlipped config target (some icon) next)) := by
        refine (guarded_ok (run_setAttribute (reliable_onTree reliable _) _ _ _)).trans ?_
        rw [onTree, onTree, onTree, ← Tree.modify_setSource]
      rw [Section.run_updateIcon_of_some next hlookup, hwritten]

/-- **A toggle where nothing fails** and the class of hidden sections is a name that a class can
have. -/
theorem run_toggle (reliable : document.faults = .none)
    (htoken : Text.IsToken config.hiddenClass)
    (found : Document.elementById document id = some target)
    (flip : next = (visibilityOf config document target).flipped) :
    (toggle config id).run document =
      ⟨some next, document.onTree (·.withFlipped config target
        (Document.elementById document (config.iconId id)) next),
        [Section.toggledEntry id next]⟩ := by
  rw [Section.run_toggle_of_changed found flip (run_setVisibility_of_flip reliable htoken flip),
    run_updateIcon_withFlipped reliable]
  rfl

/-- If the class of hidden sections is no name that a class can have, a toggle does nothing but
report that. -/
theorem run_toggle_of_not_isToken (reliable : document.faults = .none)
    (htoken : ¬ Text.IsToken config.hiddenClass)
    (found : Document.elementById document id = some target) :
    ∃ problem, Element.tokenProblem? config.hiddenClass = some problem ∧
      (toggle config id).run document =
        ⟨none, document, [⟨.warn, "toggle: cannot update #" ++ id ++ ": " ++
          problem.toPageError.message⟩]⟩ := by
  obtain ⟨problem, hproblem⟩ := exists_tokenProblem?_iff.mpr htoken
  have hrefused : (Section.setVisibility config target
      (visibilityOf config document target).flipped).run document =
        (.error problem.toPageError, document) := by
    rw [run_setVisibility, hproblem, reliable, Faults.failure?_none, Faults.next_none, ← reliable]
    rfl
  exact ⟨problem, hproblem, Section.run_toggle_of_refused found rfl hrefused⟩

/-- A toggle without a result has changed nothing, whatever calls failed. -/
theorem state_toggle_of_none (h : ((toggle config id).run document).value = none) :
    ((toggle config id).run document).state =
      { document with faults := ((toggle config id).run document).state.faults } := by
  have toggled := Section.toggle_toggled config id document
  generalize (toggle config id).run document = outcome at toggled h ⊢
  cases toggled with
  | absent gone => rfl
  | refused found flip changed => exact eq_of_setVisibility_error changed
  | plain => cases h
  | iconWritten => cases h
  | iconRefused => cases h

/-- What a section is after it was flipped. -/
theorem visibilityOf_withFlipped (htoken : Text.IsToken config.hiddenClass)
    (found : Document.elementById document id = some target) (icon : Option Nat)
    (next : Visibility) :
    visibilityOf config (document.onTree (·.withFlipped config target icon next)) target =
      next := by
  obtain ⟨element, helement⟩ := exists_element_of_elementById found
  have hflipped : (document.onTree
      (·.withFlipped config target icon next)).tree.elements[target]? =
        some (element.flipped config next true (icon == some target)) := by
    rw [onTree, Tree.getElem?_withFlipped, helement, Option.map_some, beq_self_eq_true]
  have hclass := hasClass_eq hflipped config.hiddenClass
  rw [Element.classes_flipped htoken, if_pos rfl] at hclass
  simp only [Section.mem_classesAfter, if_true] at hclass
  rw [visibilityOf, hclass]
  cases next with
  | visible => rfl
  | hidden => rfl

/-- **What a toggle reads, writes and leaves alone**, whatever stands in the texts of the classes.
Where no call fails and the id leads to an element: if the class of hidden sections is empty or has
a blank in it, there is no result, one line warns of that, and the document is as before; otherwise
the result is the flip of the visibility before and is the visibility afterwards.  Then the classes
of the section, each of them once and in the order of their first occurrence, have lost the class of
hidden sections or got it at the end; the icon, if there is one, has the source that goes with the
result; and no other attribute and no other element has changed.  Whatever calls fail, a toggle
without a result has changed nothing. -/
theorem toggle_written (config : ToggleConfig) (id : String) (document : LiveDocument) :
    let outcome := (toggle config id).run document
    (document.faults = .none → ∀ target, Document.elementById document id = some target →
      (config.hiddenClass = "" ∨ Text.hasBlank config.hiddenClass = true →
        ∃ line, outcome = ⟨none, document, [⟨.warn, line⟩]⟩) ∧
      (¬ (config.hiddenClass = "" ∨ Text.hasBlank config.hiddenClass = true) →
        ∃ next, outcome.value = some next ∧
          visibility? config id document = some next.flipped ∧
          visibility? config id outcome.state = some next ∧
          outcome.state = document.onTree (·.withFlipped config target
            (Document.elementById document (id ++ config.iconSuffix)) next) ∧
          ∃ before after, document.tree.elements[target]? = some before ∧
            outcome.state.tree.elements[target]? = some after ∧
            after.classes = classesAfter config.hiddenClass next before.classes)) ∧
    (outcome.value = none → outcome.state = { document with faults := outcome.state.faults }) := by
  intro outcome
  have hnames : (config.hiddenClass = "" ∨ Text.hasBlank config.hiddenClass = true) ↔
      ¬ Text.IsToken config.hiddenClass := by
    rw [Text.IsToken, ← Bool.not_eq_true]
    tauto
  rw [hnames, not_not]
  refine ⟨?_, state_toggle_of_none⟩
  intro reliable target found
  constructor
  · intro htoken
    obtain ⟨problem, -, hrun⟩ := run_toggle_of_not_isToken reliable htoken found
    exact ⟨_, hrun⟩
  · intro htoken
    have hrun := run_toggle reliable htoken found rfl
    obtain ⟨element, helement⟩ := exists_element_of_elementById found
    refine ⟨(visibilityOf config document target).flipped, ?_, ?_, ?_, ?_, element, ?_⟩
    · rw [show outcome = _ from hrun]
    · rw [Section.Visibility.flipped_flipped]
      exact Section.visibility?_of_found config found
    · rw [show outcome = _ from hrun, Section.visibility?_of_found config
        ((elementById_withFlipped ..).trans found), visibilityOf_withFlipped htoken found]
    · exact congrArg Outcome.state hrun
    · refine ⟨element.flipped config (visibilityOf config document target).flipped true
        (Document.elementById document (config.iconId id) == some target), helement, ?_, ?_⟩
      · rw [show outcome = _ from hrun, onTree, Tree.getElem?_withFlipped, helement,
          Option.map_some, beq_self_eq_true]
      · rw [Element.classes_flipped htoken, if_pos rfl]

/-- A hidden section whose classes are written with blanks and with one of them twice, and its
icon. -/
def folded : LiveDocument :=
  Markup.document
    [⟨"div", [("id", "s"), ("class", " wide hidden\twide  dark ")]⟩,
      ⟨"img", [("id", "sImg"), ("src", "old.png")]⟩] ""

/-- The section is unfolded, and its classes are written without the blanks and repetitions. -/
theorem toggle_written_folded :
    ((toggle {} "s").run folded).value = some .visible ∧
      ((toggle {} "s").run folded).state.tree.elements =
        [.ofTag "div" false [("id", "s"), ("class", "wide dark")],
          .ofTag "img" false [("id", "sImg"), ("src", "?resource=bullets/minus.png")]] := by
  have found : Document.elementById folded "s" = some 0 := by decide +kernel
  have hhidden : visibility? {} "s" folded = some .hidden := by decide +kernel
  obtain ⟨-, hwritten⟩ := (toggle_written {} "s" folded).1 rfl 0 found
  obtain ⟨next, hvalue, hbefore, -, hstate, -⟩ := hwritten (by decide +kernel)
  obtain rfl : next = .visible := by
    rw [hhidden] at hbefore
    cases next with
    | visible => rfl
    | hidden => cases hbefore
  refine ⟨hvalue, ?_⟩
  rw [hstate]
  decide +kernel

end LiveDocument

end PageBehaviors.Browser
