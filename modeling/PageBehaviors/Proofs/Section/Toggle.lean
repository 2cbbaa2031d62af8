import PageBehaviors.Section.Visibility

/-!
# What a toggle can do

Every law about folding sections starts from one inversion: a run of `Section.toggle` goes one of
five ways, and each way says which calls were made, with which results.  The rest of the section
machinery never opens the function again.

## Main definitions and statements

* `Section.Toggled` — the five ways of a toggle; `Section.toggle_toggled` — there is no sixth.
* `Section.run_toggle_of_absent`, `Section.run_toggle_of_refused`, `Section.run_toggle_of_changed` —
  the outcome of a toggle, as soon as the result of changing the class is known.
* `Section.classesAfter`, `Section.classesWith` — the classes of an element that was made visible or
  hidden, where it was the other before, and in general.
-/

namespace PageBehaviors

variable {D E : Type} [Document D E]

namespace Section

/-- The line that reports the new visibility of a section. -/
def toggledEntry (id : String) (visibility : Visibility) : Log.Entry :=
  ⟨.debug, "toggle: #" ++ id ++ " is now " ++ visibility.name⟩

/-- The five ways of a toggle, from a document to the outcome. -/
inductive Toggled (config : ToggleConfig) (id : String) (document : D) :
    Outcome D (Option Visibility) → Prop
  /-- There is no such section. -/
  | absent (gone : Document.elementById document id = none) :
      Toggled config id document
        ⟨none, document, [⟨.debug, "toggle: no element #" ++ id⟩]⟩
  /-- The class of the section could not be changed. -/
  | refused {element : E} {next : Visibility} {error : PageError} {after : D}
      (found : Document.elementById document id = some element)
      (flip : next = (visibilityOf config document element).flipped)
      (changed : (setVisibility config element next).run document = (.error error, after)) :
      Toggled config id document
        ⟨none, after, [⟨.warn, "toggle: cannot update #" ++ id ++ ": " ++ error.message⟩]⟩
  /-- The class was changed, and the section has no icon. -/
  | plain {element : E} {next : Visibility} {after : D}
      (found : Document.elementById document id = some element)
      (flip : next = (visibilityOf config document element).flipped)
      (changed : (setVisibility config element next).run document = (.ok (), after))
      (noIcon : Document.elementById after (config.iconId id) = none) :
      Toggled config id document ⟨some next, after, [toggledEntry id next]⟩
  /-- The class was changed, and the icon with it. -/
  | iconWritten {element icon : E} {next : Visibility} {after last : D}
      (found : Document.elementById document id = some element)
      (flip : next = (visibilityOf config document element).flipped)
      (changed : (setVisibility config element next).run document = (.ok (), after))
      (foundIcon : Document.elementById after (config.iconId id) = some icon)
      (written : (Document.setAttribute icon "src" (resourceUrl (iconPath config next))).run after =
        (.ok (), last)) :
      Toggled config id document ⟨some next, last, [toggledEntry id next]⟩
  /-- The class was changed, but the icon could not be. -/
  | iconRefused {element icon : E} {next : Visibility} {error : PageError} {after last : D}
      (found : Document.elementById document id = some element)
      (flip : next = (visibilityOf config document element).flipped)
      (changed : (setVisibility config element next).run document = (.ok (), after))
      (foundIcon : Document.elementById after (config.iconId id) = some icon)
      (written : (Document.setAttribute icon "src" (resourceUrl (iconPath config next))).run after =
        (.error error, last)) :
      Toggled config id document
        ⟨some next, last,
          [⟨.warn, "toggle: cannot update icon #" ++ config.iconId id ++ ": " ++ error.message⟩,
            toggledEntry id next]⟩

theorem run_updateIcon_of_none {config : ToggleConfig} {id : String} {document : D}
    (visibility : Visibility) (h : Document.elementById document (config.iconId id) = none) :
    (updateIcon config id visibility).run document = ⟨(), document, []⟩ := by
  simp [updateIcon, Action.run_bind, h]

theorem run_updateIcon_of_some {config : ToggleConfig} {id : String} {document : D} {icon : E}
    (visibility : Visibility)
    (h : Document.elementById document (config.iconId id) = some icon) :
    (updateIcon config id visibility).run document =
      match (Document.setAttribute icon "src"
          (resourceUrl (iconPath config visibility))).run document with
      | (.ok (), last) => ⟨(), last, []⟩
      | (.error error, last) => ⟨(), last,
          [⟨.warn,
            "toggle: cannot update icon #" ++ config.iconId id ++ ": " ++ error.message⟩]⟩ := by
  simp only [updateIcon, Action.run_bind, Action.run_read, h, Action.run_call]
  cases hwritten : (Document.setAttribute icon "src"
      (resourceUrl (iconPath config visibility))).run document with
  | mk result last =>
      cases result with
      | ok => rfl
      | error error => rfl

/-! ### The way of a toggle, by its calls -/

section

variable {config : ToggleConfig} {id : String} {document after : D} {element : E}
variable {next : Visibility}

theorem run_toggle_of_absent (gone : Document.elementById document id = none) :
    (toggle config id).run document =
      ⟨none, document, [⟨.debug, "toggle: no element #" ++ id⟩]⟩ := by
  simp [toggle, Action.run_bind, gone]

theorem run_toggle_of_refused {error : PageError}
    (found : Document.elementById document id = some element)
    (flip : next = (visibilityOf config document element).flipped)
    (changed : (setVisibility config element next).run document = (.error error, after)) :
    (toggle config id).run document =
      ⟨none, after, [⟨.warn, "toggle: cannot update #" ++ id ++ ": " ++ error.message⟩]⟩ := by
  subst flip
  simp [toggle, Action.run_bind, found, changed]

theorem run_toggle_of_changed (found : Document.elementById document id = some element)
    (flip : next = (visibilityOf config document element).flipped)
    (changed : (setVisibility config element next).run document = (.ok (), after)) :
    (toggle config id).run document =
      ⟨some next, ((updateIcon config id next).run after).state,
        ((updateIcon config id next).run after).entries ++ [toggledEntry id next]⟩ := by
  subst flip
  simp [toggle, Action.run_bind, found, changed, toggledEntry]

end

/-- **A toggle goes one of the five ways.** -/
theorem toggle_toggled (config : ToggleConfig) (id : String) (document : D) :
    Toggled config id document ((toggle config id).run document) := by
  cases found : Document.elementById document id with
  | none =>
      rw [run_toggle_of_absent found]
      exact .absent found
  | some element =>
      cases changed : (setVisibility config element
          (visibilityOf config document element).flipped).run document with
      | mk result after =>
          cases result with
          | error error =>
              rw [run_toggle_of_refused found rfl changed]
              exact .refused found rfl changed
          | ok =>
              rw [run_toggle_of_changed found rfl changed]
              cases foundIcon : Document.elementById after (config.iconId id) with
              | none =>
                  rw [run_updateIcon_of_none _ foundIcon]
                  exact .plain found rfl changed foundIcon
              | some icon =>
                  rw [run_updateIcon_of_some _ foundIcon]
                  cases written : (Document.setAttribute icon "src" (resourceUrl (iconPath config
                      (visibilityOf config document element).flipped))).run after with
                  | mk result last =>
                      cases result with
                      | ok => exact .iconWritten found rfl changed foundIcon written
                      | error error => exact .iconRefused found rfl changed foundIcon written

/-- The visibility of a section that is there. -/
theorem visibility?_of_found (config : ToggleConfig) {id : String} {document : D} {element : E}
    (found : Document.elementById document id = some element) :
    visibility? config id document = some (visibilityOf config document element) := by
  rw [visibility?, found]
  rfl

/-! ### The classes of a section -/

/-- The classes of an element that was made visible or hidden: the class of hidden elements is
taken away, and comes last if the element is hidden now. -/
def classesAfter (name : String) (visibility : Visibility) (classes : List String) :
    List String :=
  classes.filter (· != name) ++ if visibility = .hidden then [name] else []

theorem mem_classesAfter {name other : String} {visibility : Visibility} {classes : List String} :
    other ∈ classesAfter name visibility classes ↔
      if other = name then visibility = .hidden else other ∈ classes := by
  rw [classesAfter, List.mem_append, List.mem_filter, bne_iff_ne]
  by_cases hname : other = name
  · rw [if_pos hname, hname]
    cases visibility with
    | visible => simp
    | hidden => simp
  · rw [if_neg hname]
    cases visibility with
    | visible => simp [hname]
    | hidden => simp [hname]

/-- The class of hidden elements is the only one that an element can get. -/
theorem forall_mem_classesAfter {P : String → Prop} {name : String} {visibility : Visibility}
    {classes : List String} (hname : P name) (h : ∀ other ∈ classes, P other) :
    ∀ other ∈ classesAfter name visibility classes, P other := by
  intro other hother
  rw [mem_classesAfter] at hother
  split at hother
  · next heq => exact heq ▸ hname
  · exact h other hother

/-- A section is made visible exactly if it has the class of hidden sections. -/
theorem flipped_visibilityOf_eq_visible_iff {config : ToggleConfig} {document : D} {element : E} :
    (visibilityOf config document element).flipped = .visible ↔
      Document.hasClass document element config.hiddenClass = true := by
  rw [visibilityOf]
  split
  · next h => exact iff_of_true rfl h
  · next h => exact iff_of_false (by decide) h

/-- Where the class is not among the others, nothing is taken away. -/
theorem filter_bne_of_notMem {name : String} {classes : List String} (h : name ∉ classes) :
    classes.filter (· != name) = classes := by
  refine List.filter_eq_self.mpr ?_
  intro other hother
  have hne : other ≠ name := fun heq => h (heq ▸ hother)
  exact bne_iff_ne.mpr hne

/-- The other classes stay as they are. -/
theorem filter_classesAfter (name : String) (visibility : Visibility) (classes : List String) :
    (classesAfter name visibility classes).filter (· != name) = classes.filter (· != name) := by
  have htail : (if visibility = .hidden then [name] else []).filter (· != name) = [] := by
    cases visibility with
    | visible => rfl
    | hidden => simp
  rw [classesAfter, List.filter_append, htail, List.append_nil, List.filter_filter]
  simp only [Bool.and_self]

/-- Only the last change counts. -/
theorem classesAfter_classesAfter (name : String) (first second : Visibility)
    (classes : List String) :
    classesAfter name second (classesAfter name first classes) =
      classesAfter name second classes := by
  rw [classesAfter, filter_classesAfter]
  rfl

theorem nodup_classesAfter {name : String} {visibility : Visibility} {classes : List String}
    (h : classes.Nodup) : (classesAfter name visibility classes).Nodup := by
  cases visibility with
  | visible =>
      rw [classesAfter, if_neg (by decide), List.append_nil]
      exact h.filter _
  | hidden =>
      rw [classesAfter, if_pos rfl, List.nodup_append]
      refine ⟨h.filter _, List.nodup_cons.mpr ⟨List.not_mem_nil, List.nodup_nil⟩, ?_⟩
      intro other hother last hlast heq
      have hne : other ≠ name := bne_iff_ne.mp (List.mem_filter.mp hother).2
      exact hne (heq.trans (List.mem_singleton.mp hlast))

/-- The classes of an element that is made visible or hidden, whatever it was before: one that is
hidden already keeps its classes in their order. -/
def classesWith (name : String) (visibility : Visibility) (classes : List String) : List String :=
  if visibility = .hidden ∧ name ∈ classes then classes else classesAfter name visibility classes

theorem classesWith_visible (name : String) (classes : List String) :
    classesWith name .visible classes = classes.filter (· != name) := by
  rw [classesWith, if_neg (fun h => nomatch h.1), classesAfter]
  exact List.append_nil _

theorem classesWith_hidden (name : String) (classes : List String) :
    classesWith name .hidden classes = if name ∈ classes then classes else classes ++ [name] := by
  rw [classesWith]
  by_cases hmem : name ∈ classes
  · rw [if_pos ⟨rfl, hmem⟩, if_pos hmem]
  · rw [if_neg (fun h => hmem h.2), if_neg hmem, classesAfter, filter_bne_of_notMem hmem, if_pos rfl]

/-- The classes of an element that becomes what it was not before. -/
theorem classesWith_of_flip {name : String} {visibility : Visibility} {classes : List String}
    (flip : visibility = .visible ↔ name ∈ classes) :
    classesWith name visibility classes = classesAfter name visibility classes := by
  refine if_neg ?_
  rintro ⟨rfl, hmem⟩
  cases flip.mpr hmem

theorem mem_classesWith {name other : String} {visibility : Visibility} {classes : List String} :
    other ∈ classesWith name visibility classes ↔
      if other = name then visibility = .hidden else other ∈ classes := by
  rw [classesWith]
  split
  · next h =>
      by_cases hname : other = name
      · rw [if_pos hname, hname]
        exact iff_of_true h.2 h.1
      · rw [if_neg hname]
  · exact mem_classesAfter

theorem filter_classesWith (name : String) (visibility : Visibility) (classes : List String) :
    (classesWith name visibility classes).filter (· != name) = classes.filter (· != name) := by
  rw [classesWith]
  split
  · rfl
  · exact filter_classesAfter name visibility classes

theorem forall_mem_classesWith {P : String → Prop} {name : String} {visibility : Visibility}
    {classes : List String} (hname : P name) (h : ∀ other ∈ classes, P other) :
    ∀ other ∈ classesWith name visibility classes, P other := by
  rw [classesWith]
  split
  · exact h
  · exact forall_mem_classesAfter hname h

theorem nodup_classesWith {name : String} {visibility : Visibility} {classes : List String}
    (h : classes.Nodup) : (classesWith name visibility classes).Nodup := by
  rw [classesWith]
  split
  · exact h
  · exact nodup_classesAfter h

/-- An element that is made what it is already has its classes as they were, unless the class of
hidden elements was not the last of them. -/
theorem classesAfter_eq_self_iff {name : String} {visibility : Visibility} {classes : List String}
    (hnodup : classes.Nodup) (h : visibility = .hidden ↔ name ∈ classes) :
    classesAfter name visibility classes = classes ↔
      name ∉ classes ∨ classes.getLast? = some name := by
  cases visibility with
  | visible =>
      have hnotMem : name ∉ classes := by
        intro hmem
        cases h.mpr hmem
      refine iff_of_true ?_ (Or.inl hnotMem)
      rw [classesAfter, filter_bne_of_notMem hnotMem]
      exact List.append_nil classes
  | hidden =>
      have hmem : name ∈ classes := h.mp rfl
      rw [or_iff_right (not_not_intro hmem)]
      constructor
      · intro heq
        rw [← heq]
        exact List.getLast?_concat
      · intro hlast
        obtain ⟨others, rfl⟩ := List.getLast?_eq_some_iff.mp hlast
        have hothers : name ∉ others := by
          intro hother
          exact (List.nodup_append.mp hnodup).2.2 name hother name List.mem_cons_self rfl
        rw [classesAfter, List.filter_append, filter_bne_of_notMem hothers]
        simp

end Section

end PageBehaviors
