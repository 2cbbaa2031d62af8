import PageBehaviors.Proofs.Section.Period

/-!
# The order of toggles

A toggle reads one thing, whether its section has the class of hidden sections, and writes two: that
class, and the source of the section's icon.  Different ids lead to different sections and to
different icons, so two toggles never write the same thing, and neither writes what the other one
reads.  A section may well be the icon of another one, since a class and a source are apart.

So toggles can be exchanged.  Each section is answered as if it were toggled alone, and what a row
of toggles leaves behind depends only on how often each id occurs in it.

## Main definitions and statements

* `Section.toggleEach` — toggling several sections one after the other; `Section.answersTo` — what
  one of them is answered on the way.
* `MemoryDocument.afterToggle_comm` — two toggles can be exchanged.
* `MemoryDocument.answersTo_toggleEach` — a section is answered as if it were toggled alone.
* `Section.toggleEach_perm` — the order of toggles does not matter.
-/

namespace PageBehaviors

namespace Section

variable {D E : Type} [Document D E]

/-- Toggle several sections one after the other.  The value lists their ids with the results. -/
def toggleEach (config : ToggleConfig) : List String → Action D (List (String × Option Visibility))
  | [] => pure []
  | id :: ids => do
    let answer ← toggle config id
    let others ← toggleEach config ids
    pure ((id, answer) :: others)

/-- The results for one id, in their order. -/
def answersTo (id : String) (answers : List (String × Option Visibility)) :
    List (Option Visibility) :=
  (answers.filter fun answer => answer.1 == id).map Prod.snd

/-- The results of toggling a section a number of times, where `now` is what it is at first. -/
def answersFrom (now : Option Visibility) : Nat → List (Option Visibility)
  | 0 => []
  | times + 1 => now.map Visibility.flipped :: answersFrom (now.map Visibility.flipped) times

theorem value_toggleEach_cons (config : ToggleConfig) (id : String) (ids : List String)
    (document : D) :
    ((toggleEach config (id :: ids)).run document).value =
      (id, ((toggle config id).run document).value) ::
        ((toggleEach config ids).run (afterToggle config id document)).value := rfl

theorem state_toggleEach (config : ToggleConfig) (ids : List String) (document : D) :
    ((toggleEach config ids).run document).state =
      ids.foldl (fun document id => afterToggle config id document) document := by
  induction ids generalizing document with
  | nil => rfl
  | cons id ids ih => exact ih (afterToggle config id document)

theorem answersTo_cons (id : String) (answer : String × Option Visibility)
    (answers : List (String × Option Visibility)) :
    answersTo id (answer :: answers) =
      if answer.1 = id then answer.2 :: answersTo id answers else answersTo id answers := by
  rw [answersTo, List.filter_cons]
  by_cases hid : answer.1 = id
  · rw [if_pos (beq_iff_eq.mpr hid), if_pos hid]
    rfl
  · rw [if_neg (by simpa using hid), if_neg hid]
    rfl

end Section

open Section (Visibility visibilityOf visibility? afterToggle toggle toggleEach answersTo
  answersFrom)

namespace MemoryDocument

variable {config : ToggleConfig} {id : String} {document : MemoryDocument}

/-! ### One toggle -/

/-- What a section is now, if there is one and it can be toggled. -/
def toggleable? (config : ToggleConfig) (id : String) (document : MemoryDocument) :
    Option Visibility :=
  if document.classesReadOnly then none else visibility? config id document

/-- A toggle in a document none of whose calls fail. -/
theorem toggled_afterToggle (config : ToggleConfig) (id : String) (document : MemoryDocument) :
    ∃ failed, Toggled config id document ((toggle config id).run document).value
      (afterToggle config id document) failed := by
  obtain ⟨-, hvalue, hstate⟩ := (Unreliable.simulation_reliable { toggle := config }).toggle id
    (Unreliable.reliable document) document rfl
  have toggled := Section.toggle_nodes config id (Unreliable.reliable document)
  rw [hvalue, hstate] at toggled
  exact ⟨_, toggled⟩

theorem elementById_afterToggle (config : ToggleConfig) (id other : String)
    (document : MemoryDocument) :
    Document.elementById (afterToggle config id document) other =
      Document.elementById document other := by
  obtain ⟨failed, toggled⟩ := document.toggled_afterToggle config id
  exact toggled.elementById_eq other

theorem Toggled.classesReadOnly_eq {before after : MemoryDocument} {value : Option Visibility}
    {failed : List Unreliable.Call} (toggled : Toggled config id before value after failed) :
    after.classesReadOnly = before.classesReadOnly := by
  cases toggled <;> rfl

theorem classesReadOnly_afterToggle (config : ToggleConfig) (id : String)
    (document : MemoryDocument) :
    (afterToggle config id document).classesReadOnly = document.classesReadOnly := by
  obtain ⟨failed, toggled⟩ := document.toggled_afterToggle config id
  exact toggled.classesReadOnly_eq

/-- The result of a toggle. -/
theorem value_toggle (config : ToggleConfig) (id : String) (document : MemoryDocument) :
    ((toggle config id).run document).value =
      (document.toggleable? config id).map Visibility.flipped := by
  rw [toggleable?, visibility?]
  cases found : Document.elementById document id with
  | none =>
      rw [Section.run_toggle_of_absent found, Option.map_none, ite_self]
      rfl
  | some target =>
      have hchange := document.run_setVisibility config target
        (visibilityOf config document target).flipped
      by_cases readOnly : document.classesReadOnly = true
      · rw [if_pos readOnly] at hchange
        rw [Section.run_toggle_of_refused found rfl hchange, if_pos readOnly]
        rfl
      · rw [if_neg readOnly] at hchange
        rw [Section.run_toggle_of_changed found rfl hchange, if_neg readOnly]
        rfl

/-- A toggle shows in the next toggles of its own section, and in no others. -/
theorem toggleable?_afterToggle (config : ToggleConfig) (id other : String)
    (document : MemoryDocument) :
    (afterToggle config id document).toggleable? config other =
      if id = other then (document.toggleable? config other).map Visibility.flipped
      else document.toggleable? config other := by
  obtain ⟨failed, toggled⟩ := document.toggled_afterToggle config id
  have hseen := toggled.visibility?_eq other
  rw [value_toggle] at hseen
  rw [toggleable?, toggleable?, classesReadOnly_afterToggle, hseen, toggleable?]
  by_cases readOnly : document.classesReadOnly = true
  · simp only [if_pos readOnly, Option.map_none, ite_self]
  · simp only [if_neg readOnly]
    by_cases hother : id = other
    · rw [if_pos hother, if_pos hother.symm, hother]
      cases visibility? config other document <;> rfl
    · rw [if_neg hother, if_neg (Ne.symm hother), Option.none_or]

/-! ### Two toggles -/

/-- Two changes of which at most one applies can be exchanged. -/
theorem ite_ite_comm {α : Type} {p q : Prop} [Decidable p] [Decidable q] (h : p → ¬ q)
    (f g : α → α) (a : α) :
    (if p then f (if q then g a else a) else if q then g a else a) =
      if q then g (if p then f a else a) else if p then f a else a := by
  by_cases hp : p
  · simp only [if_pos hp, if_neg (h hp)]
  · simp only [if_neg hp]

/-- Flips of different sections with different icons can be exchanged. -/
theorem withFlipped_comm (config : ToggleConfig) {first second : Nat}
    {firstIcon secondIcon : Option Nat} (hsections : first ≠ second)
    (hicons : ∀ place, firstIcon = some place → secondIcon ≠ some place)
    (next other : Visibility) (document : MemoryDocument) :
    (document.withFlipped config second secondIcon other).withFlipped config first firstIcon next =
      (document.withFlipped config first firstIcon next).withFlipped config second secondIcon
        other := by
  refine ext_nodes (by simp only [cookies_withFlipped]) (by simp only [classesReadOnly_withFlipped])
    ?_
  intro place
  simp only [getElem?_withFlipped, Option.map_map]
  congr 1
  funext node
  have hplace : place = first → place ≠ second := by
    rintro rfl
    exact hsections
  have hclasses := ite_ite_comm hplace (Section.classesAfter config.hiddenClass next)
    (Section.classesAfter config.hiddenClass other) node.classes
  have hsources := ite_ite_comm (hicons place)
    (·.set "src" (resourceUrl (Section.iconPath config next)))
    (·.set "src" (resourceUrl (Section.iconPath config other))) node.attributes
  simp only [Function.comp_apply, hclasses, hsources]

/-- What a section is now does not depend on a toggle of another one. -/
theorem visibilityOf_afterToggle_of_ne {other : String} {target : Nat} (hne : id ≠ other)
    (found : Document.elementById document id = some target) :
    visibilityOf config (afterToggle config other document) target =
      visibilityOf config document target := by
  obtain ⟨failed, toggled⟩ := document.toggled_afterToggle config other
  have hseen := toggled.visibility?_eq id
  have found' := (elementById_afterToggle config other id document).trans found
  rw [if_neg hne, Option.none_or, Section.visibility?_of_found config found',
    Section.visibility?_of_found config found] at hseen
  exact Option.some.inj hseen

/-- Two toggles of sections that are there, in a document whose classes can be changed. -/
theorem afterToggle_afterToggle {other : String} {target place : Nat} (hne : id ≠ other)
    (writable : document.classesReadOnly = false)
    (found : Document.elementById document id = some target)
    (foundOther : Document.elementById document other = some place) :
    afterToggle config id (afterToggle config other document) =
      (document.withFlipped config place (Document.elementById document (config.iconId other))
        (visibilityOf config document place).flipped).withFlipped config target
          (Document.elementById document (config.iconId id))
          (visibilityOf config document target).flipped := by
  have found' := (elementById_afterToggle config other id document).trans found
  have writable' := (classesReadOnly_afterToggle config other document).trans writable
  rw [afterToggle_of_found found' writable', visibilityOf_afterToggle_of_ne hne found,
    elementById_afterToggle, afterToggle_of_found foundOther writable]

/-- **Two toggles can be exchanged.** -/
theorem afterToggle_comm (config : ToggleConfig) (first second : String)
    (document : MemoryDocument) :
    afterToggle config second (afterToggle config first document) =
      afterToggle config first (afterToggle config second document) := by
  by_cases hne : first = second
  · rw [hne]
  -- a section that is not there, or whose class cannot be changed, stays so
  cases found : Document.elementById document first with
  | none =>
      have found' := (elementById_afterToggle config second first document).trans found
      rw [Section.afterToggle_of_absent config found, Section.afterToggle_of_absent config found']
  | some target =>
      cases foundSecond : Document.elementById document second with
      | none =>
          have found' := (elementById_afterToggle config first second document).trans foundSecond
          rw [Section.afterToggle_of_absent config foundSecond,
            Section.afterToggle_of_absent config found']
      | some place =>
          cases hwritable : document.classesReadOnly with
          | true => rw [afterToggle_of_readOnly config first hwritable,
              afterToggle_of_readOnly config second hwritable,
              afterToggle_of_readOnly config first hwritable]
          | false =>
              rw [afterToggle_afterToggle (Ne.symm hne) hwritable foundSecond found,
                afterToggle_afterToggle hne hwritable found foundSecond]
              refine (withFlipped_comm config ?_ ?_ _ _ document).symm
              · rintro rfl
                exact hne (elementById_injective found foundSecond)
              · intro icon hfirst hsecond
                exact hne (config.iconId_injective (elementById_injective hfirst hsecond))

/-! ### Rows of toggles -/

/-- **A section is answered as if it were toggled alone**, as often as it is in the row. -/
theorem answersTo_toggleEach (config : ToggleConfig) (id : String) (ids : List String)
    (document : MemoryDocument) :
    answersTo id ((toggleEach config ids).run document).value =
      answersFrom (document.toggleable? config id) (ids.count id) := by
  induction ids generalizing document with
  | nil => rfl
  | cons other ids ih =>
      rw [Section.value_toggleEach_cons, Section.answersTo_cons, ih, toggleable?_afterToggle]
      by_cases hother : other = id
      · rw [if_pos hother, if_pos hother, hother, value_toggle, List.count_cons_self]
        rfl
      · rw [if_neg hother, if_neg hother, List.count_cons_of_ne hother]

end MemoryDocument

namespace Section

/-- **The order of toggles does not matter**: two rows of toggles in which every id occurs equally
often leave the same document, and for each id they have the same results in the same order. -/
theorem toggleEach_perm (config : ToggleConfig) (document : MemoryDocument)
    {first second : List String} (perm : first.Perm second) :
    ((toggleEach config first).run document).state =
        ((toggleEach config second).run document).state ∧
      ∀ id, answersTo id ((toggleEach config first).run document).value =
        answersTo id ((toggleEach config second).run document).value := by
  constructor
  · rw [state_toggleEach, state_toggleEach]
    apply perm.foldl_eq'
    intro id _ other _ reached
    exact MemoryDocument.afterToggle_comm config id other reached
  · intro id
    rw [MemoryDocument.answersTo_toggleEach, MemoryDocument.answersTo_toggleEach, perm.count_eq]

/-- A section whose icon is a section itself, and a second node with its id. -/
def easel : MemoryDocument where
  nodes :=
    [{ MemoryNode.ofTag "div" [("id", "s")] with classes := ["hidden", "wide"] },
      .ofTag "img" [("id", "sImg"), ("src", "old.png")], .ofTag "div" [("id", "s")]]

/-- The section and its icon are toggled in turn, and an id that is not there in between. -/
theorem toggleEach_perm_easel :
    ["s", "sImg", "none", "s"].Perm ["sImg", "s", "s", "none"] ∧
      ((toggleEach {} ["s", "sImg", "none", "s"]).run easel).state =
        ((toggleEach {} ["sImg", "s", "s", "none"]).run easel).state ∧
      answersTo "s" ((toggleEach {} ["s", "sImg", "none", "s"]).run easel).value =
        [some .visible, some .hidden] := by
  have perm : ["s", "sImg", "none", "s"].Perm ["sImg", "s", "s", "none"] := by decide
  obtain ⟨hstate, hanswers⟩ := toggleEach_perm {} easel perm
  refine ⟨perm, hstate, ?_⟩
  rw [hanswers]
  decide +kernel

end Section

end PageBehaviors
