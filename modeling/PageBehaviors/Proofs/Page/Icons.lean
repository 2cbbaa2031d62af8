import PageBehaviors.Proofs.Page.Alternation

/-!
# Icons agree with their sections

A section and its icon are changed by two calls of their own, and between them the toggle may end.
Still, as long as no icon is refused its source, the icon of every section that has been flipped
shows what is seen of the section, and nothing else ever gets another source.

Sections and icons may share nodes in any way: a suffix that is empty makes every section its own
icon, and the icon of one section may be another section.  What keeps them apart is that different
ids have different icon ids, and that different ids lead to different nodes.

## Main statements

* `Session.IconAgrees` — the icon of a section shows what is seen of the section.
* `Session.iconAgrees_perform`, `Session.source_of_no_verdict` — one operation.
* `Session.icons_agree` — a whole run.
-/

namespace PageBehaviors

open Section (Visibility iconPath)

namespace Session

/-- The icon of a section, if it has one, shows what is seen of the section. -/
def IconAgrees (id : String) (session : Session (Unreliable MemoryDocument) Nat) : Prop :=
  ∀ icon visibility,
    Document.elementById session.document (session.page.config.toggle.iconId id) = some icon →
    visibility? id session = some visibility →
    session.document.document.attribute? icon "src" =
      some (resourceUrl (iconPath session.page.config.toggle visibility))

/-- No icon was refused its source. -/
def IconsWritten (operations : List Operation)
    (session : Session (Unreliable MemoryDocument) Nat) : Prop :=
  ∀ failure ∈ failures operations session, failure.call ≠ .setAttribute

theorem iconsWritten_cons {operation : Operation} {operations : List Operation}
    {session : Session (Unreliable MemoryDocument) Nat}
    (h : IconsWritten (operation :: operations) session) :
    IconsWritten [operation] session ∧
      IconsWritten operations ((perform operation).run session).state := by
  rw [IconsWritten, failures_cons] at h
  exact ⟨fun failure hmem => h failure (List.mem_append_left _ hmem),
    fun failure hmem => h failure (List.mem_append_right _ hmem)⟩

section

variable {operation : Operation} {session : Session (Unreliable MemoryDocument) Nat}

theorem setAttribute_notMem_of_written (written : IconsWritten [operation] session) :
    Unreliable.Call.setAttribute ∉ (failures [operation] session).map Failure.call := by
  intro h
  obtain ⟨failure, hmem, hcall⟩ := List.mem_map.mp h
  exact written failure hmem hcall

/-- The icon of a section with a verdict shows the verdict. -/
theorem source_of_verdict (written : IconsWritten [operation] session) {id : String}
    {next : Visibility} (h : verdict? id operation session = some next) {icon : Nat}
    (found : Document.elementById session.document (session.page.config.toggle.iconId id) =
      some icon) :
    ((perform operation).run session).state.document.document.attribute? icon "src" =
      some (resourceUrl (iconPath session.page.config.toggle next)) := by
  have toggled := toggled_of_addressee (addressee?_of_verdict h)
  rw [h] at toggled
  rw [toggled.source_of_some (setAttribute_notMem_of_written written)]
  exact if_pos found

/-- No other node gets another source. -/
theorem source_of_no_verdict (written : IconsWritten [operation] session) {place : Nat}
    (h : ∀ id, verdict? id operation session ≠ none →
      Document.elementById session.document (session.page.config.toggle.iconId id) ≠ some place) :
    ((perform operation).run session).state.document.document.attribute? place "src" =
      session.document.document.attribute? place "src" := by
  cases haddressee : operation.addressee? session.page with
  | none =>
      exact congrFun (congrArg MemoryDocument.Facade.source (facade_perform haddressee)) place
  | some addressee =>
      have toggled := toggled_of_addressee haddressee
      cases hverdict : verdict? addressee operation session with
      | none =>
          rw [hverdict] at toggled
          rw [toggled.eq_of_none]
      | some next =>
          rw [hverdict] at toggled
          rw [toggled.source_of_some (setAttribute_notMem_of_written written)]
          exact if_neg (h addressee (by simp [hverdict]))

/-- **One operation**: the icon of a section agrees with it after a verdict, and it still agrees
after an operation without one, since no two sections have the same icon. -/
theorem iconAgrees_perform (written : IconsWritten [operation] session) {id : String}
    (h : verdict? id operation session ≠ none ∨ IconAgrees id session) :
    IconAgrees id ((perform operation).run session).state := by
  intro icon visibility found seen
  rw [config_perform, elementById_perform] at found
  rw [config_perform]
  rw [visibility?_perform] at seen
  cases hverdict : verdict? id operation session with
  | some next =>
      obtain rfl : next = visibility := by simpa [hverdict] using seen
      exact source_of_verdict written hverdict found
  | none =>
      rw [source_of_no_verdict written]
      · refine h.resolve_left (fun hne => hne hverdict) icon visibility found ?_
        simpa [hverdict] using seen
      · intro other hother hfound
        have hid := session.page.config.toggle.iconId_injective
          (MemoryDocument.elementById_injective hfound found)
        exact hother (hid ▸ hverdict)

end

/-! ### Whole runs -/

theorem verdicts_ne_nil_cons {id : String} {operation : Operation} {operations : List Operation}
    {session : Session (Unreliable MemoryDocument) Nat} :
    verdicts id (operation :: operations) session ≠ [] ↔
      verdict? id operation session ≠ none ∨
        verdicts id operations ((perform operation).run session).state ≠ [] := by
  rw [verdicts_cons, ne_eq, List.append_eq_nil_iff, not_and_or]
  cases verdict? id operation session <;> simp

/-- A section with a verdict agrees with its icon at the end of the run. -/
theorem iconAgrees_run {operations : List Operation}
    {session : Session (Unreliable MemoryDocument) Nat} (written : IconsWritten operations session)
    {id : String} (h : verdicts id operations session ≠ [] ∨ IconAgrees id session) :
    IconAgrees id ((run operations).run session).state := by
  induction operations generalizing session with
  | nil => exact h.resolve_left fun hne => hne rfl
  | cons operation operations ih =>
      obtain ⟨first, rest⟩ := iconsWritten_cons written
      rcases h with h | h
      · rcases verdicts_ne_nil_cons.mp h with hfirst | hrest
        · exact ih rest (Or.inr (iconAgrees_perform first (Or.inl hfirst)))
        · exact ih rest (Or.inl hrest)
      · exact ih rest (Or.inr (iconAgrees_perform first (Or.inr h)))

/-- A node that is not the icon of a section with a verdict keeps its source during the run. -/
theorem source_run {operations : List Operation}
    {session : Session (Unreliable MemoryDocument) Nat} (written : IconsWritten operations session)
    {place : Nat}
    (h : ∀ id, verdicts id operations session ≠ [] →
      Document.elementById session.document (session.page.config.toggle.iconId id) ≠ some place) :
    ((run operations).run session).state.document.document.attribute? place "src" =
      session.document.document.attribute? place "src" := by
  induction operations generalizing session with
  | nil => rfl
  | cons operation operations ih =>
      obtain ⟨first, rest⟩ := iconsWritten_cons written
      refine (ih rest fun id hid => ?_).trans (source_of_no_verdict first fun id hid => ?_)
      · rw [config_perform, elementById_perform]
        exact h id (verdicts_ne_nil_cons.mpr (Or.inr hid))
      · exact h id (verdicts_ne_nil_cons.mpr (Or.inl hid))

/-- **Icons and sections never disagree**, as long as no icon is refused its source, whatever other
calls fail and whatever is done with the page.  At the end of a run, and so at every moment of a
longer one, each section that has had a verdict is shown or hidden, and its icon, the element whose
id is that of the section with the suffix, has the source for that, if there is such an element;
every node that is not the icon of such a section has the source it had at the start. -/
theorem icons_agree (operations : List Operation)
    (session : Session (Unreliable MemoryDocument) Nat)
    (written : IconsWritten operations session) :
    let config := session.page.config.toggle
    let after := ((run operations).run session).state
    (∀ id, verdicts id operations session ≠ [] →
      (visibility? id after = some .visible ∧
        ∀ icon, Document.elementById after.document (id ++ config.iconSuffix) = some icon →
          after.document.document.attribute? icon "src" =
            some ("?resource=" ++ config.expandedIcon)) ∨
      (visibility? id after = some .hidden ∧
        ∀ icon, Document.elementById after.document (id ++ config.iconSuffix) = some icon →
          after.document.document.attribute? icon "src" =
            some ("?resource=" ++ config.collapsedIcon))) ∧
    ∀ place,
      (∀ id, verdicts id operations session ≠ [] →
        Document.elementById after.document (id ++ config.iconSuffix) ≠ some place) →
      after.document.document.attribute? place "src" =
        session.document.document.attribute? place "src" := by
  intro config after
  refine ⟨fun id hid => ?_, fun place h => source_run written fun id hid => ?_⟩
  · have agrees := iconAgrees_run written (Or.inl hid)
    rw [IconAgrees, config_run] at agrees
    obtain ⟨last, hlast⟩ := Option.ne_none_iff_exists'.mp (mt List.getLast?_eq_none_iff.mp hid)
    have seen : visibility? id after = some last := by
      rw [visibility?_run, hlast, Option.some_or]
    cases last with
    | visible => exact Or.inl ⟨seen, fun icon found => agrees icon .visible found seen⟩
    | hidden => exact Or.inr ⟨seen, fun icon found => agrees icon .hidden found seen⟩
  · rw [← elementById_run operations session]
    exact h id hid

/-- Two sections with their icons, in a document whose first attempt to add a class fails. -/
def gallery : Session (Unreliable MemoryDocument) Nat where
  document :=
    { document := { nodes :=
        [.ofTag "div" [("id", "news")], .ofTag "img" [("id", "newsImg"), ("src", "old.png")],
          .ofTag "div" [("id", "help")], .ofTag "img" [("id", "helpImg"), ("src", "kept.png")]] }
      faults := fun call => if call = .addClass then some ⟨"busy", 0, some 1⟩ else none }
  page := { config := {} }

/-- One section is hidden, and its icon follows.  The attempt to hide the other one has failed, and
its icon keeps its source. -/
theorem icons_agree_gallery :
    let operations := [.toggle "help", .toggle "news", .toggle "news", .toggle "news", .init]
    let after := ((run operations).run gallery).state
    IconsWritten operations gallery ∧
      verdicts "news" operations gallery = [.hidden, .visible, .hidden] ∧
      after.document.document.attribute? 1 "src" = some "?resource=bullets/plus.png" ∧
      after.document.document.attribute? 3 "src" = some "kept.png" := by
  intro operations after
  have written : IconsWritten operations gallery := by
    unfold IconsWritten
    decide +kernel
  have hnews : verdicts "news" operations gallery = [.hidden, .visible, .hidden] := by
    decide +kernel
  obtain ⟨hshown, hkept⟩ := icons_agree operations gallery written
  refine ⟨written, hnews, ?_, hkept 3 fun id hid hicon => ?_⟩
  · have hidden : visibility? "news" after = some .hidden := by decide +kernel
    rcases hshown "news" (by rw [hnews]; exact nofun) with h | h
    · cases hidden.symm.trans h.1
    · exact h.2 1 (by decide +kernel)
  · -- the icon of the other section is the icon of no section else
    have hhelp : Document.elementById after.document
        (gallery.page.config.toggle.iconId "help") = some 3 := by decide +kernel
    have hid' := gallery.page.config.toggle.iconId_injective
      (MemoryDocument.elementById_injective hicon hhelp)
    subst hid'
    exact hid (by decide +kernel)

end Session

end PageBehaviors
