import PageBehaviors.Proofs.Browser.Interchange
import PageBehaviors.Proofs.Browser.Triggers

/-!
# Which triggers are found in a browser

Looking for triggers asks twice: a query gives the elements that hold the marker, and then each of
them is asked for its value.  The two agree on which attribute of an element the marker is, so what
comes out can be read off the tree, element by element, and calls that throw only take bindings
away.

## Main definitions and statements

* `Browser.Element.Holds`, `Browser.LiveDocument.Holds` — an element holds an attribute.
* `Browser.LiveDocument.mem_marked`, `Browser.LiveDocument.mem_holders` — what the tree gives, told
  from the attributes that elements hold.
* `Browser.LiveDocument.discover_exact` — the bindings that are found are those of the tree.
-/

namespace PageBehaviors

theorem Attributes.mem_of_get? {attributes : Attributes} {key value : String}
    (h : attributes.get? key = some value) : (key, value) ∈ attributes.entries := by
  obtain ⟨before, rest, hentries, -⟩ := List.lookup_eq_some_iff.mp h
  rw [hentries]
  exact List.mem_append_right before List.mem_cons_self

namespace Browser

open Section (Binding discover)

/-! ### Attributes by name -/

/-- An element holds an attribute with a value.  In SVG its name is compared as it is written, and
elsewhere without regard to case. -/
def Element.Holds (element : Element) (name value : String) : Prop :=
  ∃ key, element.attributes.get? key = some value ∧
    if element.svg then key = name else Text.sameIgnoringCase key name = true

/-- Reading an attribute gives what the element holds: outside SVG it is kept under its name in
small letters, and under no other name that differs in case only. -/
theorem Element.get?_eq_some_iff {element : Element} {name value : String} :
    element.get? name = some value ↔ element.Holds name value := by
  cases hsvg : element.svg with
  | true =>
      simp [Element.get?, Element.key, Element.Holds, hsvg]
  | false =>
      have hlower {key value : String} (h : element.attributes.get? key = some value) :
          Text.lower key = key := element.tidy hsvg _ (Attributes.mem_of_get? h)
      rw [Element.get?, Element.key_of_html hsvg, Element.Holds, hsvg]
      constructor
      · intro h
        exact ⟨_, h, Text.sameIgnoringCase_iff.mpr (Text.lower_lower name)⟩
      · rintro ⟨key, h, hsame⟩
        rw [← Text.sameIgnoringCase_iff.mp hsame, hlower h]
        exact h

namespace LiveDocument

variable (config : ToggleConfig) (document : LiveDocument)

/-- An element, by its number, holds an attribute with a value. -/
def Holds (n : Nat) (name value : String) : Prop :=
  ∃ element, document.tree.elements[n]? = some element ∧ element.Holds name value

/-! ### The bindings that the tree gives -/

variable {config document}

theorem attribute?_eq_some_iff {n : Nat} {name value : String} :
    document.attribute? n name = some value ↔ document.Holds n name value := by
  rw [attribute?, Option.bind_eq_some_iff, Holds]
  exact exists_congr fun element => and_congr_right fun _ => Element.get?_eq_some_iff

/-- The tree gives the bindings of the elements that hold the marker with a value. -/
theorem mem_marked {binding : Binding Nat} :
    binding ∈ document.marked config ↔
      binding.trigger ∈ document.tree.forest.preorder ∧
        document.Holds binding.trigger config.marker binding.target ∧ binding.target ≠ "" ∧
        binding.icon = binding.target ++ config.iconSuffix := by
  simp only [marked, List.mem_filterMap, binding?_eq_some_iff, attribute?_eq_some_iff]
  constructor
  · rintro ⟨n, hn, rfl, hrest⟩
    exact ⟨hn, hrest⟩
  · rintro ⟨hn, hrest⟩
    exact ⟨_, hn, rfl, hrest⟩

/-- Asked are the elements that hold the marker with any value. -/
theorem mem_holders {n : Nat} :
    n ∈ document.holders config ↔
      n ∈ document.tree.forest.preorder ∧ ∃ value, document.Holds n config.marker value := by
  rw [holders, Tree.select, List.mem_filter, satisfies_marker, Option.isSome_iff_exists]
  simp only [attribute?_eq_some_iff]

variable (config document)

/-- Without failing calls every element is asked, and the document stays as it is. -/
theorem run_discover_of_reliable (reliable : document.faults = .none) :
    (discover config).run document =
      if Text.isIdentifier config.marker then
        ⟨document.marked config, document,
          document.skippedLines config (document.holders config)⟩
      else ⟨[], document, [queryLine config (selectorProblem config.marker)]⟩ := by
  have hgranted : document.faults.granted .getAttribute (document.holders config) =
      document.holders config := by
    rw [document.faults.granted_eq_filter _ (document.nodup_holders config), reliable]
    exact List.filter_true _
  obtain ⟨tree, cookies, html, faults⟩ := document
  subst reliable
  simp only [run_discover, Faults.failure?_none, Faults.next_none, run_bindAll, Faults.after_none,
    hgranted, filterMap_holders]

/-- **Which triggers are found** in the document of a browser, with any settings and any calls that
fail.  The tree gives one binding for each element in the document that holds the marker with a
value, in document order: its target is the value, its icon the value with the suffix.

* If no call fails, these bindings are found, provided that the marker is an identifier; otherwise
  nothing is found and one line is written.
* A query that throws finds nothing and is reported.
* Otherwise each element that holds the marker is asked once, also if its value is empty, and of the
  bindings that the tree gives exactly those are missing whose elements did not answer.

The document stays as it is in all cases; what goes on are the schedules of the two calls. -/
theorem discover_exact :
    let marked := document.marked config
    let holders := document.holders config
    let asked : LiveDocument := { document with faults := document.faults.next .querySelectorAll }
    (marked.map Binding.trigger).Sublist document.tree.forest.preorder ∧
    (marked.map Binding.trigger).Nodup ∧
    (∀ binding, binding ∈ marked ↔
      binding.trigger ∈ document.tree.forest.preorder ∧
        document.Holds binding.trigger config.marker binding.target ∧ binding.target ≠ "" ∧
        binding.icon = binding.target ++ config.iconSuffix) ∧
    holders.Sublist document.tree.forest.preorder ∧
    (∀ n, n ∈ holders ↔
      n ∈ document.tree.forest.preorder ∧ ∃ value, document.Holds n config.marker value) ∧
    (document.faults = .none → (discover config).run document =
      if Text.isIdentifier config.marker then
        ⟨marked, document, document.skippedLines config holders⟩
      else ⟨[], document, [queryLine config (selectorProblem config.marker)]⟩) ∧
    (discover config).run document =
      match document.faults.failure? .querySelectorAll with
      | some thrown => ⟨[], asked, [queryLine config thrown]⟩
      | none =>
        if Text.isIdentifier config.marker then
          ⟨marked.filter fun binding =>
              document.faults.worksAfter .getAttribute (holders.idxOf binding.trigger),
            { asked with faults := asked.faults.after .getAttribute holders.length },
            document.skippedLines config (document.faults.granted .getAttribute holders)⟩
        else ⟨[], asked, [queryLine config (selectorProblem config.marker)]⟩ := by
  intro marked holders asked
  have hsublist := document.sublist_marked config
  refine ⟨hsublist, document.tree.nodup.sublist hsublist, fun _ => mem_marked,
    List.filter_sublist, fun _ => mem_holders, document.run_discover_of_reliable config, ?_⟩
  -- the query counts calls of another kind
  have hgranted : asked.faults.granted .getAttribute holders =
      document.faults.granted .getAttribute holders :=
    document.faults.granted_next_ne (by decide) holders
  have hfound : (document.faults.granted .getAttribute holders).filterMap
      (asked.binding? config) = marked.filter fun binding =>
        document.faults.worksAfter .getAttribute (holders.idxOf binding.trigger) :=
    document.filterMap_granted config document.faults
  rw [run_discover]
  simp only [run_bindAll]
  rw [hgranted, hfound]
  rfl

/-- Several trees with elements of HTML and of SVG, one of which was taken out again.  The second
element that is asked does not answer. -/
def desk : LiveDocument where
  tree :=
    let tree := (Markup.document [⟨"div", []⟩] "").tree
    let tree := tree.add (some 0) (.ofTag "a" false [("SHOWHIDE", "news")])
    let tree := tree.add (some 0) (.ofTag "svg" true [("showHide", "notes")])
    let tree := tree.add (some 2) (.ofTag "g" true [("SHOWHIDE", "charts")])
    let tree := tree.add (some 1) (.ofTag "b" false [("showHide", "drafts")])
    let tree := tree.add none (.ofTag "p" false [("showHide", "")])
    let tree := tree.add none (.ofTag "a" false [("showhide", "help")])
    tree.remove 4
  faults := fun call => if call = .getAttribute then some ⟨.null, 1, some 1⟩ else none

/-- On the desk three bindings are given by the tree, and two of them are found. -/
theorem discover_exact_desk :
    desk.marked {} = [⟨1, "news", "newsImg"⟩, ⟨2, "notes", "notesImg"⟩, ⟨6, "help", "helpImg"⟩] ∧
      ((discover {}).run desk).value = [⟨1, "news", "newsImg"⟩, ⟨6, "help", "helpImg"⟩] ∧
      ((discover {}).run desk).entries = [skippedLine {}] ∧
      ((discover {}).run desk).state.tree = desk.tree := by
  obtain ⟨-, -, -, -, -, -, hfound⟩ := discover_exact {} desk
  refine ⟨by decide +kernel, ?_⟩
  rw [hfound]
  decide +kernel

end LiveDocument

end Browser

end PageBehaviors
