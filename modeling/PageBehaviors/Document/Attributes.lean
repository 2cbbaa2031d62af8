/-!
# Attributes of an element

An element has at most one value for each attribute name.  The attributes are kept in the order of
their names, so two elements have the same attributes exactly if the lists are equal.

## Main definitions and statements

* `Attributes` — names with their values, in the order of the names.
* `Attributes.get?`, `Attributes.set`, `Attributes.erase` — reading, writing, taking away.
* `Attributes.ext_get?` — attributes are what reading them gives.
-/

namespace PageBehaviors

namespace Attributes

/-- Write a value under a name into a list that is ordered by names. -/
def insertInto (name value : String) : List (String × String) → List (String × String)
  | [] => [(name, value)]
  | entry :: entries =>
    if name < entry.1 then (name, value) :: entry :: entries
    else if name = entry.1 then (name, value) :: entries
    else entry :: insertInto name value entries

theorem mem_insertInto {name value : String} {entry : String × String}
    {entries : List (String × String)} (h : entry ∈ insertInto name value entries) :
    entry = (name, value) ∨ entry ∈ entries := by
  induction entries with
  | nil => simpa [insertInto] using h
  | cons head tail ih => grind [insertInto]

/-- The names of a list of entries increase strictly. -/
def Ordered (entries : List (String × String)) : Prop :=
  entries.Pairwise fun first second => first.1 < second.1

theorem lt_of_not_lt_of_ne {a b : String} (hlt : ¬ a < b) (hne : a ≠ b) : b < a := by
  rcases Decidable.em (b < a) with h | h
  · exact h
  · exact absurd (String.le_antisymm (String.not_lt.mp h) (String.not_lt.mp hlt)) hne

theorem ordered_insertInto {name value : String} {entries : List (String × String)}
    (h : Ordered entries) : Ordered (insertInto name value entries) := by
  induction entries with
  | nil => simp [insertInto, Ordered]
  | cons head tail ih =>
    obtain ⟨below, rest⟩ := List.pairwise_cons.mp h
    unfold insertInto
    split
    · next hlt =>
      refine List.pairwise_cons.mpr ⟨fun entry hentry => ?_, h⟩
      rcases List.mem_cons.mp hentry with rfl | hentry
      · exact hlt
      · exact String.lt_trans hlt (below entry hentry)
    · next hlt =>
      split
      · next heq =>
        exact List.pairwise_cons.mpr ⟨fun entry hentry => heq ▸ below entry hentry, rest⟩
      · next hne =>
        refine List.pairwise_cons.mpr ⟨fun entry hentry => ?_, ih rest⟩
        rcases mem_insertInto hentry with rfl | hentry
        · exact lt_of_not_lt_of_ne hlt hne
        · exact below entry hentry

end Attributes

/-- The attributes of an element, in the order of their names. -/
structure Attributes where
  /-- The names with their values. -/
  entries : List (String × String)
  /-- The names increase. -/
  ordered : Attributes.Ordered entries

namespace Attributes

@[ext] theorem ext {first second : Attributes} (h : first.entries = second.entries) :
    first = second := by
  cases first
  cases second
  cases h
  rfl

instance : DecidableEq Attributes := fun first second =>
  decidable_of_iff (first.entries = second.entries) ⟨ext, fun h => h ▸ rfl⟩

/-- No attributes. -/
def empty : Attributes := ⟨[], List.Pairwise.nil⟩

/-- The value of an attribute. -/
def get? (attributes : Attributes) (name : String) : Option String :=
  attributes.entries.lookup name

/-- Write an attribute. -/
def set (attributes : Attributes) (name value : String) : Attributes :=
  ⟨insertInto name value attributes.entries, ordered_insertInto attributes.ordered⟩

/-- Take an attribute away. -/
def erase (attributes : Attributes) (name : String) : Attributes :=
  ⟨attributes.entries.filter fun entry => entry.1 != name, attributes.ordered.filter _⟩

/-- Write several attributes, one after the other. -/
def setAll (attributes : Attributes) (entries : List (String × String)) : Attributes :=
  entries.foldl (fun written entry => written.set entry.1 entry.2) attributes

/-! ### What reading gives -/

@[simp] theorem get?_empty (name : String) : empty.get? name = none := rfl

theorem lookup_insertInto (name value other : String) (entries : List (String × String)) :
    (insertInto name value entries).lookup other =
      if other = name then some value else entries.lookup other := by
  induction entries with
  | nil =>
    by_cases h : other = name
    · simp [insertInto, h]
    · simp [insertInto, List.lookup_cons, beq_eq_false_iff_ne.mpr h, h]
  | cons head tail ih =>
    obtain ⟨key, stored⟩ := head
    by_cases h : other = name
    · subst h
      unfold insertInto
      split
      · simp
      · next hlt =>
        split
        · simp
        · next hne => simpa [List.lookup_cons, beq_eq_false_iff_ne.mpr hne] using ih
    · simp only [h, if_false] at ih ⊢
      unfold insertInto
      split
      · simp [List.lookup_cons, beq_eq_false_iff_ne.mpr h]
      · split
        · next heq =>
          have hkey : other ≠ key := fun hother => h (hother.trans heq.symm)
          simp [List.lookup_cons, beq_eq_false_iff_ne.mpr h, beq_eq_false_iff_ne.mpr hkey]
        · rw [List.lookup_cons, List.lookup_cons, ih]

theorem get?_set (attributes : Attributes) (name value other : String) :
    (attributes.set name value).get? other =
      if other = name then some value else attributes.get? other :=
  lookup_insertInto ..

@[simp] theorem get?_set_self (attributes : Attributes) (name value : String) :
    (attributes.set name value).get? name = some value := by
  simp [get?_set]

theorem get?_set_ne (attributes : Attributes) {name other : String} (value : String)
    (h : other ≠ name) : (attributes.set name value).get? other = attributes.get? other := by
  simp [get?_set, h]

/-! ### Attributes that read alike -/

/-- A name that comes before all names of a list is not among them. -/
theorem lookup_eq_none_of_lt {name : String} {entries : List (String × String)}
    (h : ∀ entry ∈ entries, name < entry.1) : entries.lookup name = none := by
  refine List.lookup_eq_none_iff.mpr ?_
  intro entry hentry
  have hne : name ≠ entry.1 := fun heq => String.lt_irrefl entry.1 (heq ▸ h entry hentry)
  exact bne_iff_ne.mpr hne

/-- The first name of a list is found in no list whose names all come later. -/
theorem not_lt_of_lookup_cons {name value : String} {entries others : List (String × String)}
    {other : String × String} (ordered : Ordered (other :: others))
    (h : ((name, value) :: entries).lookup name = (other :: others).lookup name) :
    ¬ name < other.1 := by
  intro hlt
  have hnone : (other :: others).lookup name = none := by
    apply lookup_eq_none_of_lt
    intro entry hentry
    rcases List.mem_cons.mp hentry with rfl | hentry
    · exact hlt
    · exact String.lt_trans hlt ((List.pairwise_cons.mp ordered).1 entry hentry)
  rw [List.lookup_cons_self, hnone] at h
  cases h

/-- In the order of the names there is one list for what reading gives. -/
theorem eq_of_lookup_eq {first second : List (String × String)} (hfirst : Ordered first)
    (hsecond : Ordered second) (h : ∀ name, first.lookup name = second.lookup name) :
    first = second := by
  induction first generalizing second with
  | nil =>
      cases second with
      | nil => rfl
      | cons entry entries =>
          have hentry := h entry.1
          rw [List.lookup_cons_self] at hentry
          cases hentry
  | cons head tail ih =>
      cases second with
      | nil =>
          have hhead := h head.1
          rw [List.lookup_cons_self] at hhead
          cases hhead
      | cons entry entries =>
          obtain ⟨name, value⟩ := head
          obtain ⟨other, stored⟩ := entry
          have hname : name = other :=
            String.le_antisymm (String.not_lt.mp (not_lt_of_lookup_cons hfirst (h other).symm))
              (String.not_lt.mp (not_lt_of_lookup_cons hsecond (h name)))
          subst hname
          have hvalue := h name
          rw [List.lookup_cons_self, List.lookup_cons_self] at hvalue
          cases hvalue
          obtain ⟨hbelow, htail⟩ := List.pairwise_cons.mp hfirst
          obtain ⟨hbelow', hentries⟩ := List.pairwise_cons.mp hsecond
          congr 1
          refine ih htail hentries ?_
          intro wanted
          by_cases hwanted : wanted = name
          · rw [hwanted, lookup_eq_none_of_lt hbelow, lookup_eq_none_of_lt hbelow']
          · have hothers := h wanted
            rw [List.lookup_cons, List.lookup_cons, beq_eq_false_iff_ne.mpr hwanted] at hothers
            exact hothers

/-- **Attributes are what reading them gives.** -/
theorem ext_get? {first second : Attributes} (h : ∀ name, first.get? name = second.get? name) :
    first = second :=
  ext (eq_of_lookup_eq first.ordered second.ordered h)

/-- The last value that is written counts. -/
theorem set_set (attributes : Attributes) (name value other : String) :
    (attributes.set name value).set name other = attributes.set name other := by
  apply ext_get?
  intro wanted
  rw [get?_set, get?_set, get?_set]
  split
  · rfl
  · rfl

/-- Attributes of different names can be written in any order. -/
theorem set_comm (attributes : Attributes) {name other : String} (h : name ≠ other)
    (value text : String) :
    (attributes.set name value).set other text = (attributes.set other text).set name value := by
  apply ext_get?
  intro wanted
  simp only [get?_set]
  split
  · next hother =>
      subst hother
      rw [if_neg (Ne.symm h)]
  · rfl

/-- Writing changes nothing exactly if the value is there already. -/
theorem set_eq_self_iff (attributes : Attributes) (name value : String) :
    attributes.set name value = attributes ↔ attributes.get? name = some value := by
  constructor
  · intro h
    rw [← h]
    exact get?_set_self attributes name value
  · intro h
    apply ext_get?
    intro wanted
    rw [get?_set]
    split
    · next heq => rw [heq, h]
    · rfl

end Attributes

end PageBehaviors
