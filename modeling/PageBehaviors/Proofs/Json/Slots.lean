import Mathlib.Data.List.Nodup
import PageBehaviors.Proofs.Json.Grammar

/-!
# The record that a value stands for

A record may be given as an object, by the names of its fields, or as an array, by their order.
The members of an object come in any order, so they are stored one after the other as they are
met.  As long as the fields change different parts of the record, all that matters in the end is
which value each field is given: `storeMembers_eq` turns the order of the members into the order of
the fields, and does the same for arrays as `storeElements_eq`.

## Main definitions and statements

* `Json.Value.given?`, `Json.Value.IsRecord` — what a value gives for a field; values that give
  records.
* `Json.Slot`, `Json.Independent` — a field and what a value for it changes; fields that change
  different parts.
* `Json.fill`, `Json.recordOf` — a record with what is given for its fields.
* `Json.storeMembers_eq`, `Json.storeElements_eq` — members and elements stored in turn.
-/

namespace PageBehaviors.Json

namespace Value

/-- The characters of a string. -/
def text? : Value → Option String
  | string s => some s
  | _ => none

/-- The truth value of a boolean. -/
def boolean? : Value → Option Bool
  | boolean b => some b
  | _ => none

/-- What a value gives for a field of a record: the member of that name in an object, the element
at the place of the field in an array. -/
def given? (fields : List String) (name : String) : Value → Option Value
  | object members => members.lookup name
  | array elements => elements[fields.idxOf name]?
  | _ => none

/-- The values that give a record with the given fields: objects that name no field twice, and
arrays that are not longer than the list of fields. -/
def IsRecord (fields : List String) : Value → Prop
  | object members => ∀ name ∈ fields, (members.map Prod.fst).count name ≤ 1
  | array elements => elements.length ≤ fields.length
  | _ => False

instance (fields : List String) (value : Value) : Decidable (value.IsRecord fields) :=
  match value with
  | object members =>
      inferInstanceAs (Decidable (∀ name ∈ fields, (members.map Prod.fst).count name ≤ 1))
  | array elements => inferInstanceAs (Decidable (elements.length ≤ fields.length))
  | null | boolean _ | number _ | string _ => inferInstanceAs (Decidable False)

/-- An object of distinct members gives any record. -/
theorem isRecord_of_nodup {fields : List String} {members : List (String × Value)}
    (h : (members.map Prod.fst).Nodup) : (object members).IsRecord fields :=
  fun name _ => List.nodup_iff_count_le_one.mp h name

end Value

variable {R : Type}

/-- A field of a record, with the change of the record that a value for it stands for. -/
structure Slot (R : Type) where
  name : String
  update? : Value → Option (R → R)

namespace Slot

/-- A field that holds a value of some type. -/
def typed {α : Type} (name : String) (type : Value → Option α) (put : α → R → R) : Slot R where
  name := name
  update? value := (type value).map put

/-- The record after a field has been given a value, or nothing. -/
def store (slot : Slot R) (record : R) : Option Value → Option R
  | none => some record
  | some value => (slot.update? value).map fun update => update record

/-- Two fields of different names, which change different parts of the record. -/
def Apart (first second : Slot R) : Prop :=
  first.name ≠ second.name ∧
    ∀ {value value' update update'}, first.update? value = some update →
      second.update? value' = some update' →
      ∀ record, update (update' record) = update' (update record)

theorem apart_typed {α β : Type} {name name' : String} {type : Value → Option α}
    {type' : Value → Option β} {put : α → R → R} {put' : β → R → R} (hname : name ≠ name')
    (hput : ∀ a b record, put a (put' b record) = put' b (put a record)) :
    (typed name type put).Apart (typed name' type' put') := by
  refine ⟨hname, ?_⟩
  intro value value' update update' h h' record
  obtain ⟨a, -, rfl⟩ := Option.map_eq_some_iff.mp h
  obtain ⟨b, -, rfl⟩ := Option.map_eq_some_iff.mp h'
  exact hput a b record

end Slot

/-- Fields that change different parts of a record. -/
def Independent (slots : List (Slot R)) : Prop :=
  slots.Pairwise Slot.Apart

/-- The names of fields, in their order. -/
def names (slots : List (Slot R)) : List String :=
  slots.map Slot.name

/-- The record with what is given for each of its fields, in their order. -/
def fill (given : String → Option Value) : List (Slot R) → R → Option R
  | [], record => some record
  | slot :: slots, record => (slot.store record (given slot.name)).bind (fill given slots)

/-- The record that a value stands for, where fields that are left out keep their value in
`initial`. -/
def recordOf (slots : List (Slot R)) (initial : R) (value : Value) : Option R :=
  if value.IsRecord (names slots) then fill (value.given? (names slots)) slots initial else none

/-- The value of a field of a record: what is given for it, if that is of the right type, or else
its value in a record that gives nothing. -/
def Value.field? {α : Type} (fields : List String) (name : String) (type : Value → Option α)
    (initial : α) (value : Value) : Option α :=
  match value.given? fields name with
  | none => some initial
  | some given => type given

/-- A field is filled in with its value; to put in the value that it has changes nothing. -/
theorem fill_typed {α : Type} {fields : List String} {value : Value} {name : String}
    {type : Value → Option α} {put : α → R → R} {slots : List (Slot R)} {record : R} {initial : α}
    (h : put initial record = record) :
    fill (value.given? fields) (.typed name type put :: slots) record =
      (value.field? fields name type initial).bind fun content =>
        fill (value.given? fields) slots (put content record) := by
  rw [fill, Value.field?]
  show ((Slot.typed name type put).store record (value.given? fields name)).bind _ = _
  cases value.given? fields name with
  | none => simp [Slot.store, h]
  | some given => cases htype : type given <;> simp [Slot.store, Slot.typed, htype]

/-! ### Filling in one more field -/

section

variable {given given' : String → Option Value} {slots : List (Slot R)} {slot : Slot R}
  {record : R} {value : Value}

theorem fill_congr (h : ∀ name ∈ names slots, given name = given' name) :
    fill given slots record = fill given' slots record := by
  induction slots generalizing record with
  | nil => rfl
  | cons slot slots ih =>
      obtain ⟨hslot, hslots⟩ := List.forall_mem_cons.mp h
      simp only [fill, hslot]
      congr 1
      exact funext fun _ => ih hslots

theorem fill_of_none (h : ∀ name ∈ names slots, given name = none) :
    fill given slots record = some record := by
  induction slots generalizing record with
  | nil => rfl
  | cons slot slots ih =>
      obtain ⟨hslot, hslots⟩ := List.forall_mem_cons.mp h
      simp only [fill, hslot, Slot.store, Option.bind_some]
      exact ih hslots

/-- A field that is given a value of the wrong type spoils the record. -/
theorem fill_eq_none (hmem : slot ∈ slots) (hgiven : given slot.name = some value)
    (h : slot.update? value = none) : fill given slots record = none := by
  induction slots generalizing record with
  | nil => cases hmem
  | cons head slots ih =>
      rcases List.mem_cons.mp hmem with rfl | hmem
      · simp [fill, hgiven, Slot.store, h]
      · simp only [fill, Option.bind_eq_none_iff]
        exact fun record _ => ih hmem

/-- A field that has not been given a value may be given one first. -/
theorem fill_update (independent : Independent slots) (hmem : slot ∈ slots)
    {update : R → R} (h : slot.update? value = some update) (hgiven : given slot.name = none) :
    fill (fun name => if name = slot.name then some value else given name) slots record =
      fill given slots (update record) := by
  induction slots generalizing record with
  | nil => cases hmem
  | cons head slots ih =>
      obtain ⟨happart, hslots⟩ := List.pairwise_cons.mp independent
      rcases List.mem_cons.mp hmem with rfl | hmem
      · simp only [fill, if_true, hgiven, Slot.store, h, Option.map_some, Option.bind_some]
        refine fill_congr fun name hname => ?_
        obtain ⟨other, hother, rfl⟩ := List.mem_map.mp hname
        exact if_neg (happart other hother).1.symm
      · obtain ⟨hname, hcomm⟩ := happart slot hmem
        simp only [fill, if_neg hname]
        cases hhead : given head.name with
        | none => exact ih hslots hmem
        | some first =>
            cases hfirst : head.update? first with
            | none => simp [Slot.store, hfirst]
            | some change =>
                simp only [Slot.store, hfirst, Option.map_some, Option.bind_some]
                rw [ih hslots hmem, hcomm hfirst h]

end

/-! ### Members of an object -/

/-- Store members in a record, in their order.  A known name must not be among `seen`, the names
given so far. -/
def storeMembers (slots : List (Slot R)) : List String → List (String × Value) → R → Option R
  | _, [], record => some record
  | seen, (name, value) :: members, record =>
    match slots.find? fun slot => slot.name == name with
    | none => storeMembers slots (name :: seen) members record
    | some slot =>
      if name ∈ seen then none
      else (slot.store record (some value)).bind (storeMembers slots (name :: seen) members)

/-- The members give no field twice, nor one that has been seen. -/
def Fresh (fields seen : List String) (members : List (String × Value)) : Prop :=
  ∀ name ∈ fields, (members.map Prod.fst).count name ≤ if name ∈ seen then 0 else 1

instance (fields seen : List String) (members : List (String × Value)) :
    Decidable (Fresh fields seen members) :=
  inferInstanceAs (Decidable (∀ name ∈ fields, _))

section

variable {fields seen : List String} {name : String} {value : Value}
  {members : List (String × Value)}

theorem fresh_cons (h : name ∈ fields → name ∉ seen) :
    Fresh fields seen ((name, value) :: members) ↔ Fresh fields (name :: seen) members := by
  refine forall₂_congr fun other hother => ?_
  rw [List.map_cons, List.count_cons]
  by_cases heq : name = other
  · subst heq
    simp [h hother]
  · simp [heq, Ne.symm heq]

theorem not_fresh_cons (hname : name ∈ fields) (hseen : name ∈ seen) :
    ¬ Fresh fields seen ((name, value) :: members) := by
  intro fresh
  have hcount := fresh name hname
  simp [hseen] at hcount

theorem Fresh.lookup_eq_none (h : Fresh fields (name :: seen) members) (hname : name ∈ fields) :
    members.lookup name = none := by
  have hcount := h name hname
  rw [if_pos List.mem_cons_self, Nat.le_zero, List.count_eq_zero] at hcount
  rw [List.lookup_eq_none_iff]
  intro member hmember
  rw [bne_iff_ne]
  rintro rfl
  exact hcount (List.mem_map_of_mem hmember)

end

theorem lookup_cons_eq (name : String) (value : Value) (members : List (String × Value)) :
    (fun key => ((name, value) :: members).lookup key) =
      fun key => if key = name then some value else members.lookup key := by
  funext key
  by_cases h : key = name
  · simp [h]
  · simp [List.lookup_cons, h, beq_eq_false_iff_ne.mpr h]

/-- **Storing members** in their order is the same as filling in the fields in theirs. -/
theorem storeMembers_eq {slots : List (Slot R)} (independent : Independent slots)
    (seen : List String) (members : List (String × Value)) (record : R) :
    storeMembers slots seen members record =
      if Fresh (names slots) seen members then fill (fun name => members.lookup name) slots record
      else none := by
  induction members generalizing seen record with
  | nil =>
      have fresh : Fresh (names slots) seen [] := fun name _ => by simp
      have hfill : fill (fun name => ([] : List (String × Value)).lookup name) slots record =
          some record := fill_of_none fun name _ => rfl
      rw [if_pos fresh, hfill, storeMembers]
  | cons member members ih =>
      obtain ⟨name, value⟩ := member
      rw [storeMembers, lookup_cons_eq]
      cases hfind : slots.find? fun slot => slot.name == name with
      | none =>
          have hunknown : ∀ other ∈ names slots, other ≠ name := by
            intro other hother
            obtain ⟨slot, hslot, rfl⟩ := List.mem_map.mp hother
            simpa using List.find?_eq_none.mp hfind slot hslot
          have hfill : fill (fun key => if key = name then some value else members.lookup key)
              slots record = fill (fun key => members.lookup key) slots record :=
            fill_congr fun other hother => if_neg (hunknown other hother)
          simp only [hfill, fresh_cons fun hname => absurd rfl (hunknown name hname), ih]
      | some slot =>
          have hslot := List.mem_of_find?_eq_some hfind
          obtain rfl : slot.name = name := by simpa using List.find?_some hfind
          have hname : slot.name ∈ names slots := List.mem_map_of_mem hslot
          by_cases hseen : slot.name ∈ seen
          · simp only [if_pos hseen, if_neg (not_fresh_cons hname hseen)]
          · simp only [if_neg hseen, fresh_cons fun _ => hseen]
            cases hupdate : slot.update? value with
            | none =>
                rw [fill_eq_none hslot (if_pos rfl) hupdate, ite_self, Slot.store, hupdate]
                rfl
            | some update =>
                simp only [Slot.store, hupdate, Option.map_some, Option.bind_some, ih]
                by_cases fresh : Fresh (names slots) (slot.name :: seen) members
                · rw [if_pos fresh, if_pos fresh,
                    fill_update independent hslot hupdate (fresh.lookup_eq_none hname)]
                · rw [if_neg fresh, if_neg fresh]

/-! ### Elements of an array -/

/-- Store elements in the fields of a record, in the order of both. -/
def storeElements : List (Slot R) → List Value → R → Option R
  | _, [], record => some record
  | [], _ :: _, _ => none
  | slot :: slots, value :: elements, record =>
    (slot.store record (some value)).bind (storeElements slots elements)

/-- **Storing elements** fills in the fields at their places, and fails if there are too many. -/
theorem storeElements_eq {slots : List (Slot R)} (independent : Independent slots)
    (elements : List Value) (record : R) :
    storeElements slots elements record =
      if elements.length ≤ slots.length then
        fill (fun name => elements[(names slots).idxOf name]?) slots record
      else none := by
  induction slots generalizing elements record with
  | nil =>
      cases elements with
      | nil => rfl
      | cons value elements => rfl
  | cons slot slots ih =>
      obtain ⟨happart, hslots⟩ := List.pairwise_cons.mp independent
      cases elements with
      | nil =>
          have hfill : fill (fun name => ([] : List Value)[(names (slot :: slots)).idxOf name]?)
              (slot :: slots) record = some record := fill_of_none fun name _ => rfl
          rw [hfill, storeElements, List.length_nil, if_pos (Nat.zero_le _)]
      | cons value elements =>
          have hhead : (value :: elements)[(names (slot :: slots)).idxOf slot.name]? =
              some value := by
            rw [names, List.map_cons, List.idxOf_cons_self, List.getElem?_cons_zero]
          have htail : ∀ name ∈ names slots,
              (value :: elements)[(names (slot :: slots)).idxOf name]? =
                elements[(names slots).idxOf name]? := by
            intro name hname
            obtain ⟨other, hother, rfl⟩ := List.mem_map.mp hname
            rw [names, List.map_cons, List.idxOf_cons_ne _ (happart other hother).1]
            rfl
          rw [storeElements, fill, hhead, List.length_cons, List.length_cons]
          cases hstore : slot.store record (some value) with
          | none => simp
          | some record =>
              simp only [Option.bind_some, fill_congr htail, ih hslots, Nat.add_le_add_iff_right]

/-! ### Records -/

section

variable {slots : List (Slot R)} (independent : Independent slots) (initial : R)

include independent

theorem recordOf_object (members : List (String × Value)) :
    recordOf slots initial (.object members) = storeMembers slots [] members initial := by
  rw [storeMembers_eq independent, recordOf]
  refine if_congr (forall₂_congr fun name _ => ?_) rfl rfl
  rw [if_neg List.not_mem_nil]

theorem recordOf_array (elements : List Value) :
    recordOf slots initial (.array elements) = storeElements slots elements initial := by
  rw [storeElements_eq independent, recordOf]
  refine if_congr ?_ rfl rfl
  rw [Value.IsRecord, names, List.length_map]

end

end PageBehaviors.Json
