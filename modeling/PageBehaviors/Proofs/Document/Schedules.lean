import Mathlib.Data.List.Nodup
import PageBehaviors.Document.Faults

/-!
# Calls of one kind, one after the other

When one call of a kind is made for each element of a list, the schedule tells in advance for which
elements it works: the position of an element is the number of calls that were made before.

## Main definitions and statements

* `Faults.after` — the schedules after several calls of one kind.
* `Faults.failureAfter?`, `Faults.worksAfter` — what a call fails with; whether it works.
* `Faults.failureAfter?_eq_some_iff` — which calls fail, told from the outage of their kind.
* `Faults.granted`, `Faults.refused` — the elements whose calls work; those whose calls fail.
* `Faults.granted_cons`, `Faults.refused_cons` — the first call, and the others after it.
* `Faults.granted_eq_filter` — in a list without repetitions, an element stands for its position.
-/

namespace PageBehaviors

namespace Faults

variable {κ ε α : Type}

/-- The schedules after several calls of one kind. -/
def after [DecidableEq κ] (faults : Faults κ ε) (call : κ) : Nat → Faults κ ε
  | 0 => faults
  | calls + 1 => (faults.next call).after call calls

/-- What the call of a kind fails with, if it fails, that comes after a number of calls of that
kind. -/
def failureAfter? (faults : Faults κ ε) (call : κ) (calls : Nat) : Option ε :=
  (faults call).bind fun outage => (outage.after calls).failure?

/-- Whether the call of a kind works that comes after a number of calls of that kind. -/
def worksAfter (faults : Faults κ ε) (call : κ) (calls : Nat) : Bool :=
  (faults.failureAfter? call calls).isNone

/-- The elements of a list whose calls work, if there is one call of the kind for each. -/
def granted (faults : Faults κ ε) (call : κ) (elements : List α) : List α :=
  (elements.zipIdx.filter fun entry => faults.worksAfter call entry.2).map Prod.fst

/-- The elements of a list whose calls fail, each with its failure, if there is one call of the kind
for each. -/
def refused (faults : Faults κ ε) (call : κ) (elements : List α) : List (α × ε) :=
  elements.zipIdx.filterMap fun entry =>
    (faults.failureAfter? call entry.2).map (Prod.mk entry.1)

variable (faults : Faults κ ε)

theorem failureAfter?_zero (call : κ) : faults.failureAfter? call 0 = faults.failure? call := rfl

theorem worksAfter_zero (call : κ) :
    faults.worksAfter call 0 = (faults.failure? call).isNone := rfl

/-- **Which calls fail**: those that are among the failing ones of the outage of their kind. -/
theorem failureAfter?_eq_some_iff (call : κ) (calls : Nat) (failure : ε) :
    faults.failureAfter? call calls = some failure ↔
      ∃ outage, faults call = some outage ∧ outage.Fails calls ∧ outage.failure = failure := by
  rw [failureAfter?, Option.bind_eq_some_iff]
  refine exists_congr fun outage => and_congr_right fun _ => ?_
  rw [Outage.failure?_after, Option.ite_none_right_eq_some, Option.some_inj]

theorem granted_sublist (call : κ) (elements : List α) :
    (faults.granted call elements).Sublist elements := by
  have hsublist := (List.filter_sublist (l := elements.zipIdx)
    (p := fun entry => faults.worksAfter call entry.2)).map Prod.fst
  rwa [List.zipIdx_map_fst] at hsublist

/-- Where the elements tell their positions, those whose calls work can be selected. -/
theorem granted_eq_filter_of_position (call : κ) {elements : List α} {position : α → Nat}
    (h : ∀ index element, elements[index]? = some element → position element = index) :
    faults.granted call elements =
      elements.filter fun element => faults.worksAfter call (position element) := by
  have hpositions : (elements.zipIdx.filter fun entry => faults.worksAfter call entry.2) =
      elements.zipIdx.filter fun entry => faults.worksAfter call (position entry.1) := by
    refine List.filter_congr ?_
    intro entry hentry
    rw [h entry.2 entry.1 (List.mem_zipIdx_iff_getElem?.mp hentry)]
  have hmap := List.filter_map (f := Prod.fst) (l := elements.zipIdx)
    (p := fun element => faults.worksAfter call (position element))
  rw [List.zipIdx_map_fst] at hmap
  rw [granted, hpositions, hmap]
  rfl

/-- In a list without repetitions, an element stands for its position. -/
theorem granted_eq_filter [DecidableEq α] (call : κ) {elements : List α} (nodup : elements.Nodup) :
    faults.granted call elements =
      elements.filter fun element => faults.worksAfter call (elements.idxOf element) := by
  apply faults.granted_eq_filter_of_position call
  intro index element helement
  obtain ⟨hlt, hget⟩ := List.getElem?_eq_some_iff.mp helement
  rw [← hget, nodup.idxOf_getElem]

/-- Elements that come with their positions. -/
theorem granted_zipIdx (call : κ) (elements : List α) :
    faults.granted call elements.zipIdx =
      elements.zipIdx.filter fun entry => faults.worksAfter call entry.2 := by
  apply faults.granted_eq_filter_of_position call
  intro index entry hentry
  rw [List.getElem?_zipIdx, Option.map_eq_some_iff] at hentry
  obtain ⟨element, -, rfl⟩ := hentry
  exact Nat.zero_add index

/-- Only the schedule of the kind counts. -/
theorem granted_congr {faults other : Faults κ ε} {call : κ} (h : faults call = other call)
    (elements : List α) : faults.granted call elements = other.granted call elements := by
  simp only [granted, worksAfter, failureAfter?, h]

theorem refused_congr {faults other : Faults κ ε} {call : κ} (h : faults call = other call)
    (elements : List α) : faults.refused call elements = other.refused call elements := by
  simp only [refused, failureAfter?, h]

variable [DecidableEq κ]

theorem after_none (call : κ) (calls : Nat) : (none : Faults κ ε).after call calls = none := by
  induction calls with
  | zero => rfl
  | succ calls ih => rw [after, next_none, ih]

theorem failureAfter?_next (call : κ) (calls : Nat) :
    (faults.next call).failureAfter? call calls = faults.failureAfter? call (calls + 1) := by
  rw [failureAfter?, failureAfter?, next_self, Option.bind_map]
  rfl

theorem worksAfter_next (call : κ) (calls : Nat) :
    (faults.next call).worksAfter call calls = faults.worksAfter call (calls + 1) := by
  rw [worksAfter, worksAfter, failureAfter?_next]

/-- The first call, and the others after it. -/
theorem granted_cons (call : κ) (element : α) (elements : List α) :
    faults.granted call (element :: elements) =
      (if (faults.failure? call).isNone then [element] else []) ++
        (faults.next call).granted call elements := by
  have hothers : ((elements.zipIdx 1).filter fun entry => faults.worksAfter call entry.2).map
      Prod.fst = (faults.next call).granted call elements := by
    rw [granted, List.zipIdx_succ, List.filter_map, List.map_map]
    simp only [worksAfter_next]
    rfl
  rw [granted, List.zipIdx_cons, List.filter_cons, worksAfter_zero]
  cases (faults.failure? call).isNone with
  | true => simpa using hothers
  | false => simpa using hothers

theorem refused_cons (call : κ) (element : α) (elements : List α) :
    faults.refused call (element :: elements) =
      (faults.failure? call).toList.map (Prod.mk element) ++
        (faults.next call).refused call elements := by
  have hothers : (elements.zipIdx 1).filterMap (fun entry =>
      (faults.failureAfter? call entry.2).map (Prod.mk entry.1)) =
        (faults.next call).refused call elements := by
    rw [refused, List.zipIdx_succ, List.filterMap_map]
    simp only [failureAfter?_next]
    rfl
  rw [refused, List.zipIdx_cons, List.filterMap_cons, failureAfter?_zero, hothers]
  cases faults.failure? call with
  | none => rfl
  | some failure => rfl

/-- What is asked for does not matter. -/
theorem refused_map {β : Type} (f : α → β) (call : κ) (elements : List α) :
    faults.refused call (elements.map f) =
      (faults.refused call elements).map (Prod.map f id) := by
  induction elements generalizing faults with
  | nil => rfl
  | cons element elements ih =>
      rw [List.map_cons, refused_cons, refused_cons, ih, List.map_append]
      cases faults.failure? call with
      | none => rfl
      | some failure => rfl

/-- Every call works or fails. -/
theorem length_granted_add_length_refused (call : κ) (elements : List α) :
    (faults.granted call elements).length + (faults.refused call elements).length =
      elements.length := by
  induction elements generalizing faults with
  | nil => rfl
  | cons element elements ih =>
      have hrest := ih (faults.next call)
      rw [granted_cons, refused_cons, List.length_append, List.length_append, List.length_cons]
      cases faults.failure? call with
      | none => simp; omega
      | some failure => simp; omega

/-- Calls of another kind make no difference. -/
theorem granted_next_ne {call other : κ} (h : call ≠ other) (elements : List α) :
    (faults.next other).granted call elements = faults.granted call elements :=
  granted_congr (faults.next_ne h) elements

end Faults

end PageBehaviors
