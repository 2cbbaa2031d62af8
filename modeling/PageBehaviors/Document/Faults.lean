/-!
# Calls that fail on schedule

To see what a page does when its document refuses a call, calls can be made to fail: the first few
of them work, the next few fail, and the later ones work again.  Each kind of call has a schedule of
its own, which advances with every call of that kind.

## Main definitions and statements

* `Outage` — when the calls of one kind fail, and how; `Outage.Fails` — which of them do.
* `Outage.failure?_after` — the calls that fail are those between two bounds.
* `Faults` — an outage for each kind of call.
* `Faults.strike` — what happens to the next call of a kind.
-/

namespace PageBehaviors

/-- When the calls of one kind fail, and with what. -/
structure Outage (ε : Type) where
  /-- What a failing call fails with. -/
  failure : ε
  /-- How many calls work before the first failing one. -/
  skip : Nat
  /-- How many calls fail then; none if they fail for ever. -/
  times : Option Nat
  deriving DecidableEq, Repr

namespace Outage

variable {ε : Type}

/-- What the next call fails with, if it fails. -/
def failure? (outage : Outage ε) : Option ε :=
  if outage.skip = 0 ∧ outage.times ≠ some 0 then some outage.failure else none

/-- The schedule after the next call. -/
def next (outage : Outage ε) : Outage ε :=
  if outage.skip = 0 then
    { outage with times := outage.times.map (· - 1) }
  else
    { outage with skip := outage.skip - 1 }

/-- The schedule after several calls. -/
def after (outage : Outage ε) : Nat → Outage ε
  | 0 => outage
  | calls + 1 => outage.next.after calls

/-- The call with a number, counted from zero, is one of those that fail: it comes after those that
work, and before those that work again. -/
def Fails (outage : Outage ε) (call : Nat) : Prop :=
  outage.skip ≤ call ∧ ∀ times ∈ outage.times, call < outage.skip + times

instance (outage : Outage ε) (call : Nat) : Decidable (outage.Fails call) :=
  inferInstanceAs (Decidable (_ ∧ _))

theorem fails_zero_iff (outage : Outage ε) :
    outage.Fails 0 ↔ outage.skip = 0 ∧ outage.times ≠ some 0 := by
  constructor
  · rintro ⟨hskip, htimes⟩
    refine ⟨Nat.le_zero.mp hskip, fun hzero => ?_⟩
    have hlt := htimes 0 hzero
    omega
  · rintro ⟨hskip, htimes⟩
    refine ⟨Nat.le_of_eq hskip, fun times hmem => ?_⟩
    have hne : times ≠ 0 := fun hzero => htimes (hzero ▸ hmem)
    omega

/-- A call makes the numbers of the calls after it smaller by one. -/
theorem fails_next_iff (outage : Outage ε) (call : Nat) :
    outage.next.Fails call ↔ outage.Fails (call + 1) := by
  by_cases hskip : outage.skip = 0
  · -- the call was one of those that fail, if there are any
    rw [next, if_pos hskip]
    constructor
    · rintro ⟨-, htimes⟩
      refine ⟨by omega, fun times hmem => ?_⟩
      have hlt : call < outage.skip + (times - 1) :=
        htimes (times - 1) (Option.mem_map_of_mem (· - 1) hmem)
      omega
    · rintro ⟨-, htimes⟩
      have hle : outage.skip ≤ call := by omega
      refine ⟨hle, fun rest hrest => ?_⟩
      obtain ⟨times, hmem, rfl⟩ := Option.map_eq_some_iff.mp hrest
      have hlt := htimes times hmem
      show call < outage.skip + (times - 1)
      omega
  · -- the call was one of those that work
    rw [next, if_neg hskip]
    constructor
    · rintro ⟨hle, htimes⟩
      have hle : outage.skip - 1 ≤ call := hle
      refine ⟨by omega, fun times hmem => ?_⟩
      have hlt : call < outage.skip - 1 + times := htimes times hmem
      omega
    · rintro ⟨hle, htimes⟩
      refine ⟨Nat.sub_le_of_le_add hle, fun times hmem => ?_⟩
      have hlt := htimes times hmem
      show call < outage.skip - 1 + times
      omega

theorem failure_next (outage : Outage ε) : outage.next.failure = outage.failure := by
  unfold next
  split
  · rfl
  · rfl

/-- **Which calls fail**: those from the number `skip` on, counted from zero, and only `times` of
them if that is bounded. -/
theorem failure?_after (outage : Outage ε) (calls : Nat) :
    (outage.after calls).failure? =
      if outage.Fails calls then some outage.failure else none := by
  induction calls generalizing outage with
  | zero => exact ite_congr (propext outage.fails_zero_iff.symm) (fun _ => rfl) fun _ => rfl
  | succ calls ih => simp only [after, ih, failure_next, fails_next_iff]

end Outage

/-- The schedules of all kinds of calls. -/
def Faults (κ ε : Type) : Type :=
  κ → Option (Outage ε)

namespace Faults

variable {κ ε : Type}

/-- Every call works. -/
def none : Faults κ ε := fun _ => Option.none

/-- What the next call of a kind fails with, if it fails. -/
def failure? (faults : Faults κ ε) (call : κ) : Option ε :=
  (faults call).bind Outage.failure?

@[simp] theorem failure?_none (call : κ) : (none : Faults κ ε).failure? call = Option.none := rfl

variable [DecidableEq κ]

/-- The schedules after a call of a kind: those of the other kinds stay as they are. -/
def next (faults : Faults κ ε) (call : κ) : Faults κ ε := fun other =>
  if other = call then (faults other).map Outage.next else faults other

@[simp] theorem next_none (call : κ) : (none : Faults κ ε).next call = none := by
  funext other
  by_cases h : other = call <;> simp [next, none, h]

@[simp] theorem next_self (faults : Faults κ ε) (call : κ) :
    faults.next call call = (faults call).map Outage.next := by
  simp [next]

theorem next_ne (faults : Faults κ ε) {call other : κ} (h : other ≠ call) :
    faults.next call other = faults other := by
  simp [next, h]

theorem failure?_next_ne (faults : Faults κ ε) {call other : κ} (h : other ≠ call) :
    (faults.next call).failure? other = faults.failure? other :=
  congrArg (Option.bind · Outage.failure?) (faults.next_ne h)

/-- Calls of two kinds count apart. -/
theorem next_comm (faults : Faults κ ε) (first second : κ) :
    (faults.next first).next second = (faults.next second).next first := by
  funext other
  unfold next
  split <;> split <;> rfl

end Faults

end PageBehaviors
