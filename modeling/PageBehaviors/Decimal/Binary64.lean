/-!
# Double precision numbers, exactly

A finite double without its sign is a mantissa times a power of two.  Everything here is arithmetic
on natural numbers: a quotient is rounded to the nearest double, and where two doubles are equally
near, to the one with the even mantissa.

## Main definitions

* `Decimal.roundHalfEven` — the nearest natural number to a quotient.
* `Decimal.Binary64` — a finite double without its sign.
* `Decimal.Binary64.ofRatio` — the nearest double to a quotient.
* `Decimal.Binary64.ofDecimal` — a significand times a power of ten, rounded at every step.
-/

namespace PageBehaviors.Decimal

/-- The natural number nearest to `num / den`; of two equally near ones, the even one. -/
def roundHalfEven (num den : Nat) : Nat :=
  let below := num / den
  let twice := 2 * (num % den)
  if twice < den then below
  else if den < twice then below + 1
  else if below % 2 = 0 then below
  else below + 1

/-- The largest `e` with `2 ^ e ≤ num / den`, for positive `num` and `den`. -/
def floorLog2 (num den : Nat) : Int :=
  let guess : Int := (num.log2 : Int) - (den.log2 : Int)
  if den * Nat.pow 2 guess.toNat ≤ num * Nat.pow 2 (-guess).toNat then guess else guess - 1

/-- A finite double without its sign: `mantissa * 2 ^ exponent`.  The mantissa has at most 53 bits
and the exponent lies between -1074 and 971; the mantissa has all its 53 bits unless the exponent
is the least one. -/
structure Binary64 where
  mantissa : Nat
  exponent : Int
  deriving DecidableEq, Repr

namespace Binary64

/-- The least exponent of a double. -/
def leastExponent : Int := -1074

/-- The greatest exponent of a double. -/
def greatestExponent : Int := 971

/-- Zero. -/
def zero : Binary64 := ⟨0, leastExponent⟩

/-- The double nearest to `num / den`, and none where that lies beyond the largest one. -/
def ofRatio (num den : Nat) : Option Binary64 :=
  if num = 0 then
    some zero
  else
    let wanted := floorLog2 num den - 52
    let exponent := if wanted < leastExponent then leastExponent else wanted
    let mantissa :=
      roundHalfEven (num * Nat.pow 2 (-exponent).toNat) (den * Nat.pow 2 exponent.toNat)
    -- rounding up may give one bit too many
    let rounded : Binary64 :=
      if mantissa = Nat.pow 2 53 then ⟨Nat.pow 2 52, exponent + 1⟩ else ⟨mantissa, exponent⟩
    if rounded.exponent ≤ greatestExponent then some rounded else none

/-- The double nearest to `num / den` times a power of two. -/
def ofScaledRatio (num den : Nat) (exponent : Int) : Option Binary64 :=
  ofRatio (num * Nat.pow 2 exponent.toNat) (den * Nat.pow 2 (-exponent).toNat)

/-- The rounded product of two doubles. -/
def mul (x y : Binary64) : Option Binary64 :=
  ofScaledRatio (x.mantissa * y.mantissa) 1 (x.exponent + y.exponent)

/-- The rounded quotient of two doubles, the second one positive. -/
def div (x y : Binary64) : Option Binary64 :=
  ofScaledRatio x.mantissa y.mantissa (x.exponent - y.exponent)

/-- The double nearest to a power of ten. -/
def powerOfTen (exponent : Nat) : Option Binary64 :=
  ofRatio (Nat.pow 10 exponent) 1

/-- The largest power of ten that is a finite double. -/
def largestPower : Nat := 308

/-- A double times a power of ten, in steps that each round: one step if the power is a double
itself, else division by the largest power as often as the exponent lies below its opposite. -/
def scale (x : Binary64) (exponent : Int) : Option Binary64 :=
  if exponent.natAbs ≤ largestPower then
    (powerOfTen exponent.natAbs).bind fun power =>
      if 0 ≤ exponent then x.mul power else x.div power
  else if x.mantissa = 0 then
    some x
  else if 0 ≤ exponent then
    none
  else
    (powerOfTen largestPower).bind fun power =>
      (x.div power).bind fun quotient => quotient.scale (exponent + largestPower)
termination_by exponent.natAbs
decreasing_by
  simp only [largestPower] at *
  omega

/-- The double read for `significand * 10 ^ exponent`, and none where it is out of range. -/
def ofDecimal (significand : Nat) (exponent : Int) : Option Binary64 :=
  (ofRatio significand 1).bind fun whole => whole.scale exponent

end Binary64

end PageBehaviors.Decimal
