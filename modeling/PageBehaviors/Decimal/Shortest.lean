import PageBehaviors.Decimal.Binary64

/-!
# The fewest digits that read back

Among the decimals that round to a given double, the ones with the fewest digits are chosen, and
among these the one nearest to the double.  The decimals that round to `m * 2 ^ q` form an interval
around it whose ends lie halfway to its two neighbours; the ends belong to it exactly if `m` is
even.

## Main definitions

* `Decimal.Digits` — digits and the power of ten of the first one.
* `Decimal.shortest` — the fewest digits that read back as a given double.
* `Decimal.Layout` — where positional notation ends.
* `Decimal.Layout.write` — the text of a double.
-/

namespace PageBehaviors.Decimal

/-- A decimal `d₁.d₂d₃… * 10 ^ exponent`, without zeros at its end. -/
structure Digits where
  digits : List Char
  exponent : Int
  deriving DecidableEq, Repr

/-- The decimal `coefficient * 10 ^ unit`, with the zeros at its end dropped. -/
def Digits.ofCoefficient (coefficient : Nat) (unit : Int) : Digits :=
  let all := Nat.toDigits 10 coefficient
  let trimmed := (all.reverse.dropWhile (· == '0')).reverse
  ⟨if trimmed = [] then ['0'] else trimmed, unit + (all.length - 1)⟩

namespace Binary64

/-- The numerator of `x / 10 ^ unit` over the denominator `cellDenominator x unit`, where quarters
of the last binary place are counted so that the ends of the interval are whole numbers too. -/
def cellNumerator (x : Binary64) (unit : Int) (quarters : Nat) : Nat :=
  quarters * Nat.pow 2 x.exponent.toNat * Nat.pow 10 (-unit).toNat

/-- The denominator that goes with `cellNumerator`. -/
def cellDenominator (x : Binary64) (unit : Int) : Nat :=
  4 * Nat.pow 2 (-x.exponent).toNat * Nat.pow 10 unit.toNat

/-- The quarters of the last binary place at which the interval of `x` begins: half a place below,
or a quarter where the neighbour below has the finer grid. -/
def lowerQuarters (x : Binary64) : Nat :=
  if x.mantissa = Nat.pow 2 52 ∧ leastExponent < x.exponent then 4 * x.mantissa - 1
  else 4 * x.mantissa - 2

/-- The quarters at which the interval of `x` ends. -/
def upperQuarters (x : Binary64) : Nat :=
  4 * x.mantissa + 2

/-- Whether the decimal `coefficient * 10 ^ unit` rounds to `x`. -/
def readsBack (x : Binary64) (coefficient : Nat) (unit : Int) : Bool :=
  let point := coefficient * x.cellDenominator unit
  let lower := x.cellNumerator unit x.lowerQuarters
  let upper := x.cellNumerator unit x.upperQuarters
  if x.mantissa % 2 = 0 then decide (lower ≤ point ∧ point ≤ upper)
  else decide (lower < point ∧ point < upper)

/-- The multiple of `10 ^ unit` nearest to `x`, among its two neighbours on that grid, that reads
back as `x`, if one does; an exact tie goes to the even one. -/
def onGrid (x : Binary64) (unit : Int) : Option Nat :=
  let value := x.cellNumerator unit (4 * x.mantissa)
  let below := value / x.cellDenominator unit
  let nearest := roundHalfEven value (x.cellDenominator unit)
  let other := if nearest = below then below + 1 else below
  if x.readsBack nearest unit then some nearest
  else if x.readsBack other unit then some other
  else none

/-- The power of ten of the first digit of a positive `x`.  The least positive double is far above
`10 ^ -340`. -/
def firstPlace (x : Binary64) : Int :=
  let value := x.cellNumerator (-340) (4 * x.mantissa) / x.cellDenominator (-340)
  ((Nat.toDigits 10 value).length : Int) - 341

end Binary64

/-- The decimal with the fewest digits that reads back as `x`, the nearest one of these. -/
def shortest (x : Binary64) : Digits :=
  if x.mantissa = 0 then
    ⟨['0'], 0⟩
  else
    let first := x.firstPlace
    let found := (List.range 17).findSome? fun (more : Nat) =>
      (x.onGrid (first - more)).map fun coefficient =>
        Digits.ofCoefficient coefficient (first - more)
    found.getD ⟨['0'], 0⟩

/-- Which powers of ten of the first digit are written positionally. -/
structure Layout where
  /-- The least power written positionally. -/
  least : Int
  /-- The least power above it that is not. -/
  bound : Int
  deriving DecidableEq, Repr

namespace Layout

/-- The given number of zeros. -/
def zeros (count : Int) : List Char :=
  List.replicate count.toNat '0'

/-- Positional notation: always a point, and a digit on either side of it. -/
def positional (d : Digits) : List Char :=
  if d.exponent < 0 then
    ['0', '.'] ++ zeros (-d.exponent - 1) ++ d.digits
  else
    let whole := d.digits.take (d.exponent.toNat + 1)
    let fraction := d.digits.drop (d.exponent.toNat + 1)
    whole ++ zeros (d.exponent + 1 - d.digits.length) ++ ['.'] ++
      if fraction = [] then ['0'] else fraction

/-- Scientific notation: a point only before further digits, and always a sign of the exponent. -/
def scientific (d : Digits) : List Char :=
  let fraction := d.digits.drop 1
  d.digits.take 1 ++ (if fraction = [] then [] else '.' :: fraction) ++
    ['e', if d.exponent < 0 then '-' else '+'] ++ Nat.toDigits 10 d.exponent.natAbs

/-- The text of a double, given by its sign and its size. -/
def write (layout : Layout) (negative : Bool) (x : Binary64) : String :=
  let d := shortest x
  let sign := if negative then ['-'] else []
  String.ofList <| sign ++
    if layout.least ≤ d.exponent ∧ d.exponent < layout.bound then positional d else scientific d

end Layout

end PageBehaviors.Decimal
