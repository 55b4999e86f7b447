import Reshape.Number.Double

/-!
# Decimal quantities

A decimal quantity is a whole number scaled by a power of ten, with a sign. It is what a numeral
denotes and what the digits of a binary64 number are chosen from.

## Main definitions

* `Decimal`: `digits · 10 ^ exponent` with a sign
* `Decimal.nearest?`: the nearest binary64 number, `none` beyond the largest
* `Double.shortest`: the decimal quantity with the fewest digits that reads back as a number
-/

namespace Reshape

/-- **A decimal quantity**: `digits · 10 ^ exponent`, negated if `negative`. -/
structure Decimal where
  /-- Whether the sign is a minus. -/
  negative : Bool
  /-- The significant digits, as a whole number. -/
  digits : Nat
  /-- The power of ten that the digits are scaled by. -/
  exponent : Int
  deriving DecidableEq

namespace Decimal

/-- The decimal digits of a whole number. -/
def digitsOf (n : Nat) : List Char :=
  Nat.toDigits 10 n

/-- The whole number that a run of decimal digits denotes. -/
def ofDigits (digits : List Char) : Nat :=
  Nat.ofDigitChars 10 digits 0

/-- The magnitude as a quotient of whole numbers. -/
def magnitude (d : Decimal) : Nat × Nat :=
  if 0 ≤ d.exponent then (d.digits * Nat.pow 10 d.exponent.toNat, 1)
  else (d.digits, Nat.pow 10 (-d.exponent).toNat)

/-- **The nearest binary64 number**, `none` if it lies beyond the largest. The powers of ten are
not formed when the first digit's place alone decides: from `10 ^ 310` on no number is finite, and
below `10 ^ (-330)` the nearest one is zero. -/
def nearest? (d : Decimal) : Option Double :=
  if d.digits = 0 then some (Double.zero d.negative)
  else
    let place := (digitsOf d.digits).length + d.exponent
    if 310 < place then none
    else if place < -330 then some (Double.zero d.negative)
    else Double.nearest? d.negative d.magnitude.1 d.magnitude.2

end Decimal

namespace Double

/-- The magnitudes that round to a number, in quarters of its last binary place: from a half place
below it (a quarter, where the numbers below are twice as dense) to a half place above it, the ends
included if the mantissa is even. -/
structure Neighbourhood where
  /-- The lower end. -/
  low : Nat
  /-- The number itself. -/
  middle : Nat
  /-- The upper end. -/
  high : Nat
  /-- Whether the ends round to the number. -/
  closed : Bool

/-- The magnitudes that round to `x`. -/
def neighbourhood (x : Double) : Neighbourhood where
  low := 4 * x.mantissa - if x.mantissa = 0x10000000000000 ∧ -1074 < x.exponent then 1 else 2
  middle := 4 * x.mantissa
  high := 4 * x.mantissa + 2
  closed := x.mantissa % 2 = 0

/-- Whether the magnitude `num / den` lies in a neighbourhood. -/
def Neighbourhood.contains (hood : Neighbourhood) (num den : Nat) : Bool :=
  if hood.closed then hood.low * den ≤ num && num ≤ hood.high * den
  else hood.low * den < num && num < hood.high * den

/-- The step of the grid `10 ^ place` in units of `2 ^ exponent`, as a quotient. -/
def gridStep (place exponent : Int) : Nat × Nat :=
  (Nat.pow 10 place.toNat * Nat.pow 2 (-exponent).toNat,
    Nat.pow 10 (-place).toNat * Nat.pow 2 exponent.toNat)

/-- The multiple of the grid step `num / den` that is nearest to the middle of a neighbourhood, if
one of the two multiples next to it lies inside; of two equally near the even one. -/
def Neighbourhood.onGrid? (hood : Neighbourhood) (num den : Nat) : Option Nat :=
  let below := hood.middle * den / num
  let above := below + 1
  match hood.contains (below * num) den, hood.contains (above * num) den with
  | true, true =>
    let down := hood.middle * den - below * num
    let up := above * num - hood.middle * den
    some (if down < up then below else if up < down then above
      else if below % 2 = 0 then below else above)
  | true, false => some below
  | false, true => some above
  | false, false => none

/-- Searches the grids `10 ^ place`, `10 ^ (place - 1)`, … for the first with a point that reads
back as `x`; past the last grid the exact expansion remains. -/
def shortestFrom (x : Double) : Nat → Int → Decimal
  | 0, _ =>
    ⟨x.negative, x.mantissa * Nat.pow 2 x.exponent.toNat * Nat.pow 5 (-x.exponent).toNat,
      min 0 x.exponent⟩
  | grids + 1, place =>
    let step := gridStep place (x.exponent - 2)
    match x.neighbourhood.onGrid? step.1 step.2 with
    | some digits => ⟨x.negative, digits, place⟩
    | none => shortestFrom x grids (place - 1)

/-- **The shortest decimal** that reads back as `x`: on the coarsest grid of powers of ten that has
a point rounding to `x`, the point nearest to `x`. -/
def shortest (x : Double) : Decimal :=
  if x.mantissa = 0 then ⟨x.negative, 0, 0⟩
  else shortestFrom x 24 ((x.mantissa.log2 + 1 + x.exponent) * 30103 / 100000 + 2)

end Double

end Reshape
