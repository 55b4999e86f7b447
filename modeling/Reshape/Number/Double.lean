/-!
# Binary64 numbers

A finite binary64 number as a sign, a mantissa and a binary exponent, and the rounding that turns
an exact quotient into one. All arithmetic is exact on natural numbers and integers, so that what a
number stands for can be reasoned about; infinities and not-a-number have no value here, and an
operation that would overflow answers `none`.

## Main definitions

* `Double`: the finite binary64 numbers, both zeros among them
* `Double.nearest?`: the binary64 number nearest to a quotient, ties to even
* `Double.ofInt?`, `Double.neg`, `Double.addInt?`: conversion and arithmetic
-/

namespace Reshape

/-- The mantissas and exponents of binary64 numbers, one pair for each magnitude: at most 53 bits,
and all 53 in use unless the exponent is the least one. The two bounds of the mantissa are the
powers of two of 53 and 52. -/
def Double.Canonical (mantissa : Nat) (exponent : Int) : Prop :=
  mantissa < 0x20000000000000 ∧ -1074 ≤ exponent ∧ exponent ≤ 971 ∧
    (exponent = -1074 ∨ 0x10000000000000 ≤ mantissa)

instance (mantissa : Nat) (exponent : Int) : Decidable (Double.Canonical mantissa exponent) :=
  inferInstanceAs (Decidable (_ ∧ _ ∧ _ ∧ _))

/-- **A finite binary64 number**: `mantissa · 2 ^ exponent`, negated if `negative`. -/
structure Double where
  /-- Whether the sign is a minus; zero has both signs. -/
  negative : Bool
  /-- The significant bits, as a whole number. -/
  mantissa : Nat
  /-- The power of two that the mantissa is scaled by. -/
  exponent : Int
  /-- The pair is the one that stands for its magnitude. -/
  canonical : Double.Canonical mantissa exponent
  deriving DecidableEq

namespace Double

/-- The number with these parts, if they are canonical. -/
def ofParts? (negative : Bool) (mantissa : Nat) (exponent : Int) : Option Double :=
  if h : Canonical mantissa exponent then some ⟨negative, mantissa, exponent, h⟩ else none

/-- Zero with a sign. -/
def zero (negative : Bool) : Double :=
  ⟨negative, 0, -1074, by decide⟩

/-- The whole number nearest to `num / den`, the even one of two equally near. -/
def roundDiv (num den : Nat) : Nat :=
  let quotient := num / den
  let twice := 2 * (num % den)
  if twice < den then quotient
  else if den < twice then quotient + 1
  else if quotient % 2 = 0 then quotient else quotient + 1

/-- The quotient `num / den` divided by `2 ^ exponent`, again as a quotient. -/
def scale (num den : Nat) (exponent : Int) : Nat × Nat :=
  if 0 ≤ exponent then (num, den * Nat.pow 2 exponent.toNat)
  else (num * Nat.pow 2 (-exponent).toNat, den)

/-- The greatest `k` with `2 ^ k ≤ num / den`, for positive `num` and `den`. -/
def floorLog2 (num den : Nat) : Int :=
  let guess : Int := num.log2 - den.log2
  let scaled := scale num den guess
  if scaled.2 ≤ scaled.1 then guess else guess - 1

/-- **The nearest binary64 number** to `num / den`, of two equally near the one with the even
mantissa; `none` if that lies beyond the largest. -/
def nearest? (negative : Bool) (num den : Nat) : Option Double :=
  if num = 0 then some (zero negative)
  else
    let exponent := max (-1074) (floorLog2 num den - 52)
    let scaled := scale num den exponent
    let mantissa := roundDiv scaled.1 scaled.2
    if mantissa = 0x20000000000000 then ofParts? negative 0x10000000000000 (exponent + 1)
    else ofParts? negative mantissa exponent

/-- The magnitude as a quotient of whole numbers. -/
def magnitude (x : Double) : Nat × Nat :=
  scale x.mantissa 1 (-x.exponent)

/-- The nearest binary64 number to an integer. -/
def ofInt? (n : Int) : Option Double :=
  nearest? (n < 0) n.natAbs 1

/-- The number with the other sign. -/
def neg (x : Double) : Double :=
  { x with negative := !x.negative }

/-- The sum with an integer, rounded; a sum of zero is positive. -/
def addInt? (x : Double) (n : Int) : Option Double :=
  let (num, den) := x.magnitude
  let total := (if x.negative then -(num : Int) else num) + n * den
  nearest? (total < 0) total.natAbs den

@[simp] theorem neg_neg (x : Double) : x.neg.neg = x := by
  simp [neg]

theorem ofParts?_eq_some {negative : Bool} {mantissa : Nat} {exponent : Int}
    (h : Canonical mantissa exponent) :
    ofParts? negative mantissa exponent = some ⟨negative, mantissa, exponent, h⟩ :=
  dif_pos h

end Double

end Reshape
