import Reshape.Number.Numeral

/-!
# Numbers of records

A number in a record is an integer that fits 64 bits, with or without a sign, or a finite binary64
number. The two are kept apart: `1` and `1.0` are different numbers with different texts.

## Main definitions

* `Number`: integers and binary64 numbers
* `Number.toDouble?`: the binary64 number nearest to a number
* `Number.text`: the written form
-/

namespace Reshape

/-- The integers that a record can hold: those of 64 bits, with or without a sign. -/
def Number.InRange (n : Int) : Prop :=
  -0x8000000000000000 ≤ n ∧ n < 0x10000000000000000

instance (n : Int) : Decidable (Number.InRange n) :=
  inferInstanceAs (Decidable (_ ∧ _))

/-- **A number** of a record. -/
inductive Number where
  /-- An integer of at most 64 bits. -/
  | int (n : Int) (inRange : Number.InRange n)
  /-- A finite binary64 number. -/
  | double (x : Double)
  deriving DecidableEq

namespace Number

/-- The integer as a number, if a record can hold it. -/
def ofInt? (n : Int) : Option Number :=
  if h : InRange n then some (int n h) else none

/-- The integers of 64 bits with a sign. -/
def IsSigned (n : Int) : Prop :=
  -0x8000000000000000 ≤ n ∧ n < 0x8000000000000000

instance (n : Int) : Decidable (IsSigned n) :=
  inferInstanceAs (Decidable (_ ∧ _))

theorem IsSigned.inRange {n : Int} (h : IsSigned n) : InRange n :=
  ⟨h.1, Int.lt_trans h.2 (by decide)⟩

/-- The number of a signed 64-bit integer. -/
def ofSigned (n : Int) (h : IsSigned n) : Number :=
  int n h.inRange

/-- The integer of a number, if it is one of 64 bits with a sign. -/
def toSigned? : Number → Option Int
  | int n _ => if IsSigned n then some n else none
  | double _ => none

/-- The nearest binary64 number. -/
def toDouble? : Number → Option Double
  | int n _ => Double.ofInt? n
  | double x => some x

@[simp] theorem toSigned?_ofSigned (n : Int) (h : IsSigned n) :
    (ofSigned n h).toSigned? = some n := by
  simp [ofSigned, toSigned?, h]

/-- How a binary64 number is laid out around its digits. -/
structure Layout where
  /-- The least place of the first digit that is written without a power of ten. -/
  leastPlace : Int
  /-- The greatest such place. -/
  greatestPlace : Int
  /-- What follows a number without a fraction. -/
  wholeEnding : List Char
  /-- What stands before a power of ten. -/
  mark : Char
  /-- The sign of a power of ten that is not negative. -/
  positive : List Char

/-- Numbers are written without a power of ten from `0.00001` up to sixteen whole digits, always
with a point; a positive power carries its sign. -/
def layout : Layout :=
  ⟨-5, 15, ['.', '0'], 'e', ['+']⟩

/-- The decimal text of an integer. -/
def integerText (n : Int) : List Char :=
  if n < 0 then '-' :: Decimal.digitsOf n.natAbs else Decimal.digitsOf n.natAbs

/-- Digits with a point after the first `place + 1` of them, filled up with zeros. -/
def Layout.plain (l : Layout) (digits : List Char) (place : Int) : List Char :=
  if place < 0 then
    ['0', '.'] ++ List.replicate (-place - 1).toNat '0' ++ digits
  else if digits.length ≤ place + 1 then
    digits ++ List.replicate (place.toNat + 1 - digits.length) '0' ++ l.wholeEnding
  else
    digits.take (place.toNat + 1) ++ '.' :: digits.drop (place.toNat + 1)

/-- Digits with a point after the first of them, and the power of ten behind. -/
def Layout.scientific (l : Layout) (digits : List Char) (place : Int) : List Char :=
  let fraction := digits.drop 1
  let sign := if place < 0 then ['-'] else l.positive
  digits.take 1 ++ (if fraction.isEmpty then [] else '.' :: fraction) ++
    l.mark :: sign ++ Decimal.digitsOf place.natAbs

/-- The text of a decimal quantity. -/
def Layout.write (l : Layout) (d : Decimal) : List Char :=
  let digits := Decimal.digitsOf d.digits
  let place := d.exponent + digits.length - 1
  let unsigned :=
    if l.leastPlace ≤ place ∧ place ≤ l.greatestPlace then l.plain digits place
    else l.scientific digits place
  if d.negative then '-' :: unsigned else unsigned

/-- **The text of a number**: an integer in decimal, a binary64 number with the fewest digits that
read back. -/
def text : Number → List Char
  | int n _ => integerText n
  | double x => layout.write x.shortest

end Number

end Reshape
