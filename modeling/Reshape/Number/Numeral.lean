import Reshape.Number.Decimal

/-!
# Numerals

The common shape of written numbers: an optional sign, digits, an optional point with digits after
it, and an optional power of ten. Formats differ in which of these they admit; each format states
its rule as a condition on the parts.

## Main definitions

* `Numeral`: the parts of a written number
* `Numeral.read?`: the parts of a text, if it has that shape
* `Numeral.isWhole`, `Numeral.integer`: numerals without point and power
* `Numeral.decimal`: the quantity a numeral denotes
-/

namespace Reshape

/-- The sign in front of a numeral. -/
inductive Sign where
  | plus
  | minus
  deriving DecidableEq

namespace Sign

/-- Splits an optional sign off. -/
def take : List Char → Option Sign × List Char
  | '+' :: rest => (some plus, rest)
  | '-' :: rest => (some minus, rest)
  | text => (none, text)

/-- An integer with an optional sign. -/
def applyTo (sign : Option Sign) (n : Nat) : Int :=
  if sign = some minus then -(n : Int) else n

end Sign

/-- **A numeral**, taken apart. -/
structure Numeral where
  /-- The sign, if one is written. -/
  sign : Option Sign
  /-- The digits before the point. -/
  whole : List Char
  /-- The digits after the point, if there is one. -/
  fraction : Option (List Char)
  /-- The sign and the digits of the power of ten, if there is one. -/
  power : Option (Option Sign × List Char)

namespace Numeral

/-- The power of ten at the end of a numeral: nothing, or a mark, an optional sign and at least one
digit. The outer `none` is a text of another shape. -/
def readPower? : List Char → Option (Option (Option Sign × List Char))
  | [] => some none
  | mark :: text =>
    let (sign, digits) := Sign.take text
    if (mark = 'e' ∨ mark = 'E') ∧ digits ≠ [] ∧ digits.all Char.isDigit then
      some (some (sign, digits))
    else none

/-- The digits after a point, if there is one, and the text behind them. -/
def takeFraction : List Char → Option (List Char) × List Char
  | '.' :: text => (some (text.takeWhile Char.isDigit), text.dropWhile Char.isDigit)
  | text => (none, text)

/-- Takes a text apart, if it has the shape of a numeral. Any group of digits but that of the power
may still be empty. -/
def read? (text : List Char) : Option Numeral :=
  let (sign, unsigned) := Sign.take text
  let (fraction, rest) := takeFraction (unsigned.dropWhile Char.isDigit)
  (readPower? rest).map fun power =>
    ⟨sign, unsigned.takeWhile Char.isDigit, fraction, power⟩

/-- Whether neither point nor power is written. -/
def isWhole (n : Numeral) : Bool :=
  n.fraction.isNone && n.power.isNone

/-- Whether at least one digit stands before or after the point. -/
def hasDigit (n : Numeral) : Bool :=
  !(n.whole ++ n.fraction.getD []).isEmpty

/-- The integer before the point. -/
def integer (n : Numeral) : Int :=
  Sign.applyTo n.sign (Decimal.ofDigits n.whole)

/-- The power of ten, zero if none is written. -/
def tens (n : Numeral) : Int :=
  match n.power with
  | some (sign, digits) => Sign.applyTo sign (Decimal.ofDigits digits)
  | none => 0

/-- **The quantity** a numeral denotes. -/
def decimal (n : Numeral) : Decimal where
  negative := n.sign = some .minus
  digits := Decimal.ofDigits (n.whole ++ n.fraction.getD [])
  exponent := n.tens - (n.fraction.getD []).length

end Numeral

end Reshape
