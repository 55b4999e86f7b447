/-!
# Hexadecimal digits

Reading the numbers of characters in escapes.

## Main definitions

* `hexDigit?`: the value of a hexadecimal digit
* `hexNumber?`: the value of hexadecimal digits
* `scalarOf?`: the character of a number
-/

namespace Reshape.Text

/-- The value of a hexadecimal digit, whose letters may have either case. -/
def hexDigit? (c : Char) : Option Nat :=
  if c.isDigit then some (c.toNat - '0'.toNat)
  else if 'a' ≤ c ∧ c ≤ 'f' then some (c.toNat - 'a'.toNat + 10)
  else if 'A' ≤ c ∧ c ≤ 'F' then some (c.toNat - 'A'.toNat + 10)
  else none

/-- The value of hexadecimal digits, the first of which follow the given value. -/
def hexFrom? (value : Nat) : List Char → Option Nat
  | [] => some value
  | c :: rest => (hexDigit? c).bind fun digit => hexFrom? (value * 16 + digit) rest

/-- **The value of hexadecimal digits**. -/
def hexNumber? (digits : List Char) : Option Nat :=
  hexFrom? 0 digits

/-- The character of a number, if it is the number of a character: surrogates are not. -/
def scalarOf? (n : Nat) : Option Char :=
  if n.isValidChar then some (Char.ofNat n) else none

end Reshape.Text
