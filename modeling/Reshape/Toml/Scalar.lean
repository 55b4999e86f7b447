import Reshape.Number.Basic
import Reshape.Text.Hex

/-!
# Unquoted TOML values

The values that TOML writes without quotes or brackets: booleans, integers, floating-point numbers,
and dates and times. Each is a run of letters, digits and a few marks; only a date and the time
that belongs to it may be parted by a space.

## Main definitions

* `isInteger`, `isFloat`: the texts of numbers
* `Moment`: dates, times, and both together
* `Moment.read?`, `Moment.text`: a moment from its text, and its usual text
* `Scalar.read?`: the value that a run of characters spells
-/

namespace Reshape.Toml

/-- Whether a character may occur in an unquoted value. -/
def isRunChar (c : Char) : Bool :=
  c.isAlphanum || c = '+' || c = '-' || c = '_' || c = '.' || c = ':'

/-! ### Numbers -/

/-- Whether a text is a group of digits: single underscores may stand between them. -/
def isGroup (isDigit : Char → Bool) : List Char → Bool
  | [] => false
  | [c] => isDigit c
  | c :: '_' :: rest => isDigit c && isGroup isDigit rest
  | c :: rest => isDigit c && isGroup isDigit rest

/-- Whether a text is the whole part of a decimal number: a group without leading zeros. -/
def isWholePart (text : List Char) : Bool :=
  isGroup Char.isDigit text && (text = ['0'] || text.head? ≠ some '0')

/-- The characters of a text that are not underscores. -/
def withoutUnderscores (text : List Char) : List Char :=
  text.filter (· ≠ '_')

/-- Whether a text is a digit group of a base whose value is a signed 64-bit integer. -/
def isBased (base : Nat) (isDigit : Char → Bool) (text : List Char) : Bool :=
  let n := (withoutUnderscores text).foldl (fun n c => n * base + (Text.hexDigit? c).getD 0) 0
  isGroup isDigit text && n < 0x8000000000000000

/-- Whether a decimal integer is one of 64 bits with a sign. -/
def isSignedDecimal (text : List Char) : Bool :=
  let (sign, digits) := Sign.take text
  let n := Sign.applyTo sign (Decimal.ofDigits (withoutUnderscores digits))
  isWholePart digits && decide (Number.IsSigned n)

/-- **Whether a text is an integer**: decimal, or without a sign in base sixteen, eight or two. -/
def isInteger : List Char → Bool
  | '0' :: 'x' :: digits => isBased 16 (fun c => (Text.hexDigit? c).isSome) digits
  | '0' :: 'o' :: digits => isBased 8 (fun c => '0' ≤ c && c ≤ '7') digits
  | '0' :: 'b' :: digits => isBased 2 (fun c => c = '0' || c = '1') digits
  | text => isSignedDecimal text

/-- Whether a text is the power of ten at the end of a number. -/
def isPower : List Char → Bool
  | mark :: text => (mark = 'e' || mark = 'E') && isGroup Char.isDigit (Sign.take text).2
  | [] => false

/-- Whether a text is what follows the whole part of a floating-point number: a fraction, a power,
or a fraction and a power. -/
def isFraction : List Char → Bool
  | '.' :: text =>
    let isInside (c : Char) : Bool := c.isDigit || c = '_'
    let rest := text.dropWhile isInside
    isGroup Char.isDigit (text.takeWhile isInside) && (rest.isEmpty || isPower rest)
  | text => isPower text

/-- Whether the number that a text denotes does not exceed the largest binary64 number. -/
def isBounded (text : List Char) : Bool :=
  match Numeral.read? (withoutUnderscores text) with
  | some n => n.sign = some .minus || n.decimal.nearest?.isSome
  | none => false

/-- **Whether a text is a floating-point number**. -/
def isFloat (text : List Char) : Bool :=
  let unsigned := (Sign.take text).2
  let isInside (c : Char) : Bool := c.isDigit || c = '_'
  unsigned = ['i', 'n', 'f'] || unsigned = ['n', 'a', 'n'] ||
    (isWholePart (unsigned.takeWhile isInside) && isFraction (unsigned.dropWhile isInside) &&
      isBounded text)

/-! ### Dates and times -/

/-- A day of the calendar. -/
structure Date where
  year : Nat
  month : Nat
  day : Nat

/-- A time of day. -/
structure Time where
  hour : Nat
  minute : Nat
  second : Nat
  /-- The digits of the fraction of a second. -/
  fraction : List Char

/-- The distance of a local time from universal time. -/
inductive Offset where
  | zulu
  /-- Hours and minutes, behind universal time if `negative`. -/
  | custom (negative : Bool) (hours minutes : Nat)

/-- **A moment**: a date, a time of day, or both with or without an offset. -/
inductive Moment where
  | date (d : Date)
  | time (t : Time)
  | dateTime (d : Date) (t : Time) (offset : Option Offset)

/-- The number that two digits spell, if it lies between two bounds, and the text behind them. -/
def twoDigits? (low high : Nat) : List Char → Option (Nat × List Char)
  | a :: b :: rest =>
    let n := Decimal.ofDigits [a, b]
    if a.isDigit && b.isDigit && low ≤ n && n ≤ high then some (n, rest) else none
  | _ => none

/-- The text behind a character. -/
def behind? (c : Char) : List Char → Option (List Char)
  | d :: rest => if d = c then some rest else none
  | [] => none

namespace Date

/-- Whether a year has a leap day. -/
def isLeap (year : Nat) : Bool :=
  year % 4 = 0 && (year % 100 ≠ 0 || year % 400 = 0)

/-- The number of days of a month. -/
def daysOf (year month : Nat) : Nat :=
  if month = 2 then if isLeap year then 29 else 28
  else if month = 4 || month = 6 || month = 9 || month = 11 then 30
  else 31

/-- The date at the start of a text, and the text behind it. -/
def take? (text : List Char) : Option (Date × List Char) := do
  let (century, rest) ← twoDigits? 0 99 text
  let (year, rest) ← twoDigits? 0 99 rest
  let (month, rest) ← twoDigits? 1 12 (← behind? '-' rest)
  let (day, rest) ← twoDigits? 1 31 (← behind? '-' rest)
  let year := century * 100 + year
  if day ≤ daysOf year month then some (⟨year, month, day⟩, rest) else none

end Date

namespace Time

/-- The fraction of a second at the start of a text, if a point is there, and the text behind. -/
def takeFraction? : List Char → Option (List Char × List Char)
  | '.' :: rest =>
    let digits := rest.takeWhile Char.isDigit
    if digits.isEmpty then none else some (digits, rest.dropWhile Char.isDigit)
  | rest => some ([], rest)

/-- The time at the start of a text, and the text behind it. A minute may have a leap second. -/
def take? (text : List Char) : Option (Time × List Char) := do
  let (hour, rest) ← twoDigits? 0 23 text
  let (minute, rest) ← twoDigits? 0 59 (← behind? ':' rest)
  let (second, rest) ← twoDigits? 0 60 (← behind? ':' rest)
  let (fraction, rest) ← takeFraction? rest
  some (⟨hour, minute, second, fraction⟩, rest)

end Time

/-- The offset that a text is, or none for no text. The outer `none` is any other text. -/
def Offset.read? : List Char → Option (Option Offset)
  | [] => some none
  | ['Z'] => some (some zulu)
  | ['z'] => some (some zulu)
  | sign :: rest => do
    if sign ≠ '+' ∧ sign ≠ '-' then none
    else
      let (hours, rest) ← twoDigits? 0 23 rest
      let (minutes, rest) ← twoDigits? 0 59 (← behind? ':' rest)
      if rest.isEmpty then some (some (custom (sign = '-') hours minutes)) else none

namespace Moment

/-- The moment of a date and the text that follows the mark between date and time. -/
def withTime? (d : Date) (text : List Char) : Option Moment := do
  let (t, rest) ← Time.take? text
  let offset ← Offset.read? rest
  some (dateTime d t offset)

/-- **The moment that a text is**. -/
def read? (text : List Char) : Option Moment :=
  match Date.take? text with
  | some (d, []) => some (date d)
  | some (d, mark :: rest) => if mark = 'T' ∨ mark = 't' then withTime? d rest else none
  | none =>
    match Time.take? text with
    | some (t, []) => some (time t)
    | _ => none

/-- The last `width` digits of a number, filled up with zeros. -/
def padded (width n : Nat) : List Char :=
  let digits := Decimal.digitsOf n
  List.replicate (width - digits.length) '0' ++ digits

/-- The text of a date. -/
def dateText (d : Date) : List Char :=
  padded 4 d.year ++ '-' :: padded 2 d.month ++ '-' :: padded 2 d.day

/-- The text of a time: nine digits of the fraction count, and zeros at its end are left out. -/
def timeText (t : Time) : List Char :=
  let fraction := ((t.fraction.take 9).reverse.dropWhile (· = '0')).reverse
  padded 2 t.hour ++ ':' :: padded 2 t.minute ++ ':' :: padded 2 t.second ++
    if fraction.isEmpty then [] else '.' :: fraction

/-- The text of an offset. The sign of an offset of nothing is a plus. -/
def offsetText : Option Offset → List Char
  | none => []
  | some .zulu => ['Z']
  | some (.custom negative hours minutes) =>
    (if negative ∧ (hours ≠ 0 ∨ minutes ≠ 0) then '-' else '+') ::
      padded 2 hours ++ ':' :: padded 2 minutes

/-- **The usual text of a moment**. -/
def text : Moment → List Char
  | date d => dateText d
  | time t => timeText t
  | dateTime d t offset => dateText d ++ 'T' :: timeText t ++ offsetText offset

end Moment

/-- **An unquoted value**, as far as definitions tell such values apart. -/
inductive Scalar where
  /-- A boolean or a number. -/
  | plain
  /-- A date, a time or both. -/
  | moment (m : Moment)

/-- **The value that a run of characters spells**. -/
def Scalar.read? (run : List Char) : Option Scalar :=
  if run = ['t', 'r', 'u', 'e'] || run = ['f', 'a', 'l', 's', 'e'] then some plain
  else if isInteger run || isFloat run then some plain
  else (Moment.read? run).map moment

/-- The unquoted value at the start of a text, and the text behind it. A date takes the time behind
a space in, if one is there. -/
def Scalar.take? (text : List Char) : Option (Scalar × List Char) := do
  let run := text.takeWhile isRunChar
  let rest := text.dropWhile isRunChar
  match ← Scalar.read? run, rest with
  | .moment (.date d), ' ' :: after =>
    match Moment.withTime? d (after.takeWhile isRunChar) with
    | some m => some (.moment m, after.dropWhile isRunChar)
    | none => some (.moment (.date d), rest)
  | scalar, _ => some (scalar, rest)

end Reshape.Toml
