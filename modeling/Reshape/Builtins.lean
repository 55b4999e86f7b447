import Reshape.Registry
import Reshape.Text.Blank
import Reshape.Text.Case

/-!
# Builtin transforms

The transforms that every registry starts with. All but `identity` pass null through; each refuses
values of other kinds than its own.

## Main definitions

* `Builtin.identity`, `Builtin.toUppercase`, `Builtin.toLowercase`, `Builtin.trim`
* `Builtin.negate`, `Builtin.increment`, `Builtin.decrement`
* `Builtin.asString`, `Builtin.parseNumber`, `Builtin.parseBool`: conversions between strings and
  other scalars
* `Builtin.all`: the builtins under their names
* `Registry.builtin`: the registry of the builtins
-/

namespace Reshape

namespace Builtin

/-- The refusal of a value of another kind than is asked for. -/
def unexpected (name expected : String) (v : Value) : Error :=
  .transform s!"{name} expects {expected}, got {v.kind.name}"

/-- The transform of strings that applies a function to their characters. -/
def onString (name : String) (f : List Char → List Char) : Transform
  | .null => pure .null
  | .string s => pure (.string (String.ofList (f s.toList)))
  | v => Run.fail (unexpected name "a string" v)

/-- The transform of numbers that applies one function to signed 64-bit integers, refusing results
beyond their range, and one to all other numbers, as binary64 numbers. -/
def onNumber (name : String) (onInt : Int → Int) (onDouble : Double → Option Double) : Transform
  | .null => pure .null
  | .number n =>
    match n.toSigned? with
    | some i =>
      if h : Number.IsSigned (onInt i) then pure (.ofSigned (onInt i) h)
      else Run.fail (.transform s!"{name} overflowed on {i}")
    | none =>
      match n.toDouble?.bind onDouble with
      | some x => pure (.number (.double x))
      | none => Run.fail (.transform s!"{name} produced a non-finite number")
  | v => Run.fail (unexpected name "a number" v)

/-- The value itself. -/
def identity : Transform :=
  fun v => pure v

/-- The upper case of a string. -/
def toUppercase : Transform :=
  onString "to_uppercase" Text.upper

/-- The lower case of a string. -/
def toLowercase : Transform :=
  onString "to_lowercase" Text.lower

/-- A string without the blanks around it. -/
def trim : Transform :=
  onString "trim" Text.trim

/-- A number with the other sign. -/
def negate : Transform :=
  onNumber "negate" (fun i => -i) fun x => some x.neg

/-- A number, and one. -/
def increment : Transform :=
  onNumber "increment" (fun i => i + 1) fun x => x.addInt? 1

/-- A number less one. -/
def decrement : Transform :=
  onNumber "decrement" (fun i => i - 1) fun x => x.addInt? (-1)

/-- A scalar as a string: a number or boolean by its text. -/
def asString : Transform
  | .null => pure .null
  | .string s => pure (.string s)
  | .number n => pure (.string (String.ofList n.text))
  | .bool true => pure (.string "true")
  | .bool false => pure (.string "false")
  | v => Run.fail (unexpected "to_string" "a scalar" v)

/-- The number that a text spells: a signed 64-bit integer, or else the nearest binary64 number.
At least one digit must be written; a plus sign, leading zeros and a point at either end are
allowed. -/
def numberOfText? (text : List Char) : Option Number := do
  let n ← Numeral.read? text
  if ¬ n.hasDigit then none
  else if h : n.isWhole ∧ Number.IsSigned n.integer then some (Number.ofSigned n.integer h.2)
  else n.decimal.nearest?.map .double

/-- The number that a string spells, blanks around it aside. -/
def parseNumber : Transform
  | .null => pure .null
  | .number n => pure (.number n)
  | .string s =>
    match numberOfText? (Text.trim s.toList) with
    | some n => pure (.number n)
    | none => Run.fail (.transform s!"parse_number cannot parse '{s}'")
  | v => Run.fail (unexpected "parse_number" "a string" v)

/-- The boolean that a string spells in any case, blanks around it aside. -/
def parseBool : Transform
  | .null => pure .null
  | .bool b => pure (.bool b)
  | .string s =>
    let text := Text.lower (Text.trim s.toList)
    if text = ['t', 'r', 'u', 'e'] then pure (.bool true)
    else if text = ['f', 'a', 'l', 's', 'e'] then pure (.bool false)
    else Run.fail (.transform s!"parse_bool cannot parse '{s}'")
  | v => Run.fail (unexpected "parse_bool" "a string" v)

/-- **The builtin transforms** under their names. -/
def all : Fields Transform :=
  [("identity", identity), ("to_uppercase", toUppercase), ("to_lowercase", toLowercase),
    ("trim", trim), ("negate", negate), ("increment", increment), ("decrement", decrement),
    ("to_string", asString), ("parse_number", parseNumber), ("parse_bool", parseBool)]

end Builtin

/-- The registry of the builtin transforms. -/
def Registry.builtin : Registry :=
  ⟨Builtin.all⟩

end Reshape
