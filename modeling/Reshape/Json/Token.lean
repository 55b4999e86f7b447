import Reshape.Text.Hex
import Reshape.Value

/-!
# JSON tokens

A JSON text is read in two steps. The first, here, is a scanner that goes over the text once,
character by character, and collects tokens: the six structural characters, strings with their
escapes resolved, and the other scalars.

## Main definitions

* `Token`: the tokens
* `Scanner`: where the scanner stands, and the tokens so far
* `tokens?`: the tokens of a text, if all of it consists of tokens
-/

namespace Reshape.Json

/-- **A token** of a JSON text. -/
inductive Token where
  | beginObject
  | endObject
  | beginArray
  | endArray
  | colon
  | comma
  /-- A string, its escapes resolved. -/
  | string (s : String)
  /-- A null, a boolean or a number. -/
  | scalar (v : Value)

/-- Whether a character may stand between tokens without meaning. -/
def isSpace (c : Char) : Bool :=
  c = ' ' || c = '\t' || c = '\n' || c = '\r'

/-- The token that a structural character is. -/
def structural? : Char → Option Token
  | '\x7b' => some .beginObject
  | '\x7d' => some .endObject
  | '[' => some .beginArray
  | ']' => some .endArray
  | ':' => some .colon
  | ',' => some .comma
  | _ => none

/-- Whether a character may occur in a scalar that is written without quotes. -/
def isBare (c : Char) : Bool :=
  c.isAlphanum || c = '+' || c = '-' || c = '.'

/-- Whether a numeral is a JSON number: no plus sign, no leading zeros, and digits on both sides of
a point. -/
def admits (n : Numeral) : Bool :=
  n.sign ≠ some .plus && n.fraction ≠ some [] &&
    match n.whole with
    | [] => false
    | '0' :: rest => rest.isEmpty
    | _ :: _ => true

/-- The number that a numeral stands for: an integer if it is written as one that a record can
hold, otherwise the nearest binary64 number. Minus zero is a binary64 number. -/
def numberOf? (n : Numeral) : Option Number :=
  let double? := n.decimal.nearest?.map Number.double
  if n.isWhole ∧ ¬ (n.sign = some .minus ∧ n.integer = 0) then
    (Number.ofInt? n.integer).or double?
  else double?

/-- The scalar that an unquoted run of characters spells. -/
def bare? (text : List Char) : Option Value :=
  if text = ['n', 'u', 'l', 'l'] then some .null
  else if text = ['t', 'r', 'u', 'e'] then some (.bool true)
  else if text = ['f', 'a', 'l', 's', 'e'] then some (.bool false)
  else do
    let n ← Numeral.read? text
    if admits n then (numberOf? n).map .number else none

/-- The character behind a backslash that stands for one character. -/
def escape? : Char → Option Char
  | '"' => some '"'
  | '\\' => some '\\'
  | '/' => some '/'
  | 'b' => some '\x08'
  | 'f' => some '\x0c'
  | 'n' => some '\n'
  | 'r' => some '\r'
  | 't' => some '\t'
  | _ => none

/-- Where the scanner stands. Characters taken are listed last first; `high` is the first half of a
surrogate pair whose second half must follow. -/
inductive Mode where
  /-- Between tokens. -/
  | between
  /-- In a scalar without quotes. -/
  | bare (taken : List Char)
  /-- In a string. -/
  | quoted (taken : List Char) (high : Option Nat)
  /-- In a string, behind a backslash. -/
  | escaped (taken : List Char) (high : Option Nat)
  /-- In the four digits of a code unit, of which `left` are still to come. -/
  | coded (taken : List Char) (high : Option Nat) (left : Nat) (unit : Nat)

/-- **The scanner**: where it stands, and the tokens so far, last first. -/
structure Scanner where
  mode : Mode
  found : List Token

/-- Reads a character between tokens. -/
def startToken (found : List Token) (c : Char) : Option Scanner :=
  if isSpace c then some ⟨.between, found⟩
  else if c = '"' then some ⟨.quoted [] none, found⟩
  else if isBare c then some ⟨.bare [c], found⟩
  else (structural? c).map fun token => ⟨.between, token :: found⟩

/-- Reads a character of a string. Control characters must be escaped, and behind the first half of
a surrogate pair only an escape may follow. -/
def readQuoted (found : List Token) (taken : List Char) (high : Option Nat) (c : Char) :
    Option Scanner :=
  if c = '\\' then some ⟨.escaped taken high, found⟩
  else if high.isSome then none
  else if c = '"' then some ⟨.between, .string (String.ofList taken.reverse) :: found⟩
  else if c.toNat < 0x20 then none
  else some ⟨.quoted (c :: taken) none, found⟩

/-- Reads the character behind a backslash. -/
def readEscaped (found : List Token) (taken : List Char) (high : Option Nat) (c : Char) :
    Option Scanner :=
  if c = 'u' then some ⟨.coded taken high 4 0, found⟩
  else if high.isSome then none
  else (escape? c).map fun escaped => ⟨.quoted (escaped :: taken) none, found⟩

/-- Takes a complete code unit in: a character of its own or half of a surrogate pair. -/
def takeUnit (taken : List Char) (high : Option Nat) (unit : Nat) : Option Mode :=
  match high with
  | none =>
    if 0xD800 ≤ unit ∧ unit ≤ 0xDBFF then some (.quoted taken (some unit))
    else if 0xDC00 ≤ unit ∧ unit ≤ 0xDFFF then none
    else some (.quoted (Char.ofNat unit :: taken) none)
  | some first =>
    if 0xDC00 ≤ unit ∧ unit ≤ 0xDFFF then
      let code := 0x10000 + (first - 0xD800) * 0x400 + (unit - 0xDC00)
      some (.quoted (Char.ofNat code :: taken) none)
    else none

/-- Reads a digit of a code unit. -/
def readCoded (found : List Token) (taken : List Char) (high : Option Nat) (left unit : Nat)
    (c : Char) : Option Scanner := do
  let digit ← Text.hexDigit? c
  let unit := unit * 16 + digit
  if left ≤ 1 then (takeUnit taken high unit).map (⟨·, found⟩)
  else some ⟨.coded taken high (left - 1) unit, found⟩

namespace Scanner

/-- The scanner at the start of a text. -/
def start : Scanner :=
  ⟨.between, []⟩

/-- Reads one character. -/
def step (scanner : Scanner) (c : Char) : Option Scanner :=
  match scanner.mode with
  | .between => startToken scanner.found c
  | .bare taken =>
    if isBare c then some ⟨.bare (c :: taken), scanner.found⟩
    else (bare? taken.reverse).bind fun v => startToken (.scalar v :: scanner.found) c
  | .quoted taken high => readQuoted scanner.found taken high c
  | .escaped taken high => readEscaped scanner.found taken high c
  | .coded taken high left unit => readCoded scanner.found taken high left unit c

/-- The tokens at the end of a text, unless it ends inside a string. -/
def finish? (scanner : Scanner) : Option (List Token) :=
  match scanner.mode with
  | .between => some scanner.found.reverse
  | .bare taken => (bare? taken.reverse).map fun v => (.scalar v :: scanner.found).reverse
  | _ => none

end Scanner

/-- **The tokens** of a text, if all of it consists of tokens. -/
def tokens? (text : List Char) : Option (List Token) :=
  (text.foldlM Scanner.step Scanner.start).bind Scanner.finish?

end Reshape.Json
