import Reshape.Value

/-!
# Writing JSON

The two written forms of a value: compact, without any space, and indented by two spaces a level.
Both escape in strings the quote, the backslash and the control characters, and nothing else.

## Main definitions

* `quote`: a string between quotes
* `compact`: the compact form of a value
* `pretty`: the indented form of a value
-/

namespace Reshape.Json

/-- The escaped form of a character in a string. -/
def escapeChar (c : Char) : List Char :=
  match c with
  | '"' => ['\\', '"']
  | '\\' => ['\\', '\\']
  | '\x08' => ['\\', 'b']
  | '\t' => ['\\', 't']
  | '\n' => ['\\', 'n']
  | '\x0c' => ['\\', 'f']
  | '\r' => ['\\', 'r']
  | _ =>
    if c.toNat < 0x20 then
      ['\\', 'u', '0', '0', Nat.digitChar (c.toNat / 16), Nat.digitChar (c.toNat % 16)]
    else [c]

/-- **A string between quotes**. -/
def quote (s : String) : List Char :=
  '"' :: s.toList.flatMap escapeChar ++ ['"']

mutual

/-- The characters of the compact form. -/
def compactChars : Value → List Char
  | .null => ['n', 'u', 'l', 'l']
  | .bool true => ['t', 'r', 'u', 'e']
  | .bool false => ['f', 'a', 'l', 's', 'e']
  | .number n => n.text
  | .string s => quote s
  | .array items => '[' :: [','].intercalate (compactItems items) ++ [']']
  | .object fields => '\x7b' :: [','].intercalate (compactFields fields) ++ ['\x7d']
termination_by structural v => v

/-- The compact forms of the items of an array. -/
def compactItems : List Value → List (List Char)
  | [] => []
  | item :: rest => compactChars item :: compactItems rest
termination_by structural items => items

/-- The compact forms of the fields of an object. -/
def compactFields : List (String × Value) → List (List Char)
  | [] => []
  | (name, v) :: rest => (quote name ++ ':' :: compactChars v) :: compactFields rest
termination_by structural fields => fields

end

/-- **The compact form** of a value. -/
def compact (v : Value) : String :=
  String.ofList (compactChars v)

/-- The start of a line at a level. -/
def newline (level : Nat) : List Char :=
  '\n' :: List.replicate (2 * level) ' '

/-- Parts between brackets, each on a line of its own one level further in; no line at all if there
are no parts. -/
def block (level : Nat) (left right : Char) (parts : List (List Char)) : List Char :=
  if parts.isEmpty then [left, right]
  else
    left :: newline (level + 1) ++ (',' :: newline (level + 1)).intercalate parts ++
      newline level ++ [right]

mutual

/-- The characters of the indented form at a level. -/
def prettyChars : Nat → Value → List Char
  | _, .null => ['n', 'u', 'l', 'l']
  | _, .bool true => ['t', 'r', 'u', 'e']
  | _, .bool false => ['f', 'a', 'l', 's', 'e']
  | _, .number n => n.text
  | _, .string s => quote s
  | level, .array items => block level '[' ']' (prettyItems (level + 1) items)
  | level, .object fields => block level '\x7b' '\x7d' (prettyFields (level + 1) fields)
termination_by structural _ v => v

/-- The indented forms of the items of an array. -/
def prettyItems : Nat → List Value → List (List Char)
  | _, [] => []
  | level, item :: rest => prettyChars level item :: prettyItems level rest
termination_by structural _ items => items

/-- The indented forms of the fields of an object. -/
def prettyFields : Nat → List (String × Value) → List (List Char)
  | _, [] => []
  | level, (name, v) :: rest =>
    (quote name ++ [':', ' '] ++ prettyChars level v) :: prettyFields level rest
termination_by structural _ fields => fields

end

/-- **The indented form** of a value. -/
def pretty (v : Value) : String :=
  String.ofList (prettyChars 0 v)

end Reshape.Json
