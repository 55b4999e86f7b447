import Reshape.Text.Hex

/-!
# TOML strings

Strings stand between quotes, which are double or single and alone or three at a time. Between
double quotes a backslash starts an escape, between single quotes every character is itself. A
string between single marks ends on its line; one between three marks may go on, and a line end
right behind its opening is left out.

## Main definitions

* `isPrintable`: the characters that may stand in strings and comments
* `takeBasic?`, `takeLiteral?`: the strings of one line
* `takeBlock?`, `takeLiteralBlock?`: the strings of several lines
* `takeString?`: the string at the start of a text
-/

namespace Reshape.Toml

/-- Whether a character may stand in strings and comments: all but the control characters of the
ASCII range, of which the tab may. -/
def isPrintable (c : Char) : Bool :=
  c = '\t' || (0x20 ≤ c.toNat && c.toNat ≠ 0x7F)

/-- The character behind a backslash that stands for one character. -/
def escape? : Char → Option Char
  | 'b' => some '\x08'
  | 't' => some '\t'
  | 'n' => some '\n'
  | 'f' => some '\x0c'
  | 'r' => some '\r'
  | '"' => some '"'
  | '\\' => some '\\'
  | _ => none

/-- The character whose number hexadecimal digits spell. -/
def coded? (digits : List Char) : Option Char :=
  (Text.hexNumber? digits).bind Text.scalarOf?

/-- A character in front of a string. -/
def extend (c : Char) (taken : List Char × List Char) : List Char × List Char :=
  (c :: taken.1, taken.2)

/-- **The string between double quotes** whose opening quote has been read, and the text behind
it. -/
def takeBasic? : List Char → Option (List Char × List Char)
  | '"' :: rest => some ([], rest)
  | '\\' :: 'u' :: a :: b :: c :: d :: rest =>
    (coded? [a, b, c, d]).bind fun char => (takeBasic? rest).map (extend char)
  | '\\' :: 'U' :: a :: b :: c :: d :: e :: f :: g :: h :: rest =>
    (coded? [a, b, c, d, e, f, g, h]).bind fun char => (takeBasic? rest).map (extend char)
  | '\\' :: c :: rest => (escape? c).bind fun char => (takeBasic? rest).map (extend char)
  | c :: rest => if c ≠ '\\' ∧ isPrintable c then (takeBasic? rest).map (extend c) else none
  | [] => none

/-- **The string between single quotes** whose opening quote has been read, and the text behind
it. -/
def takeLiteral? : List Char → Option (List Char × List Char)
  | '\'' :: rest => some ([], rest)
  | c :: rest => if isPrintable c then (takeLiteral? rest).map (extend c) else none
  | [] => none

/-- The string that three quotes end, before which up to two quotes more belong to the string:
given the text behind the three quotes. -/
def closeBlock (quote : Char) : List Char → List Char × List Char
  | a :: b :: rest =>
    if a = quote then if b = quote then ([quote, quote], rest) else ([quote], b :: rest)
    else ([], a :: b :: rest)
  | [a] => if a = quote then ([quote], []) else ([], [a])
  | [] => ([], [])

/-- What becomes of blanks and line ends behind a backslash. -/
inductive Folding where
  /-- They belong to the string. -/
  | none
  /-- They are left out, and a line end must come. -/
  | toLineEnd
  /-- They are left out. -/
  | beyond

/-- **The string between three double quotes** whose opening has been read, and the text behind it.
A backslash at the end of a line leaves out the line end and all blanks behind it. A line end
counts as a line feed. -/
def takeBlock? : Folding → List Char → Option (List Char × List Char)
  | _, [] => none
  | .toLineEnd, '\r' :: '\n' :: rest => takeBlock? .beyond rest
  | .toLineEnd, c :: rest =>
    if c = '\n' then takeBlock? .beyond rest
    else if c = ' ' ∨ c = '\t' then takeBlock? .toLineEnd rest
    else none
  | .beyond, '\r' :: '\n' :: rest => takeBlock? .beyond rest
  | _, '"' :: '"' :: '"' :: rest => some (closeBlock '"' rest)
  | _, '\\' :: 'u' :: a :: b :: c :: d :: rest =>
    (coded? [a, b, c, d]).bind fun char => (takeBlock? .none rest).map (extend char)
  | _, '\\' :: 'U' :: a :: b :: c :: d :: e :: f :: g :: h :: rest =>
    (coded? [a, b, c, d, e, f, g, h]).bind fun char => (takeBlock? .none rest).map (extend char)
  | _, '\\' :: '\r' :: '\n' :: rest => takeBlock? .beyond rest
  | _, '\\' :: c :: rest =>
    if c = '\n' then takeBlock? .beyond rest
    else if c = ' ' ∨ c = '\t' then takeBlock? .toLineEnd rest
    else (escape? c).bind fun char => (takeBlock? .none rest).map (extend char)
  | .none, '\r' :: '\n' :: rest => (takeBlock? .none rest).map (extend '\n')
  | .beyond, c :: rest =>
    if c = '\n' ∨ c = ' ' ∨ c = '\t' then takeBlock? .beyond rest
    else if c ≠ '\\' ∧ isPrintable c then (takeBlock? .none rest).map (extend c)
    else Option.none
  | .none, c :: rest =>
    if c = '\n' ∨ (c ≠ '\\' ∧ isPrintable c) then (takeBlock? .none rest).map (extend c)
    else Option.none

/-- **The string between three single quotes** whose opening has been read, and the text behind
it. -/
def takeLiteralBlock? : List Char → Option (List Char × List Char)
  | '\'' :: '\'' :: '\'' :: rest => some (closeBlock '\'' rest)
  | '\r' :: '\n' :: rest => (takeLiteralBlock? rest).map (extend '\n')
  | c :: rest =>
    if c = '\n' ∨ isPrintable c then (takeLiteralBlock? rest).map (extend c) else none
  | [] => none

/-- A text without the line end at its start, if there is one. -/
def dropLineEnd : List Char → List Char
  | '\n' :: rest => rest
  | '\r' :: '\n' :: rest => rest
  | text => text

/-- **The string at the start of a text**, and the text behind it. -/
def takeString? : List Char → Option (List Char × List Char)
  | '"' :: '"' :: '"' :: rest => takeBlock? .none (dropLineEnd rest)
  | '"' :: rest => takeBasic? rest
  | '\'' :: '\'' :: '\'' :: rest => takeLiteralBlock? (dropLineEnd rest)
  | '\'' :: rest => takeLiteral? rest
  | _ => none

end Reshape.Toml
