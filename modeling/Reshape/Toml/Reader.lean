import Reshape.Toml.Scalar
import Reshape.Toml.Table
import Reshape.Toml.Strings

/-!
# Reading TOML

A TOML text is a list of expressions, one a line: key-value pairs, headers, comments. This module
reads the expressions into statements and leaves it to the tables to put them together.

Each repetition is bounded by the length of the text it reads, and each nesting by the number of
brackets that may be open.

## Main definitions

* `takeKey?`: a key, split at its points
* `takeValue?`: a value
* `statements?`: the statements of a text
* `read?`: the document of a text
-/

namespace Reshape.Toml

/-- The number of arrays and inline tables that may be open at once. -/
def nestingLimit : Nat := 79

/-- The number of names that a key may have. -/
def keyLimit : Nat := 79

/-! ### Between the values -/

/-- Whether a character is blank within a line. -/
def isSpace (c : Char) : Bool :=
  c = ' ' || c = '\t'

/-- A text without the blanks at its start. -/
def skipSpaces (text : List Char) : List Char :=
  text.dropWhile isSpace

/-- The text behind a line end, which may be the end of the text. -/
def takeLineEnd? : List Char → Option (List Char)
  | [] => some []
  | '\n' :: rest => some rest
  | '\r' :: '\n' :: rest => some rest
  | _ => none

/-- The text behind the rest of a line that holds at most blanks and a comment. -/
def takeLineRest? (text : List Char) : Option (List Char) :=
  match skipSpaces text with
  | '#' :: rest => takeLineEnd? (rest.dropWhile isPrintable)
  | rest => takeLineEnd? rest

/-- The text behind blanks, line ends and comments; `comment` tells whether the text starts in a
comment, which must end with its line. -/
def skipFiller? (comment : Bool) : List Char → Option (List Char)
  | [] => if comment then none else some []
  | '\r' :: '\n' :: rest => skipFiller? false rest
  | c :: rest =>
    if c = '\n' then skipFiller? false rest
    else if comment then if isPrintable c then skipFiller? true rest else none
    else if isSpace c then skipFiller? false rest
    else if c = '#' then skipFiller? true rest
    else some (c :: rest)

/-! ### Keys -/

/-- Whether a character may occur in a key without quotes. -/
def isKeyChar (c : Char) : Bool :=
  c.isAlphanum || c = '-' || c = '_'

/-- A name at the start of a text, and the text behind it. -/
def takeName? : List Char → Option (String × List Char)
  | '"' :: rest => (takeBasic? rest).map fun taken => (String.ofList taken.1, taken.2)
  | '\'' :: rest => (takeLiteral? rest).map fun taken => (String.ofList taken.1, taken.2)
  | text =>
    let name := text.takeWhile isKeyChar
    if name.isEmpty then none else some (String.ofList name, text.dropWhile isKeyChar)

/-- At most `limit` names with points between them, the blanks around each skipped, and the text
behind them. -/
def takeNames? : Nat → List Char → Option (List String × List Char)
  | 0, _ => none
  | limit + 1, text => do
    let (name, rest) ← takeName? (skipSpaces text)
    match skipSpaces rest with
    | '.' :: rest =>
      let (names, rest) ← takeNames? limit rest
      some (name :: names, rest)
    | rest => some ([name], rest)

/-- **A key** at the start of a text: the names in front, the last name, and the text behind. -/
def takeKey? (text : List Char) : Option (List String × String × List Char) := do
  let (names, rest) ← takeNames? keyLimit text
  match names.getLast? with
  | some key => some (names.dropLast, key, rest)
  | none => none

/-! ### Values -/

/-- The node of an unquoted value. A moment is a table of one entry, whose key no document is meant
to use. -/
def Scalar.toNode : Scalar → Node
  | plain => .other
  | moment m => .table [("$__toml_private_datetime", .text (String.ofList m.text))]

/-- The items of an array whose opening bracket has been read, and the text behind the array. -/
def takeItems? (item? : List Char → Option (Node × List Char)) :
    Nat → List Char → Option (List Node × List Char)
  | 0, _ => none
  | bound + 1, text => do
    match ← skipFiller? false text with
    | ']' :: rest => some ([], rest)
    | text =>
      let (node, rest) ← item? text
      match ← skipFiller? false rest with
      | ',' :: rest =>
        let (nodes, rest) ← takeItems? item? bound rest
        some (node :: nodes, rest)
      | ']' :: rest => some ([node], rest)
      | _ => none

/-- A key-value pair at the start of a text, and the text behind it. -/
def takePair? (value? : List Char → Option (Node × List Char)) (text : List Char) :
    Option ((List String × String × Node) × List Char) := do
  let (path, key, rest) ← takeKey? text
  match rest with
  | '=' :: rest =>
    let (node, rest) ← value? (skipSpaces rest)
    some ((path, key, node), rest)
  | _ => none

/-- The pairs of an inline table that has at least one, and the text behind the table. -/
def takePairs? (value? : List Char → Option (Node × List Char)) :
    Nat → List Char → Option (List (List String × String × Node) × List Char)
  | 0, _ => none
  | bound + 1, text => do
    let (pair, rest) ← takePair? value? text
    match skipSpaces rest with
    | ',' :: rest =>
      let (pairs, rest) ← takePairs? value? bound rest
      some (pair :: pairs, rest)
    | '\x7d' :: rest => some ([pair], rest)
    | _ => none

/-- **A value** at the start of a text, in which at most `depth` arrays and inline tables are open
at once, and the text behind it. -/
def takeValue? : Nat → List Char → Option (Node × List Char)
  | 0, text => takeSimple? text
  | depth + 1, text =>
    match text with
    | '[' :: rest =>
      (takeItems? (takeValue? depth) (rest.length + 1) rest).map fun taken =>
        (.list taken.1, taken.2)
    | '\x7b' :: rest =>
      match skipSpaces rest with
      | '\x7d' :: rest => some (.table [], rest)
      | rest => do
        let (pairs, rest) ← takePairs? (takeValue? depth) (rest.length + 1) rest
        let node ← inlineTable? pairs
        some (node, rest)
    | text => takeSimple? text
where
  /-- A string or an unquoted value. -/
  takeSimple? (text : List Char) : Option (Node × List Char) :=
    match text with
    | '"' :: _ => (takeString? text).map fun taken => (.text (String.ofList taken.1), taken.2)
    | '\'' :: _ => (takeString? text).map fun taken => (.text (String.ofList taken.1), taken.2)
    | _ => (Scalar.take? text).map fun taken => (taken.1.toNode, taken.2)

/-! ### Documents -/

/-- The text behind closing brackets and the rest of their line. -/
def closeHeader? : List Char → List Char → Option (List Char)
  | [], text => takeLineRest? text
  | bracket :: brackets, text =>
    match text with
    | c :: rest => if c = bracket then closeHeader? brackets rest else none
    | [] => none

/-- The statement at the start of a text that is not blank, and the text behind its line. -/
def takeStatement? : List Char → Option (Statement × List Char)
  | '[' :: '[' :: rest => do
    let (path, key, rest) ← takeKey? rest
    let rest ← closeHeader? [']', ']'] rest
    some (.element path key, rest)
  | '[' :: rest => do
    let (path, key, rest) ← takeKey? rest
    let rest ← closeHeader? [']'] rest
    some (.table path key, rest)
  | text => do
    let ((path, key, node), rest) ← takePair? (takeValue? nestingLimit) text
    let rest ← takeLineRest? rest
    some (.pair path key node, rest)

/-- The statements of a text in at most `bound` lines. -/
def takeStatements? : Nat → List Char → Option (List Statement)
  | 0, _ => none
  | bound + 1, text =>
    match skipSpaces text with
    | [] => some []
    | c :: rest =>
      if c = '#' ∨ c = '\n' ∨ c = '\r' then do
        takeStatements? bound (← takeLineRest? (c :: rest))
      else do
        let (statement, rest) ← takeStatement? (c :: rest)
        let statements ← takeStatements? bound rest
        some (statement :: statements)

/-- **The statements of a text**. A byte order mark at its start is skipped. -/
def statements? (text : List Char) : Option (List Statement) :=
  let body := if text.head? = some '\ufeff' then text.tail else text
  takeStatements? (body.length + 1) body

/-- **The document of a text**: its statements put together. -/
def read? (text : String) : Option Node :=
  (statements? text.toList).bind Statement.assemble?

end Reshape.Toml
