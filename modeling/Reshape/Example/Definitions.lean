import Reshape.Definition.Basic

/-!
# Example: definitions

Definitions for the laws of compiling, writing and reading: one whose fields compete for targets at
two levels, one without such fields in two orders, one whose names look like the words of scripts,
one whose names must be escaped, and definitions of any depth. Also some texts.

## Main definitions

* `ledger`: a definition with collisions
* `census`, `recount`: a definition without, in two orders
* `disguised`: a definition whose names could be mistaken for syntax
* `disguisedLines`: a way to write it as a script
* `unprintable`: a definition whose names are hard to write down
* `tower`: definitions of any depth
* `scrawl`: a JSON text with liberties
* `herds`: a definition; `herdsJson`, `herdsToml`, `herdsScript`: a text of it in each format
* `repeated`: a script in which fields come again
* `unfinished`, `misspelt`: scripts with faults
* `kennel`, `kennelMoved`, `kennelOpen`: scripts to stand one behind the other
-/

namespace Reshape.Example

/-- **A definition with collisions**: three sorts of rules compete for the amount, and two for a
target inside. -/
def ledger : Definition :=
  [("price", .convert .whole "amount" "increment" "decrement"),
    ("parts", .nest .many "amount"
      [("net", .copy "sum"), ("taxes", .convert .elements "sum" "f" "g")]),
    ("total", .copy "amount")]

/-- **A definition without collisions**, at two levels. -/
def census : Definition :=
  [("name", .copy "full_name"), ("age", .convert .whole "age" "increment" "decrement"),
    ("pets", .nest .many "animals"
      [("name", .copy "name"), ("legs", .convert .whole "paws" "negate" "negate")])]

/-- The same definition in another order, at both levels. -/
def recount : Definition :=
  [("pets", .nest .many "animals"
      [("legs", .convert .whole "paws" "negate" "negate"), ("name", .copy "name")]),
    ("name", .copy "full_name"), ("age", .convert .whole "age" "increment" "decrement")]

/-- **A definition whose names could be mistaken** for keywords, braces or comments. -/
def disguised : Definition :=
  [("#", .copy "TO"),
    ("OBJECT", .nest .one "\x7b"
      [("\x7d", .convert .whole "ALIAS" "WITH" "REVERSE"), ("TO", .nest .many "#" [])]),
    ("array", .convert .elements "OBJECTS" "\x7d" "#")]

/-- The lines of a script that describes `disguised`. -/
def disguisedLines : List String :=
  ["# Names and syntax",
    "\tAlias # to TO",
    "OBJECT OBJECT to \x7b \x7b",
    "  # In the block",
    "  property  \x7d TO ALIAS with WITH REVERSE REVERSE\r",
    "",
    "  objects TO to # \x7b",
    "  \x7d ",
    "\x7d",
    "ARRAY array TO OBJECTS With \x7d Reverse #"]

/-- **A definition whose names are hard to write down**: empty, with quotes and line ends in them,
or the same as the keys of rules. -/
def unprintable : Definition :=
  [("", .copy "\"\\\n"),
    ("rule", .nest .many "" [("mapping", .nest .one "\x00" []), ("target", .copy "rule")]),
    ("é", .convert .elements "\t" "" "\x7f")]

/-- **A definition of a given depth**, with one rule a level. -/
def tower : Nat → Definition
  | 0 => []
  | n + 1 => [("floor", .nest .one "floor" (tower n))]

/-- **A JSON text with liberties**: rules as lists and as a table, tags by name and by number, keys
in another order with one among them that no rule has, a field that comes again, and escapes. -/
def scrawl : String :=
  "\x7b\"pets\":[\"array\",\"pet\",\"f\",\"g\"],\n" ++
    "\"\\u0061ge\":\x7b\"reverse\":\"g\",\"notes\":[[true]],\"target\":\"\\n\"," ++
    "\"transform\":\"f\",\"rule\":\"property\"\x7d,\r\n\t\"pets\":[" ++
    "3," ++
    " \"animals\", \x7b\"name\":\"\"\x7d] \x7d"

/-- **A definition for each format**: an array of scalars. -/
def herds : Definition :=
  [("herds", .convert .elements "sizes" "f" "g")]

/-- A JSON text of the definition, with the rule as a list. -/
def herdsJson : String :=
  "\x7b\"herds\":[\"array\",\"sizes\",\"f\",\"g\"]\x7d"

/-- A TOML text of the definition, with the rule as an inline table. -/
def herdsToml : String :=
  "\"herds\" = \x7b\"rule\" = \"array\", \"target\" = \"sizes\", " ++
    "\"transform\" = \"f\", \"reverse\" = \"g\"\x7d\n"

/-- A script of the definition. -/
def herdsScript : String :=
  "array herds to sizes with f reverse g"

/-- A script with fields that come again, in a block and outside. -/
def repeated : String :=
  "alias a to b\nobject c to d \x7b\nalias e to f\nalias g to h\nalias e to i\n\x7d\nalias a to j"

/-- A script with a block in a block. Neither ends. -/
def unfinished : String :=
  "object a to b \x7b\nobject c to d \x7b"

/-- A script with another word in the place of a keyword. -/
def misspelt : String :=
  "# Rules\nalias a at b"

/-- A script with a block. Its lines end with carriage returns as well. -/
def kennel : String :=
  "objects pets to pets \x7b\r\n  alias name to name\r\n\x7d\r"

/-- A script that gives the field of the block another rule. -/
def kennelMoved : String :=
  "alias home to house\nalias pets to animals"

/-- A script with a block that does not end. -/
def kennelOpen : String :=
  "\nobject home to home \x7b"

end Reshape.Example
