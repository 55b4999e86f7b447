import Reshape.Definition.Node

/-!
# TOML tables

A TOML document builds one table out of headers and key-value pairs. A table may be written in
several places only as the rules below allow; they follow from how each table came to be.

* A header makes a table, the tables on the way to it too if they are missing. A table that was
  only made on the way may get a header of its own later, and then moves behind what is there.
* A dotted key makes the tables on its way. It may go through tables made in passing, but ends only
  in one that dotted keys made.
* A header in double brackets adds a table to an array; to go through an array of tables means to
  go through its last one.

## Main definitions

* `Item`: what stands under a key of a table
* `define?`: a key-value pair set in a table
* `openTable?`, `openElement?`: headers
* `Assembly`: a document put together statement by statement
* `Statement.assemble?`: the table of a document
-/

namespace Reshape.Toml

/-- How a table came to be. -/
inductive Made where
  /-- By a header of its own. -/
  | header
  /-- On the way of a header. -/
  | passing
  /-- By a dotted key. -/
  | dotted
  deriving DecidableEq

/-- **An item**: what stands under a key of a table. -/
inductive Item where
  /-- A value that was written as one. -/
  | value (node : Node)
  /-- A table. -/
  | table (made : Made) (entries : List (String × Item))
  /-- An array of tables, last one first. -/
  | tables (elements : List (List (String × Item)))

/-- The entries of a table, in order. -/
abbrev Entries : Type := Fields Item

namespace Item

mutual

/-- An item as a node of a document. -/
def toNode : Item → Node
  | value node => node
  | table _ entries => .table (toNodes entries)
  | tables elements => .list (toList elements [])
termination_by structural item => item

/-- The entries of a table as nodes. -/
def toNodes : List (String × Item) → List (String × Node)
  | [] => []
  | (key, item) :: rest => (key, item.toNode) :: toNodes rest
termination_by structural entries => entries

/-- Tables that are listed last first as nodes in order, in front of others. -/
def toList : List (List (String × Item)) → List Node → List Node
  | [], later => later
  | entries :: earlier, later => toList earlier (.table (toNodes entries) :: later)
termination_by structural elements => elements

end

end Item

/-- A key-value pair set in a table, the key being new. -/
def addNew? (entries : Entries) (key : String) (item : Item) : Option Entries :=
  if Fields.contains entries key then none else some (Fields.insert entries key item)

/-- **A key-value pair set in a table**, where the tables named by a dotted key lead. -/
def define? (entries : Entries) : List String → String → Node → Option Entries
  | [], key, node => addNew? entries key (.value node)
  | step :: path, key, node =>
    match Fields.get? entries step with
    | none => do
      let inner ← define? [] path key node
      some (Fields.insert entries step (.table .dotted inner))
    | some (.table made inner) =>
      if made = .header ∨ (path = [] ∧ made ≠ .dotted) then none
      else do
        let inner ← define? inner path key node
        some (Fields.insert entries step (.table made inner))
    | some (.tables (last :: earlier)) =>
      if path = [] then none
      else do
        let last ← define? last path key node
        some (Fields.insert entries step (.tables (last :: earlier)))
    | some (.tables []) => none
    | some (.value _) => none

/-- What a header does to the table that a path leads to, the tables on the way made if they are
missing. -/
def within? (change : Entries → Option Entries) : List String → Entries → Option Entries
  | [], entries => change entries
  | step :: path, entries =>
    match Fields.get? entries step with
    | none => do
      let inner ← within? change path []
      some (Fields.insert entries step (.table .passing inner))
    | some (.table made inner) => do
      let inner ← within? change path inner
      some (Fields.insert entries step (.table made inner))
    | some (.tables (last :: earlier)) => do
      let last ← within? change path last
      some (Fields.insert entries step (.tables (last :: earlier)))
    | some (.tables []) => none
    | some (.value _) => none

/-- **A header** for a table: it must be new, or made in passing only, and goes to the end. -/
def openTable? (key : String) (entries : Entries) : Option Entries :=
  match Fields.get? entries key with
  | none => some (Fields.insert entries key (.table .header []))
  | some (.table .passing inner) => some (Fields.erase entries key ++ [(key, .table .header inner)])
  | some _ => none

/-- **A header** for another table of an array. -/
def openElement? (key : String) (entries : Entries) : Option Entries :=
  match Fields.get? entries key with
  | none => some (Fields.insert entries key (.tables [[]]))
  | some (.tables elements) => some (Fields.insert entries key (.tables ([] :: elements)))
  | some _ => none

/-- A statement of a document. Keys are split at their last name. -/
inductive Statement where
  /-- A header for a table. -/
  | table (path : List String) (key : String)
  /-- A header for a table of an array. -/
  | element (path : List String) (key : String)
  /-- A key-value pair. -/
  | pair (path : List String) (key : String) (node : Node)

/-- **An assembly**: the table of a document so far, and where the last header leads. -/
structure Assembly where
  root : Entries
  heading : List String

namespace Assembly

/-- The assembly of no statements. -/
def start : Assembly :=
  ⟨[], []⟩

/-- Takes a statement in. -/
def step? (assembly : Assembly) : Statement → Option Assembly
  | .table path key =>
    (within? (openTable? key) path assembly.root).map (⟨·, path ++ [key]⟩)
  | .element path key =>
    (within? (openElement? key) path assembly.root).map (⟨·, path ++ [key]⟩)
  | .pair path key node =>
    (within? (define? · path key node) assembly.heading assembly.root).map
      ({ assembly with root := · })

end Assembly

/-- **The table of a document**, if its statements agree. -/
def Statement.assemble? (statements : List Statement) : Option Node :=
  (statements.foldlM Assembly.step? Assembly.start).map fun assembly =>
    .table (Item.toNodes assembly.root)

/-- The table that the pairs between two braces make, if they agree. -/
def inlineTable? (pairs : List (List String × String × Node)) : Option Node :=
  (pairs.foldlM (fun entries pair => define? entries pair.1 pair.2.1 pair.2.2) []).map
    fun entries => .table (Item.toNodes entries)

end Reshape.Toml
