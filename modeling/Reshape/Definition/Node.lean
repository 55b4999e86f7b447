import Reshape.Definition.Basic
import Reshape.Json.Reader

/-!
# Definitions in documents

A definition is written down as a table of entries. An entry is a text, the target of an alias, or
a tagged rule: a table with the key `rule`, or a list that starts with the tag. This module reads
definitions from the tree of a document, whatever the document is written in.

## Main definitions

* `Node`: the trees of documents, as far as definitions are concerned
* `Node.ofValue`: the tree of a JSON value
* `Reading`: all that a node may be read as
* `Node.reading`: the readings of a node
* `Definition.ofNode?`: the definition that a tree describes
-/

namespace Reshape

/-- **A node** of a document. -/
inductive Node where
  /-- A text. -/
  | text (s : String)
  /-- A number that may stand for the tag at its position. -/
  | index (n : Nat)
  /-- Anything else without parts. -/
  | other
  /-- A list. -/
  | list (items : List Node)
  /-- A table, repeated keys among its entries if the document allows them. -/
  | table (entries : List (String × Node))

namespace Node

mutual

/-- The tree of a JSON value. An integer that is not negative may stand for a tag. -/
def ofValue : Value → Node
  | .null => other
  | .bool _ => other
  | .number (.int n _) => if 0 ≤ n then index n.toNat else other
  | .number (.double _) => other
  | .string s => text s
  | .array items => list (ofItems items)
  | .object fields => table (ofFields fields)
termination_by structural v => v

/-- The trees of the items of an array. -/
def ofItems : List Value → List Node
  | [] => []
  | item :: rest => ofValue item :: ofItems rest
termination_by structural items => items

/-- The trees of the fields of an object. -/
def ofFields : List (String × Value) → List (String × Node)
  | [] => []
  | (name, v) :: rest => (name, ofValue v) :: ofFields rest
termination_by structural fields => fields

end

end Node

/-- What a tag says about a rule. -/
inductive Tag where
  | convert (grain : Grain)
  | nest (arity : Arity)

namespace Tag

/-- The tags, in the order of their numbers. -/
def all : List Tag :=
  [convert .whole, convert .elements, nest .one, nest .many]

/-- The name of a tag. -/
def name : Tag → String
  | convert grain => grain.kind.name
  | nest arity => arity.kind.name

/-- The tag of a name. -/
def ofName? (s : String) : Option Tag :=
  all.find? fun tag => tag.name == s

end Tag

/-- **The readings of a node**: all that it may be taken for. -/
structure Reading where
  /-- The text that the node is. -/
  text? : Option String
  /-- The tag that the node is. -/
  tag? : Option Tag
  /-- The mapping that the node is. -/
  mapping? : Option Definition
  /-- The rule that the node is. -/
  rule? : Option (Rule String)

namespace Reading

/-- A node that can be taken for nothing. -/
def nothing : Reading :=
  ⟨none, none, none, none⟩

/-- The rule that a tag, a target and the two remaining parts make. -/
def convertRule? (grain : Grain) (target there back : Reading) : Option (Rule String) := do
  let target ← target.text?
  let there ← there.text?
  let back ← back.text?
  some (.convert grain target there back)

/-- The rule that a tag, a target and a mapping make. -/
def nestRule? (arity : Arity) (target mapping : Reading) : Option (Rule String) := do
  let target ← target.text?
  let rules ← mapping.mapping?
  some (.nest arity target rules)

/-- The reading of a key that occurs exactly once. -/
def only? (entries : List (String × Reading)) (key : String) : Option Reading :=
  match entries.filter fun entry => entry.1 == key with
  | [entry] => some entry.2
  | _ => none

/-- The rule that the entries of a table describe. Keys that the rule does not have are ignored. -/
def ruleOfTable? (entries : List (String × Reading)) : Option (Rule String) := do
  let tag ← (← only? entries "rule").tag?
  let target ← only? entries "target"
  match tag with
  | .convert grain =>
    convertRule? grain target (← only? entries "transform") (← only? entries "reverse")
  | .nest arity => nestRule? arity target (← only? entries "mapping")

/-- The rule that the items of a list describe: the tag and then the parts, without any more. -/
def ruleOfList? : List Reading → Option (Rule String)
  | [tag, target, there, back] =>
    match tag.tag? with
    | some (.convert grain) => convertRule? grain target there back
    | _ => none
  | [tag, target, mapping] =>
    match tag.tag? with
    | some (.nest arity) => nestRule? arity target mapping
    | _ => none
  | _ => none

/-- The rules that the entries of a table describe, each entry one. -/
def rules? : List (String × Reading) → Option (List (String × Rule String))
  | [] => some []
  | (field, reading) :: rest => do
    let rule ← reading.rule?
    let rest ← rules? rest
    some ((field, rule) :: rest)

/-- The reading of a list: the rule that its items describe. -/
def ofItems (items : List Reading) : Reading :=
  { nothing with rule? := ruleOfList? items }

/-- The reading of a table: the mapping that its entries describe, in which a repeated key keeps
its first place and its last rule, and the rule. -/
def ofEntries (entries : List (String × Reading)) : Reading :=
  { nothing with
    mapping? := (rules? entries).map Fields.ofList
    rule? := ruleOfTable? entries }

end Reading

namespace Node

mutual

/-- **The readings of a node**. -/
def reading : Node → Reading
  | text s => ⟨some s, Tag.ofName? s, none, some (.copy s)⟩
  | index n => { Reading.nothing with tag? := Tag.all[n]? }
  | other => Reading.nothing
  | list items => Reading.ofItems (readings items)
  | table entries => Reading.ofEntries (entryReadings entries)
termination_by structural node => node

/-- The readings of the items of a list. -/
def readings : List Node → List Reading
  | [] => []
  | item :: rest => item.reading :: readings rest
termination_by structural items => items

/-- The readings of the entries of a table. -/
def entryReadings : List (String × Node) → List (String × Reading)
  | [] => []
  | (key, node) :: rest => (key, node.reading) :: entryReadings rest
termination_by structural entries => entries

end

end Node

/-- **The definition that a tree describes**: the tree must be a table of entries. -/
def Definition.ofNode? (node : Node) : Option Definition :=
  node.reading.mapping?

end Reshape
