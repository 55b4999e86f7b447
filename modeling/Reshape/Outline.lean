import Reshape.Registry
import Reshape.Text.Quoted

/-!
# Outlines

The one-line texts that show how a mapping, a mapper or a registry is built, for those who look at
one while they search for a mistake. Transforms have no text of their own and are left out.

## Main definitions

* `Outline.record`, `Outline.tuple`, `Outline.list`, `Outline.table`: the texts of compound things
* `Spec.outline`, `Mapper.outline`, `Registry.outline`
-/

namespace Reshape

namespace Outline

/-- Parts with commas between them. -/
def separated (parts : List String) : String :=
  String.intercalate ", " parts

/-- A record: its name and its fields, ending in two points if some are left out. -/
def record (name : String) (fields : List (String × String)) (complete : Bool) : String :=
  let shown := fields.map fun field => field.1 ++ ": " ++ field.2
  name ++ " \x7b " ++ separated (if complete then shown else shown ++ [".."]) ++ " \x7d"

/-- A name applied to one thing. -/
def tuple (name part : String) : String :=
  name ++ "(" ++ part ++ ")"

/-- A list of things. -/
def list (parts : List String) : String :=
  "[" ++ separated parts ++ "]"

/-- Things under names. -/
def table (entries : List (String × String)) : String :=
  "\x7b" ++ separated (entries.map fun entry => Text.quoted entry.1 ++ ": " ++ entry.2) ++ "\x7d"

/-- A list of names. -/
def names (names : List String) : String :=
  list (names.map Text.quoted)

/-- A mapping whose rules have the given outlines. -/
def mapping (rules : List (String × String)) : String :=
  record "MappingSpec" [("rules", table rules)] true

end Outline

namespace Rule

variable {φ : Type}

mutual

/-- The outline of a rule. -/
def outline : Rule φ → String
  | .copy target => Outline.tuple "Alias" (Text.quoted target)
  | .convert .whole target _ _ =>
    Outline.record "Property" [("target_key", Text.quoted target)] false
  | .convert .elements target _ _ =>
    Outline.record "ArrayOfScalars" [("target_key", Text.quoted target)] false
  | .nest .one target rules =>
    Outline.record "NestedObject"
      [("target_key", Text.quoted target), ("nested", Outline.mapping (outlines rules))] true
  | .nest .many target rules =>
    Outline.record "ArrayOfObjects"
      [("target_key", Text.quoted target), ("nested", Outline.mapping (outlines rules))] true
termination_by structural rule => rule

/-- The outlines of rules under their names. -/
def outlines : List (String × Rule φ) → List (String × String)
  | [] => []
  | (field, rule) :: rest => (field, rule.outline) :: outlines rest
termination_by structural rules => rules

end

end Rule

/-- **The outline of a mapping**. -/
def Mapping.outline {φ : Type} (mapping : Mapping φ) : String :=
  Outline.mapping (Rule.outlines mapping)

namespace Compiled

variable {φ : Type}

/-- The outline of a compiled mapping whose nested mappings have the given outlines. -/
def outlineWith (sourceKeys targetKeys : List String) (renames : List (String × String))
    (nested : Fields String) : String :=
  let inOrder := renames.filterMap fun entry =>
    (Fields.get? nested entry.1).map fun text => (entry.1, text)
  Outline.record "CompiledMapping"
    [("source_keys", Outline.names sourceKeys), ("target_keys", Outline.names targetKeys),
      ("renames", Outline.table (renames.map fun entry => (entry.1, Text.quoted entry.2))),
      ("nested", Outline.table inOrder)]
    false

mutual

/-- The outline of a compiled mapping: its field names, and the forward tables that have a text. -/
def outline : Compiled φ → String
  | ⟨sourceKeys, targetKeys, _, forward, _⟩ =>
    outlineWith sourceKeys targetKeys forward.rename (outlineSide forward)
termination_by structural compiled => compiled

/-- The outlines of the nested mappings of a side. -/
def outlineSide : Side φ (Compiled φ) → List (String × String)
  | ⟨_, _, _, nested⟩ => outlineAll nested
termination_by structural side => side

/-- The outlines of compiled mappings under their names. -/
def outlineAll : List (String × Compiled φ) → List (String × String)
  | [] => []
  | (name, compiled) :: rest => (name, compiled.outline) :: outlineAll rest
termination_by structural entries => entries

end

end Compiled

/-- **The outline of a mapper**. -/
def Mapper.outline (mapper : Mapper) : String :=
  Outline.record "Mapper" [("compiled", mapper.compiled.outline)] true

/-- **The outline of a registry**: the names of its transforms. -/
def Registry.outline (registry : Registry) : String :=
  Outline.record "TransformRegistry" [("functions", Outline.names registry.names)] true

end Reshape
