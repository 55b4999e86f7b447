import Reshape.Definition.Node
import Reshape.Error
import Reshape.Json.Printer

/-!
# Definitions in JSON

The JSON form of a definition: an object that gives each field the target of its alias as a string,
or its rule as an object.

## Main definitions

* `Definition.toValue`: the value that stands for a definition
* `Definition.toJson`: the indented JSON text of a definition
* `Definition.ofJson`: the definition that a JSON text describes
-/

namespace Reshape

namespace Rule

mutual

/-- The value that stands for a rule. -/
def toValue : Rule String → Value
  | .copy target => .string target
  | .convert grain target there back =>
    .object [("rule", .string grain.kind.name), ("target", .string target),
      ("transform", .string there), ("reverse", .string back)]
  | .nest arity target rules =>
    .object [("rule", .string arity.kind.name), ("target", .string target),
      ("mapping", .object (toFields rules))]
termination_by structural rule => rule

/-- The fields that stand for rules. -/
def toFields : List (String × Rule String) → List (String × Value)
  | [] => []
  | (field, rule) :: rest => (field, rule.toValue) :: toFields rest
termination_by structural rules => rules

end

end Rule

namespace Definition

/-- The value that stands for a definition. -/
def toValue (definition : Definition) : Value :=
  .object (Rule.toFields definition)

/-- **The JSON text of a definition**. -/
def toJson (definition : Definition) : String :=
  Json.pretty definition.toValue

/-- **The definition that a JSON text describes**. -/
def ofJson (text : String) : Except Error Definition :=
  match (Json.read? text).bind fun v => ofNode? (Node.ofValue v) with
  | some definition => .ok definition
  | none => .error .json

end Definition

end Reshape
