import Reshape.Fields

/-!
# Rules

A rule says how one field of a source record corresponds to one field of a target record: renamed
only, converted by a pair of transforms, or mapped by rules of its own. Rules are the same whether
their transforms are functions or the names of functions; the type of rules leaves that open.

## Main definitions

* `Rule φ`: rules whose transforms are given by `φ`
* `RuleKind`: the five kinds of rules
* `Mapping φ`: rules under the names of their source fields
* `Mapping.mapM`: a mapping with every transform looked up
-/

namespace Reshape

/-- What a pair of transforms converts: the field's value, or the elements of an array that may be
null. -/
inductive Grain where
  | whole
  | elements
  deriving DecidableEq

/-- What the rules inside a rule are meant for: one object, or the objects of an array. -/
inductive Arity where
  | one
  | many
  deriving DecidableEq

/-- **A rule** for one field, writing a field of the name `target`. -/
inductive Rule (φ : Type) where
  /-- The value is copied. -/
  | copy (target : String)
  /-- The value is converted `there` when mapping forward and `back` when mapping in reverse. -/
  | convert (grain : Grain) (target : String) (there back : φ)
  /-- The value is mapped by rules of its own. -/
  | nest (arity : Arity) (target : String) (rules : List (String × Rule φ))

/-- **A mapping**: rules under the names of their source fields, in order. -/
abbrev Mapping (φ : Type) : Type := Fields (Rule φ)

/-- The kinds of rules. -/
inductive RuleKind where
  | copy
  | property
  | array
  | nestedObject
  | objectArray
  deriving DecidableEq

/-- The name of a kind of rule. -/
def RuleKind.name : RuleKind → String
  | copy => "alias"
  | property => "property"
  | array => "array"
  | nestedObject => "nested_object"
  | objectArray => "object_array"

/-- The kind of the rules that convert at a grain. -/
def Grain.kind : Grain → RuleKind
  | whole => .property
  | elements => .array

/-- The kind of the rules that nest at an arity. -/
def Arity.kind : Arity → RuleKind
  | one => .nestedObject
  | many => .objectArray

namespace Rule

variable {φ ψ : Type}

/-- The name of the field that a rule writes. -/
def target : Rule φ → String
  | copy target => target
  | convert _ target _ _ => target
  | nest _ target _ => target

/-- The kind of a rule. -/
def kind : Rule φ → RuleKind
  | copy _ => .copy
  | convert grain _ _ _ => grain.kind
  | nest arity _ _ => arity.kind

/-- The rules inside a rule. -/
def nested? : Rule φ → Option (Mapping φ)
  | nest _ _ rules => some rules
  | _ => none

variable {m : Type → Type} [Monad m]

mutual

/-- A rule with every transform looked up, `there` before `back`. -/
def mapM (look : φ → m ψ) : Rule φ → m (Rule ψ)
  | copy target => pure (copy target)
  | convert grain target there back => do
    let there ← look there
    let back ← look back
    pure (convert grain target there back)
  | nest arity target rules => do
    let rules ← mapAllM look rules
    pure (nest arity target rules)
termination_by structural rule => rule

/-- Rules under names with every transform looked up, in order. -/
def mapAllM (look : φ → m ψ) : List (String × Rule φ) → m (List (String × Rule ψ))
  | [] => pure []
  | (field, rule) :: rest => do
    let rule ← rule.mapM look
    let rest ← mapAllM look rest
    pure ((field, rule) :: rest)
termination_by structural rules => rules

end

end Rule

namespace Mapping

variable {φ ψ : Type}

/-- The names of the source fields, in order. -/
def fields (mapping : Mapping φ) : List String :=
  Fields.keys mapping

/-- The names of the target fields, in order of their rules. -/
def targets (mapping : Mapping φ) : List String :=
  mapping.map fun entry => entry.2.target

/-- **The mapping with every transform looked up**, in the order of the rules, depth first. -/
def mapM {m : Type → Type} [Monad m] (look : φ → m ψ) (mapping : Mapping φ) : m (Mapping ψ) :=
  Rule.mapAllM look mapping

end Mapping

end Reshape
