import Reshape.Rule

/-!
# Definitions

A definition is a mapping written down as data: its transforms are names, to be looked up later.
Two definitions are the same if they give the same fields the same rules; the order of the fields
does not count, at any level.

## Main definitions

* `Definition`: a mapping whose transforms are names
* `Definition.same`: whether two definitions are the same
-/

namespace Reshape

/-- **A definition**: a mapping whose transforms are names. -/
abbrev Definition : Type := Mapping String

namespace Rule

mutual

/-- Whether two rules are the same. -/
def same : Rule String → Rule String → Bool
  | .copy target, .copy target' => target == target'
  | .convert grain target there back, .convert grain' target' there' back' =>
    grain == grain' && target == target' && there == there' && back == back'
  | .nest arity target rules, .nest arity' target' rules' =>
    arity == arity' && target == target' && rules.length == rules'.length &&
      allSame rules rules'
  | _, _ => false
termination_by structural rule => rule

/-- Whether each field of the first mapping has the same rule in the second. -/
def allSame : List (String × Rule String) → List (String × Rule String) → Bool
  | [], _ => true
  | (field, rule) :: rest, others =>
    (match Fields.get? others field with
      | some other => rule.same other
      | none => false) && allSame rest others
termination_by structural rules => rules

end

end Rule

/-- **Whether two definitions are the same**, the order of fields aside. -/
def Definition.same (left right : Definition) : Bool :=
  left.length == right.length && Rule.allSame left right

end Reshape
