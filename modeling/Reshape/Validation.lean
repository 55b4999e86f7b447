import Reshape.Rule
import Reshape.Error

/-!
# Validation

A mapping can be compiled whatever its names are. Validation is for those who want ambiguous
mappings refused: it finds the first rule, depth first, whose names are empty or whose target
another field has taken.

## Main definitions

* `Violation`: what is wrong, and where
* `Violation.message`: the text of a violation
* `Mapping.violation?`: the first violation in a mapping
* `Mapping.validate`: the violation as an error
-/

namespace Reshape

/-- **A violation**. `path` lists the fields from the root down to the mapping that is at fault. -/
inductive Violation where
  /-- A field has no name. -/
  | emptyField (path : List String)
  /-- A field's target has no name. -/
  | emptyTarget (path : List String) (field : String)
  /-- Two fields have one target. -/
  | sharedTarget (path : List String) (earlier later target : String)
  deriving DecidableEq

namespace Violation

/-- A path as text, from the root down. -/
def chain (path : List String) : String :=
  String.intercalate "." path

/-- **The text of a violation**. -/
def message : Violation → String
  | emptyField [] => "Field name cannot be empty"
  | emptyField path => .join ["Field name cannot be empty in ", chain path]
  | emptyTarget path field => .join ["Field ", chain (path ++ [field]), " has an empty target key"]
  | sharedTarget path earlier later target =>
    .join ["Fields ", chain (path ++ [earlier]), " and ", chain (path ++ [later]),
      " both map to target key '", target, "'"]

end Violation

namespace Mapping

variable {φ : Type}

/-- The violation of a rule's own names, given the earlier fields under their targets. -/
def ownViolation? (path : List String) (owners : Fields String) (field target : String) :
    Option Violation :=
  if field = "" then some (.emptyField path)
  else if target = "" then some (.emptyTarget path field)
  else (Fields.get? owners target).map fun earlier => .sharedTarget path earlier field target

mutual

/-- The first violation inside a rule. -/
def ruleViolation? (path : List String) : Rule φ → Option Violation
  | .copy _ => none
  | .convert _ _ _ _ => none
  | .nest _ _ rules => rulesViolation? path [] rules
termination_by structural rule => rule

/-- The first violation among rules, given the earlier fields under their targets. -/
def rulesViolation? (path : List String) (owners : Fields String) :
    List (String × Rule φ) → Option Violation
  | [] => none
  | (field, rule) :: rest =>
    ((ownViolation? path owners field rule.target).or (ruleViolation? (path ++ [field]) rule)).or
      (rulesViolation? path (Fields.insert owners rule.target field) rest)
termination_by structural rules => rules

end

/-- **The first violation** in a mapping: rule by rule, an empty field name, an empty target, a
target that an earlier field has taken, then the violations inside the rule. -/
def violation? (mapping : Mapping φ) : Option Violation :=
  rulesViolation? [] [] mapping

/-- Refuses a mapping with a violation. -/
def validate (mapping : Mapping φ) : Except Error Unit :=
  match mapping.violation? with
  | some violation => .error (.invalidMapping violation.message)
  | none => .ok ()

end Mapping

end Reshape
