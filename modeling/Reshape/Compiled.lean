import Reshape.Notice

/-!
# Compiled mappings

A compiled mapping holds, for each direction, tables that are keyed by the field names of that
direction's input: the new name of each field, and what happens to its value on the way. A mapping
is compiled once and then used for any number of records, in both directions.

When two fields have the same target, the tables of the reverse direction hold the entries of the
later one.

## Main definitions

* `Direction`: forward, from source records to target records, or in reverse
* `Side φ μ`: the tables of one direction
* `Compiled φ`: the tables of both directions
* `Compiled.ofMapping`: the tables of a mapping
* `Notice.ofMapping`: the notices made when a mapping is compiled
-/

namespace Reshape

/-- Which way a record is mapped. -/
inductive Direction where
  /-- From source record to target record. -/
  | forward
  /-- From target record back to source record. -/
  | reverse
  deriving DecidableEq

/-- The other direction. -/
def Direction.reversed : Direction → Direction
  | forward => reverse
  | reverse => forward

/-- **The tables of one direction**, keyed by the field names of its input. -/
structure Side (φ μ : Type) where
  /-- The new names of the fields, in the order of the rules. -/
  rename : List (String × String)
  /-- The transforms of whole values. -/
  scalar : List (String × φ)
  /-- The transforms of the elements of arrays. -/
  element : List (String × φ)
  /-- The mappings of nested records. -/
  nested : List (String × μ)

/-- **A compiled mapping**: the field names of both records, and the tables of both directions. -/
structure Compiled (φ : Type) where
  /-- The fields of source records. -/
  sourceKeys : List String
  /-- The fields of target records. -/
  targetKeys : List String
  /-- The fields of target records that hold nested records. -/
  nestedTargetKeys : List String
  /-- The tables for mapping forward. -/
  forward : Side φ (Compiled φ)
  /-- The tables for mapping in reverse. -/
  reverse : Side φ (Compiled φ)

/-- What a compiled rule adds to the tables: the entry under both names of the field. -/
structure Link (α : Type) where
  /-- The name in source records. -/
  field : String
  /-- The name in target records. -/
  target : String
  /-- The entry when mapping forward. -/
  there : α
  /-- The entry when mapping in reverse. -/
  back : α

namespace Link

variable {α : Type}

/-- The entries of a table for mapping forward. -/
def forwardTable (links : List (Link α)) : Fields α :=
  Fields.ofList (links.map fun link => (link.field, link.there))

/-- The entries of a table for mapping in reverse. -/
def reverseTable (links : List (Link α)) : Fields α :=
  Fields.ofList (links.map fun link => (link.target, link.back))

end Link

/-- Names in order of their first occurrence. -/
def distinctNames (names : List String) : List String :=
  Fields.keys (Fields.ofList (names.map fun name => (name, ())))

namespace Mapping

variable {φ : Type}

/-- The links of the new names. -/
def renames (mapping : Mapping φ) : List (Link String) :=
  mapping.map fun entry => ⟨entry.1, entry.2.target, entry.2.target, entry.1⟩

/-- The link of a rule that converts at a grain. -/
def converter? (grain : Grain) : String × Rule φ → Option (Link φ)
  | (field, .convert grain' target there back) =>
    if grain' = grain then some ⟨field, target, there, back⟩ else none
  | _ => none

/-- The links of the rules that convert at a grain. -/
def converters (grain : Grain) (mapping : Mapping φ) : List (Link φ) :=
  mapping.filterMap (converter? grain)

end Mapping

namespace Compiled

variable {φ : Type}

/-- The tables of a mapping, given the links of its nested mappings. -/
def assemble (mapping : Mapping φ) (children : List (Link (Compiled φ))) : Compiled φ where
  sourceKeys := distinctNames mapping.fields
  targetKeys := distinctNames mapping.targets
  nestedTargetKeys := distinctNames (children.map Link.target)
  forward :=
    { rename := Link.forwardTable (Mapping.renames mapping)
      scalar := Link.forwardTable (Mapping.converters .whole mapping)
      element := Link.forwardTable (Mapping.converters .elements mapping)
      nested := Link.forwardTable children }
  reverse :=
    { rename := Link.reverseTable (Mapping.renames mapping)
      scalar := Link.reverseTable (Mapping.converters .whole mapping)
      element := Link.reverseTable (Mapping.converters .elements mapping)
      nested := Link.reverseTable children }

mutual

/-- The compiled mapping inside a rule, if there is one. -/
def ofRule? : Rule φ → Option (Compiled φ)
  | .copy _ => none
  | .convert _ _ _ _ => none
  | .nest _ _ rules => some (assemble rules (links rules))
termination_by structural rule => rule

/-- The links of the nested mappings among rules. -/
def links : List (String × Rule φ) → List (Link (Compiled φ))
  | [] => []
  | (field, rule) :: rest =>
    match ofRule? rule with
    | some child => ⟨field, rule.target, child, child⟩ :: links rest
    | none => links rest
termination_by structural rules => rules

end

/-- **The compiled mapping**. Compiling never fails. -/
def ofMapping (mapping : Mapping φ) : Compiled φ :=
  assemble mapping (links mapping)

/-- The tables of a direction. -/
def side (compiled : Compiled φ) : Direction → Side φ (Compiled φ)
  | .forward => compiled.forward
  | .reverse => compiled.reverse

/-- The compiled mapping of no rules. -/
def empty : Compiled φ :=
  ofMapping []

end Compiled

namespace Notice

variable {φ : Type}

/-- The notice that a field competes with the last field before it of the same target, if one
does. -/
def collisions (owners : Fields String) (field target : String) : List Notice :=
  match Fields.get? owners target with
  | some earlier => if earlier = field then [] else [.collision target earlier field]
  | none => []

mutual

/-- The notices made when the mapping inside a rule is compiled. -/
def ofRule (field : String) : Rule φ → List Notice
  | .copy _ => []
  | .convert _ _ _ _ => []
  | .nest arity target rules => .nested arity.kind field target :: ofRules [] 0 0 rules
termination_by structural rule => rule

/-- The notices made when rules are compiled. `owners` tells the last field of each target so far,
and the two numbers count the fields and the nested mappings so far. -/
def ofRules (owners : Fields String) (fields inner : Nat) : List (String × Rule φ) → List Notice
  | [] => [.compiled fields inner]
  | (field, rule) :: rest =>
    collisions owners field rule.target ++ ofRule field rule ++
      ofRules (Fields.insert owners rule.target field) (fields + 1)
        (if rule.nested?.isSome then inner + 1 else inner) rest
termination_by structural rules => rules

end

/-- **The notices of a mapping**: for every level, each competition for a target when the later
field comes up, the notices of nested mappings in their places, and at the end the size. -/
def ofMapping (mapping : Mapping φ) : List Notice :=
  ofRules [] 0 0 mapping

end Notice

end Reshape
