import Reshape.Definition.Toml
import Reshape.Proofs.Saving
import Reshape.Proofs.Toml.Reading

/-!
# Definitions in two formats

A definition is one value, whichever format it is written in. In TOML it takes a line for each field
of its top level: an alias is a string, any other rule an inline table with the keys that it has in
JSON, and the rules inside a rule are an inline table in that table. Each such text is read as the
definition, its fields in order at every level, and so is its JSON text: up to 30 levels of rules
open fewer tables and objects at once than either reader allows.

## Main definitions

* `Mapping.depth`: how many rules stand inside one another
* `Definition.SpeltInToml`: the TOML texts of a definition
* `Definition.toToml`: one of them

## Main results

* `Definition.ofToml_of_speltInToml`: a definition is read from each of its TOML texts
* `Definition.formats_agree`: its TOML texts and its JSON text are read as the same definition
-/

namespace Reshape

variable {φ : Type}

/-! ### Depth -/

namespace Rule

mutual

/-- How many rules with rules inside stand inside one another in a rule, itself counted. -/
def depth : Rule φ → Nat
  | copy _ => 0
  | convert _ _ _ _ => 0
  | nest _ _ rules => depthAll rules + 1
termination_by structural rule => rule

/-- The depth of the deepest rule. -/
def depthAll : List (String × Rule φ) → Nat
  | [] => 0
  | (_, rule) :: rest => max rule.depth (depthAll rest)
termination_by structural rules => rules

end

end Rule

/-- **The depth of a mapping**: how many rules with rules inside stand inside one another. -/
def Mapping.depth (mapping : Mapping φ) : Nat :=
  Rule.depthAll mapping

namespace Rule

mutual

/-- A rule with rules inside is two objects, itself and its mapping; any other at most one. -/
theorem nesting_toValue_le : ∀ rule : Rule String, rule.toValue.nesting ≤ 2 * rule.depth + 1
  | .copy _ => Nat.zero_le _
  | .convert _ _ _ _ => Nat.le_refl _
  | .nest arity target rules => by
    have hr := nestingFields_toFields_le rules
    have hn : (nest arity target rules).toValue.nesting =
        Value.nestingFields (toFields rules) + 2 := by
      simp [toValue, Value.nesting, Value.nestingFields]
    rw [hn, depth]
    omega
termination_by structural rule => rule

theorem nestingFields_toFields_le : ∀ rules : List (String × Rule String),
    Value.nestingFields (toFields rules) ≤ 2 * depthAll rules + 1
  | [] => Nat.zero_le _
  | (_, rule) :: rest => by
    have hrule := nesting_toValue_le rule
    have hrest := nestingFields_toFields_le rest
    rw [toFields, Value.nestingFields, depthAll]
    omega
termination_by structural rules => rules

end

/-! ### Keys -/

theorem keys_toFields (rules : List (String × Rule String)) :
    Fields.keys (toFields rules) = Fields.keys rules := by
  induction rules with
  | nil => rfl
  | cons entry rest ih => rw [toFields, Fields.keys_cons, Fields.keys_cons, ih]

mutual

/-- The value of a rule repeats no key, if no two rules of a level have one field. -/
theorem distinct_toValue : ∀ rule : Rule String, rule.Within Fields.Distinct →
    rule.toValue.Distinct
  | .copy _, _ => trivial
  | .convert _ _ _ _, _ => by
    refine ⟨?_, trivial, trivial, trivial, trivial, trivial⟩
    simp [Fields.Distinct]
  | .nest _ _ rules, ⟨hd, hw⟩ => by
    refine ⟨?_, trivial, trivial, ⟨?_, fieldsDistinct_toFields rules hw⟩, trivial⟩
    · simp [Fields.Distinct]
    · rwa [Fields.Distinct, keys_toFields]
termination_by structural rule => rule

theorem fieldsDistinct_toFields : ∀ rules : List (String × Rule String),
    AllWithin Fields.Distinct rules → Value.FieldsDistinct (toFields rules)
  | [], _ => trivial
  | (_, rule) :: rest, ⟨hr, hs⟩ => ⟨distinct_toValue rule hr, fieldsDistinct_toFields rest hs⟩
termination_by structural rules => rules

end

end Rule

/-! ### Two formats -/

namespace Definition

/-- **The TOML texts of a definition**: one line for each field, with the rule as a string or an
inline table. -/
def SpeltInToml (definition : Definition) (text : String) : Prop :=
  Toml.SpellsLines (Rule.toFields definition) text.toList

/-- **A TOML text of a definition**. -/
def toToml (definition : Definition) : String :=
  String.ofList (Toml.lines (Rule.toFields definition))

theorem speltInToml_toToml (definition : Definition) : definition.SpeltInToml definition.toToml := by
  rw [SpeltInToml, toToml, String.toList_ofList]
  exact Toml.spellsLines_lines (Rule.allTextual_toFields definition)

example : toToml [("é\n", .copy "a"), ("pets", .nest .many "b" [("\x7f", .copy "\"")])] =
    "\"é\\n\" = \"a\"\n" ++
      "\"pets\" = \x7b\"rule\" = \"object_array\", \"target\" = \"b\", " ++
      "\"mapping\" = \x7b\"\\u007f\" = \"\\\"\"\x7d\x7d\n" := rfl

/-- **A definition is read from each of its TOML texts** if no value opens more inline tables than
the reader allows. -/
theorem ofToml_of_speltInToml {definition : Definition} (hk : definition.Keyed)
    (hn : Value.nestingFields (Rule.toFields definition) ≤ Toml.nestingLimit) {text : String}
    (h : definition.SpeltInToml text) : ofToml text = .ok definition := by
  have hd : Fields.Distinct (Rule.toFields definition) := by
    rw [Fields.Distinct, Rule.keys_toFields]
    exact hk.here
  have hr := Toml.read?_of_spells h hd (Rule.fieldsDistinct_toFields definition hk.2) hn
  have ht : Node.table (Node.ofFields (Rule.toFields definition)) =
      Node.ofValue definition.toValue := rfl
  rw [ofToml, hr, Option.bind_some, ht, ofNode?_toValue hk]

/-- **The formats agree.** A definition with rules at most 30 deep has TOML texts, and is read from
each of them and from its JSON text, with the same fields in the same order at every level. -/
theorem formats_agree {definition : Definition} (hk : definition.Keyed)
    (hd : definition.depth ≤ 30) :
    definition.SpeltInToml definition.toToml ∧
    ∀ text, definition.SpeltInToml text →
      ofToml text = .ok definition ∧ ofToml text = ofJson definition.toJson := by
  have hn : Value.nestingFields (Rule.toFields definition) ≤ 2 * definition.depth + 1 :=
    Rule.nestingFields_toFields_le definition
  have htoml : Value.nestingFields (Rule.toFields definition) ≤ Toml.nestingLimit := by
    rw [Toml.nestingLimit]
    omega
  have hjson : definition.toValue.nesting ≤ Json.nestingLimit := by
    rw [toValue, Value.nesting, Json.nestingLimit]
    omega
  have ht : definition.toValue.Textual := Rule.allTextual_toFields definition
  refine ⟨speltInToml_toToml definition, fun text h => ?_⟩
  have hread := ofToml_of_speltInToml hk htoml h
  refine ⟨hread, ?_⟩
  rw [hread, ofJson, toJson, Json.read?_pretty ht, if_pos hjson, Option.bind_some,
    ofNode?_toValue hk]

/-- Names that must be escaped, and three levels of rules. -/
theorem formats_agree_unprintable :
    Example.unprintable.Keyed ∧ Mapping.depth Example.unprintable ≤ 30 ∧
    ofToml (toToml Example.unprintable) = .ok Example.unprintable ∧
    ofJson (toJson Example.unprintable) = .ok Example.unprintable := by
  have hk : Example.unprintable.Keyed := by decide
  have hd : Mapping.depth Example.unprintable ≤ 30 := by decide
  obtain ⟨hs, hread⟩ := formats_agree hk hd
  obtain ⟨htoml, hjson⟩ := hread _ hs
  exact ⟨hk, hd, htoml, hjson.symm.trans htoml⟩

end Definition

end Reshape
