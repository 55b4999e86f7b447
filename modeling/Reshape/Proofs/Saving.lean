import Reshape.Definition.Json
import Reshape.Example.Definitions
import Reshape.Proofs.Json.Nesting
import Reshape.Proofs.Levels

/-!
# Definitions saved and loaded

What is written as the JSON text of a definition is read back as that definition, the order of the
fields at every level included, as long as the text does not open more objects at once than the
reader allows. Names may be any strings: they are escaped, and no name is taken for a key of a rule.

## Main results

* `Rule.reading_toValue`: a rule is read from the value that stands for it
* `Definition.ofNode?_toValue`: a definition is read from the value that stands for it
* `Definition.ofJson_toJson`: a definition is read from its JSON text, up to the limit
-/

namespace Reshape

namespace Rule

mutual

/-- The value that stands for a rule is made of strings and objects. -/
theorem textual_toValue : ∀ rule : Rule String, rule.toValue.Textual
  | .copy _ => trivial
  | .convert _ _ _ _ => ⟨trivial, trivial, trivial, trivial, trivial⟩
  | .nest _ _ rules => ⟨trivial, trivial, allTextual_toFields rules, trivial⟩
termination_by structural rule => rule

theorem allTextual_toFields : ∀ rules : List (String × Rule String),
    Value.AllTextual (toFields rules)
  | [] => trivial
  | (_, rule) :: rest => ⟨textual_toValue rule, allTextual_toFields rest⟩
termination_by structural rules => rules

end

/-- A table with the keys of a nesting rule is read as the rule, whose rules are those that the
entries of the mapping describe. -/
theorem reading_nest (arity : Arity) (target : String) (entries : List (String × Node)) :
    (Node.table [("rule", .text arity.kind.name), ("target", .text target),
        ("mapping", .table entries)]).reading.rule? =
      (Reading.rules? (Node.entryReadings entries)).map fun rules =>
        .nest arity target (Fields.ofList rules) := by
  have hn : (Node.table [("rule", .text arity.kind.name), ("target", .text target),
        ("mapping", .table entries)]).reading.rule? =
      Reading.nestRule? arity (Node.text target).reading (Node.table entries).reading := by
    cases arity <;> rfl
  have hm : (Node.table entries).reading.mapping? =
      (Reading.rules? (Node.entryReadings entries)).map Fields.ofList := rfl
  rw [hn, Reading.nestRule?, hm]
  cases Reading.rules? (Node.entryReadings entries) <;> rfl

mutual

/-- **A rule is read from the value that stands for it.** -/
theorem reading_toValue : ∀ rule : Rule String, rule.Within Fields.Distinct →
    (Node.ofValue rule.toValue).reading.rule? = some rule
  | .copy _, _ => rfl
  | .convert grain _ _ _, _ => by cases grain <;> rfl
  | .nest arity target rules, ⟨hd, hw⟩ => by
    have hr := rules?_toFields rules hw
    have hn := reading_nest arity target (Node.ofFields (toFields rules))
    rw [hr, Option.map_some, Fields.ofList_of_distinct hd] at hn
    exact hn
termination_by structural rule => rule

theorem rules?_toFields : ∀ rules : List (String × Rule String),
    AllWithin Fields.Distinct rules →
    Reading.rules? (Node.entryReadings (Node.ofFields (toFields rules))) = some rules
  | [], _ => rfl
  | (field, rule) :: rest, ⟨hr, hs⟩ => by
    have hrule := reading_toValue rule hr
    have hrest := rules?_toFields rest hs
    simp [toFields, Node.ofFields, Node.entryReadings, Reading.rules?, hrule, hrest]
termination_by structural rules => rules

end

end Rule

namespace Definition

/-- **A definition is read from the value that stands for it.** -/
theorem ofNode?_toValue {definition : Definition} (h : definition.Keyed) :
    ofNode? (Node.ofValue definition.toValue) = some definition := by
  have hr := Rule.rules?_toFields definition h.2
  have hm : ofNode? (Node.ofValue definition.toValue) =
      (Reading.rules? (Node.entryReadings (Node.ofFields (Rule.toFields definition)))).map
        Fields.ofList := rfl
  rw [hm, hr, Option.map_some, Fields.ofList_of_distinct h.here]

/-- As many brackets are open at once in the text as stand inside one another in the value. -/
theorem openAtOnce_toJson (definition : Definition) :
    Json.openAtOnce definition.toJson = definition.toValue.nesting :=
  Json.openAtOnce_pretty (Rule.allTextual_toFields definition : definition.toValue.Textual)

/-- **A definition is read from its JSON text**, with the fields in their order at every level, if
no more than 127 brackets are open at once in the text; otherwise the text is refused. -/
theorem ofJson_toJson {definition : Definition} (h : definition.Keyed) :
    ofJson definition.toJson =
      if Json.openAtOnce definition.toJson ≤ 127 then .ok definition else .error .json := by
  have ht : definition.toValue.Textual := Rule.allTextual_toFields definition
  rw [openAtOnce_toJson, ofJson, toJson, Json.read?_pretty ht]
  by_cases hl : definition.toValue.nesting ≤ Json.nestingLimit
  · have hl' : definition.toValue.nesting ≤ 127 := hl
    rw [if_pos hl, if_pos hl', Option.bind_some, ofNode?_toValue h]
  · have hl' : ¬ definition.toValue.nesting ≤ 127 := hl
    rw [if_neg hl, if_neg hl', Option.bind_none]

theorem keyed_tower (n : Nat) : Mapping.Keyed (Example.tower n) := by
  induction n with
  | zero => exact ⟨List.nodup_nil, trivial⟩
  | succ n ih => exact ⟨List.nodup_singleton _, ih, trivial⟩

/-- A rule with rules inside opens two objects, one for itself and one for the rules. -/
theorem nesting_toValue_tower (n : Nat) : (toValue (Example.tower n)).nesting = 2 * n + 1 := by
  induction n with
  | zero => rfl
  | succ n ih =>
    have hn : (toValue (Example.tower (n + 1))).nesting =
        (toValue (Example.tower n)).nesting + 2 := by
      simp [toValue, Example.tower, Rule.toFields, Rule.toValue, Value.nesting,
        Value.nestingFields]
    omega

/-- Names that must be escaped come back, and 64 rules inside one another are refused. -/
theorem ofJson_toJson_unprintable :
    (Example.unprintable.Keyed ∧ Json.openAtOnce (toJson Example.unprintable) ≤ 127 ∧
      ofJson (toJson Example.unprintable) = .ok Example.unprintable) ∧
    (Mapping.Keyed (Example.tower 64) ∧ ¬ Json.openAtOnce (toJson (Example.tower 64)) ≤ 127 ∧
      ofJson (toJson (Example.tower 64)) = .error .json) := by
  have hk : Example.unprintable.Keyed := by decide
  have hu : Json.openAtOnce (toJson Example.unprintable) = 5 :=
    openAtOnce_toJson _
  have hkt : Mapping.Keyed (Example.tower 64) := keyed_tower 64
  have ht : Json.openAtOnce (toJson (Example.tower 64)) = 129 :=
    (openAtOnce_toJson _).trans (nesting_toValue_tower 64)
  refine ⟨⟨hk, by omega, ?_⟩, hkt, by omega, ?_⟩
  · rw [ofJson_toJson hk, if_pos (by omega)]
  · rw [ofJson_toJson hkt, if_neg (by omega)]

end Definition

end Reshape
