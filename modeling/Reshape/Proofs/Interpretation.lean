import Reshape.Example.Specs
import Reshape.Proofs.Walk

/-!
# Mapping forward, rule by rule

The meaning of a spec without tables: its rules are taken in order, a rule whose field is absent is
skipped, and each of the others sets its target. A compiled mapping acts in just this way, whatever
rules have one target: with the same output, the same error, and the same calls of transforms in the
same order.

## Main definitions

* `Rule.interpret`: what becomes of the value of a rule's field
* `Mapping.interpret`: what becomes of a record

## Main results

* `Compiled.apply_forward_eq_interpret`: a compiled mapping acts as its rules say
* `Mapper.map_eq_interpret`: so does a mapper
-/

namespace Reshape

namespace Rule

mutual

/-- **What becomes of the value** of a rule's field. An alias copies it. A transform is called on
it, or on each of its elements if it is an array; null goes past a transform of elements. Rules
inside a rule are for an object or for each element of an array, and null goes past them. -/
def interpret : Rule Transform → Transform
  | copy _, v => pure v
  | convert .whole _ there _, .array items => Value.array <$> Run.each there items
  | convert .whole _ there _, v => there v
  | convert .elements _ _ _, .null => pure .null
  | convert .elements _ there _, .array items => Value.array <$> Run.each there items
  | convert .elements _ there _, v => there v
  | nest _ _ _, .null => pure .null
  | nest _ _ rules, .array items =>
    Value.array <$> Run.each (Run.onRecord fun record => interpretAll rules record []) items
  | nest _ _ rules, v => Run.onRecord (fun record => interpretAll rules record []) v
termination_by structural rule => rule

/-- **What becomes of the fields** of a record: rules in order set their targets in the output so
far. -/
def interpretAll : List (String × Rule Transform) → Fields Value → Fields Value →
    Run (Fields Value)
  | [], _, output => pure output
  | (field, rule) :: rest, record, output =>
    match Fields.get? record field with
    | none => interpretAll rest record output
    | some v => do
      let written ← rule.interpret v
      interpretAll rest record (Fields.insert output rule.target written)
termination_by structural rules => rules

end

end Rule

namespace Mapping

/-- **What becomes of a record** by the rules of a spec; another value is refused. -/
def interpret (spec : Spec) : Transform :=
  Run.onRecord fun record => Rule.interpretAll spec record []

theorem interpretAll_eq_walk (spec : Spec) (record output : Fields Value) :
    Rule.interpretAll spec record output =
      spec.walk .forward Rule.interpret record output := by
  induction spec generalizing output with
  | nil => rfl
  | cons entry rest ih =>
    rw [Rule.interpretAll, walk]
    cases hv : Fields.get? record entry.1 with
    | none =>
      -- The field is absent: the rule is skipped.
      rw [name, Direction.pick_forward, hv]
      exact ih output
    | some v =>
      -- Both go on with the same output, if the rule answers.
      rw [name, Direction.pick_forward, hv]
      exact congrArg (entry.2.interpret v >>= ·) (funext fun written => ih _)

end Mapping

namespace Compiled

/-- A rule acts as it says if the mapping inside it does. -/
theorem act_forward_eq_interpret {rule : Rule Transform}
    (h : ∀ inner, rule.nested? = some inner →
      (ofMapping inner).apply .forward = Mapping.interpret inner) :
    rule.act .forward = rule.interpret := by
  funext v
  cases rule with
  | copy target => rfl
  | convert grain target there back =>
    cases grain <;> cases v <;> rfl
  | nest arity target rules =>
    have hr := h rules rfl
    cases v <;> simp only [Rule.act, Run.pastNull, Run.onElements, hr] <;> rfl

/-- A compiled mapping acts forward as its rules say. -/
theorem apply_forward_eq_interpret {spec : Spec} (hk : spec.Keyed) :
    (ofMapping spec).apply .forward = spec.interpret := by
  induction spec using Mapping.induction with
  | level spec ih =>
    -- Fields are distinct even where targets are not, so forward the rules act one by one.
    have hd : (spec.map (Mapping.name .forward)).Nodup := hk.here
    have ha : ∀ entry ∈ spec, entry.2.act .forward = entry.2.interpret := fun entry hm =>
      act_forward_eq_interpret fun inner hi =>
        ih inner ⟨entry, hm, hi⟩ (hk.inner ⟨entry, hm, hi⟩)
    rw [apply_eq_walk hd, Mapping.interpret]
    congr 1
    funext record
    rw [Mapping.walk_congr ha, Mapping.interpretAll_eq_walk]

end Compiled

namespace Mapper

open Example

/-- **Compiling a spec keeps its meaning.** For every spec, colliding targets or not, and every
value, the mapper of the spec does what the spec says: the same output or the same error, and the
same notes. A transform may note each of its calls, so these are the same calls in the same order,
up to the first that fails. -/
theorem map_eq_interpret (spec : Spec) (hk : spec.Keyed) (v : Value) :
    (ofSpec spec).value.map v = spec.interpret v :=
  congrFun (Compiled.apply_forward_eq_interpret hk) v

/-- Both rivals set the amount: the later one is read from the record and keeps the place. The words
of the roll are called in the order of the rules, through all arrays and up to the first value that
is no word. -/
theorem map_rivals : rivals.Keyed ∧ roll.Keyed ∧
    (ofSpec rivals).value.map (.object [("total", .null), ("price", .ofSigned 4 (by decide))]) =
      ⟨[], .ok (.object [("amount", .null)])⟩ ∧
    (ofSpec roll).value.map (rollCall (.array [.string "e"])) =
      ⟨["a", "b", "c", "d", "e", "f"], .ok (.object
        [("crew", .array [.array [.string "b"], .array [.string "c"]]),
          ("mates", .array [.array [.string "a"]]),
          ("boats", .array [.object [("oar", .array [.string "d"])],
            .object [("oar", .array [.array [.string "e"]])],
            .object [("oar", .array [.string "f"])]])])⟩ ∧
    (ofSpec roll).value.map (rollCall .null) =
      ⟨["a", "b", "c", "d"], .error (Builtin.unexpected "called" "a string" .null)⟩ := by
  have hk : roll.Keyed := by decide
  refine ⟨by decide, hk, map_eq_interpret rivals (by decide) _, ?_, ?_⟩
  · exact (map_eq_interpret roll hk _).trans rfl
  · exact (map_eq_interpret roll hk _).trans rfl

end Mapper

end Reshape
