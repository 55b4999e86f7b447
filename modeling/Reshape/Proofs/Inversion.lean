import Reshape.Example.Specs
import Reshape.Proofs.Walk

/-!
# Inverse specs

A spec with the fields and targets exchanged, and the transforms of each pair too, describes the
same correspondence from the other end. Mapping in reverse by a spec is mapping forward by its
inverse, as long as no two rules of a level have one target: only then is the inverse a spec, with
one rule for each of its fields.

## Main definitions

* `Mapping.invert`: the inverse, at every level

## Main results

* `Mapping.invert_invert`: inverting twice changes nothing
* `Mapping.keyed_invert_iff`: when the inverse has one rule for each field
* `Compiled.apply_invert`: a compiled inverse acts as the compiled mapping in the other direction
* `Mapper.invert_duality`: so do mappers, in both directions
-/

namespace Reshape

variable {φ : Type}

/-! ### Exchanging the two ends -/

namespace Rule

mutual

/-- The rule of a field, seen from the field that it writes. -/
def invert (field : String) : Rule φ → Rule φ
  | copy _ => copy field
  | convert grain _ there back => convert grain field back there
  | nest arity _ rules => nest arity field (invertAll rules)
termination_by structural rule => rule

/-- Rules under the names of the fields that they write. -/
def invertAll : List (String × Rule φ) → List (String × Rule φ)
  | [] => []
  | (field, rule) :: rest => (rule.target, rule.invert field) :: invertAll rest
termination_by structural rules => rules

end

@[simp] theorem target_invert (rule : Rule φ) (field : String) :
    (rule.invert field).target = field := by
  cases rule <;> rfl

end Rule

namespace Mapping

/-- **The inverse of a mapping**: at every level, in the same order, each field is exchanged with
its target, and each transform with the one of the other direction. -/
def invert (mapping : Mapping φ) : Mapping φ :=
  Rule.invertAll mapping

theorem invert_eq_map (mapping : Mapping φ) :
    mapping.invert = mapping.map fun entry => (entry.2.target, entry.2.invert entry.1) := by
  induction mapping with
  | nil => rfl
  | cons entry rest ih => exact congrArg (_ :: ·) ih

theorem nested?_invert (rule : Rule φ) (field : String) :
    (rule.invert field).nested? = rule.nested?.map invert := by
  cases rule <;> rfl

theorem keys_invert (mapping : Mapping φ) : Fields.keys mapping.invert = mapping.targets := by
  rw [invert_eq_map, Fields.keys, List.map_map]
  rfl

theorem inner_invert_iff {inner mapping : Mapping φ} :
    Inner inner mapping.invert ↔ ∃ inner', Inner inner' mapping ∧ inner'.invert = inner := by
  rw [invert_eq_map]
  constructor
  · rintro ⟨entry, hm, hi⟩
    obtain ⟨entry', hm', rfl⟩ := List.mem_map.mp hm
    rw [nested?_invert] at hi
    obtain ⟨inner', hi', rfl⟩ := Option.map_eq_some_iff.mp hi
    exact ⟨inner', ⟨entry', hm', hi'⟩, rfl⟩
  · rintro ⟨inner', ⟨entry, hm, hi⟩, rfl⟩
    refine ⟨_, List.mem_map_of_mem hm, ?_⟩
    rw [nested?_invert, hi]
    rfl

theorem everywhere_invert_iff {P : Mapping φ → Prop} {mapping : Mapping φ} :
    Everywhere P mapping.invert ↔ Everywhere (fun level => P level.invert) mapping := by
  induction mapping using induction with
  | level mapping ih =>
    rw [everywhere_iff, everywhere_iff]
    -- The levels inside the inverse are the inverses of the levels inside.
    refine and_congr_right fun _ => ⟨fun h inner hi => ?_, fun h inner hi => ?_⟩
    · exact (ih inner hi).mp (h _ (inner_invert_iff.mpr ⟨inner, hi, rfl⟩))
    · obtain ⟨inner', hi', rfl⟩ := inner_invert_iff.mp hi
      exact (ih inner' hi').mpr (h inner' hi')

theorem invert_invert_rule {rule : Rule φ} (field : String)
    (h : ∀ inner, rule.nested? = some inner → inner.invert.invert = inner) :
    (rule.invert field).invert rule.target = rule := by
  cases rule with
  | copy target => rfl
  | convert grain target there back => rfl
  | nest arity target rules => exact congrArg (Rule.nest arity target) (h rules rfl)

/-- **Inverting twice** changes nothing. -/
theorem invert_invert (mapping : Mapping φ) : mapping.invert.invert = mapping := by
  induction mapping using induction with
  | level mapping ih =>
    have hm : ∀ entry ∈ mapping,
        ((entry.2.invert entry.1).target, (entry.2.invert entry.1).invert entry.2.target) =
          entry := by
      intro entry hm
      rw [Rule.target_invert,
        invert_invert_rule entry.1 fun inner hi => ih inner ⟨entry, hm, hi⟩]
    rw [invert_eq_map, invert_eq_map, List.map_map]
    exact (List.map_congr_left hm).trans (List.map_id mapping)

/-- The inverse has one rule for each field when no two rules have one target. -/
theorem keyed_invert_iff {mapping : Mapping φ} : mapping.invert.Keyed ↔ mapping.OneToOne := by
  rw [Keyed, everywhere_invert_iff, OneToOne]
  simp only [Fields.Distinct, keys_invert]

theorem oneToOne_invert_iff {mapping : Mapping φ} : mapping.invert.OneToOne ↔ mapping.Keyed := by
  rw [← keyed_invert_iff, invert_invert]

theorem name_invert (direction : Direction) (entry : String × Rule φ) :
    name direction (entry.2.target, entry.2.invert entry.1) = name direction.reversed entry := by
  rw [name, Rule.target_invert, name, Direction.pick_reversed]

theorem walk_invert {act act' : Rule Transform → Transform} {direction : Direction}
    {spec : Spec} (h : ∀ entry ∈ spec, act (entry.2.invert entry.1) = act' entry.2)
    (record output : Fields Value) :
    spec.invert.walk direction act record output =
      spec.walk direction.reversed act' record output := by
  rw [invert_eq_map]
  induction spec generalizing output with
  | nil => rfl
  | cons entry rest ih =>
    have hr := ih fun entry hm => h entry (List.mem_cons_of_mem _ hm)
    -- The inverse rule looks for the same name and sets the same name.
    rw [List.map_cons, walk, walk, name_invert, name_invert, h entry List.mem_cons_self]
    cases Fields.get? record (name direction.reversed entry) with
    | none => exact hr output
    | some v => exact congrArg (act' entry.2 v >>= ·) (funext fun converted => hr _)

end Mapping

/-! ### Acting in the other direction -/

namespace Compiled

/-- An inverted rule acts as the rule in the other direction if the mapping inside it does. -/
theorem act_invert {direction : Direction} {rule : Rule Transform} (field : String)
    (h : ∀ inner, rule.nested? = some inner →
      (ofMapping inner.invert).apply direction = (ofMapping inner).apply direction.reversed) :
    (rule.invert field).act direction = rule.act direction.reversed := by
  cases rule with
  | copy target => rfl
  | convert grain target there back =>
    cases grain <;> simp only [Rule.invert, Rule.act, Direction.pick_reversed]
  | nest arity target rules =>
    have hr := h rules rfl
    simp only [Rule.invert, Rule.act, ← hr, Mapping.invert]

/-- A compiled inverse acts as the compiled mapping in the other direction. -/
theorem apply_invert {spec : Spec} (hk : spec.Keyed) (ho : spec.OneToOne)
    (direction : Direction) :
    (ofMapping spec.invert).apply direction = (ofMapping spec).apply direction.reversed := by
  induction spec using Mapping.induction with
  | level spec ih =>
    -- Fields and targets are distinct, on both sides, so rules act one by one in both directions.
    have hk' : spec.invert.Keyed := Mapping.keyed_invert_iff.mpr ho
    have ho' : spec.invert.OneToOne := Mapping.oneToOne_invert_iff.mpr hk
    have ha : ∀ entry ∈ spec,
        (entry.2.invert entry.1).act direction = entry.2.act direction.reversed :=
      fun entry hm => act_invert entry.1 fun inner hi =>
        ih inner ⟨entry, hm, hi⟩ (hk.inner ⟨entry, hm, hi⟩) (ho.inner ⟨entry, hm, hi⟩)
    rw [apply_eq_walk (Mapping.nodup_names hk' ho' direction),
      apply_eq_walk (Mapping.nodup_names hk ho direction.reversed)]
    congr 1
    funext record
    exact Mapping.walk_invert ha record []

end Compiled

namespace Mapper

open Example

/-- **Direction duality.** The inverse of a spec without colliding targets is again such a spec, and
mapping in one direction by the one is mapping in the other direction by the other, for every value:
the same output in the same order, or the same error, and the same notes of the transforms
called. -/
theorem invert_duality (spec : Spec) (hk : spec.Keyed) (ho : spec.OneToOne) :
    spec.invert.Keyed ∧ spec.invert.OneToOne ∧
      (∀ v, (ofSpec spec).value.mapReverse v = (ofSpec spec.invert).value.map v) ∧
      (∀ v, (ofSpec spec).value.map v = (ofSpec spec.invert).value.mapReverse v) := by
  refine ⟨Mapping.keyed_invert_iff.mpr ho, Mapping.oneToOne_invert_iff.mpr hk, ?_, ?_⟩
  · intro v
    exact (congrFun (Compiled.apply_invert hk ho .forward) v).symm
  · intro v
    exact (congrFun (Compiled.apply_invert hk ho .reverse) v).symm

/-- The poll taken in reverse is its inverse taken forward. -/
theorem mapReverse_poll : poll.Keyed ∧ poll.OneToOne ∧
    (ofSpec poll).value.mapReverse counted = (ofSpec poll.invert).value.map counted :=
  ⟨by decide, by decide, (invert_duality poll (by decide) (by decide)).2.2.1 counted⟩

end Mapper

end Reshape
