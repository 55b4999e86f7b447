import Reshape.Compiled
import Reshape.Run

/-!
# Mapping records

A mapper takes a record through the tables of a compiled mapping. The fields of the output stand in
the order of the rules; a field that the input lacks is left out, and a field that no rule names is
ignored.

Whether a value is an array is decided by the value: a transform is called on each element of an
array and on any other value as a whole, and a nested mapping takes a single object or an array of
objects. Null is passed through by nested mappings and by transforms of elements, while a transform
of whole values is called on it.

## Main definitions

* `Side.convert`: what happens to the value of a field
* `Compiled.apply`: a record taken through the tables of a direction
* `Spec`: a mapping whose transforms are functions
* `Mapper`: a compiled mapping, ready for use

## Main results

* `Compiled.apply_eq_throughSide`: a compiled mapping acts as the tables of the direction say
-/

namespace Reshape

namespace Run

/-- A transform called on each element of an array, and on any other value as a whole. -/
def onElements (f : Transform) : Value → Run Value
  | .array items => Value.array <$> each f items
  | v => f v

/-- A transform that null passes by. -/
def pastNull (f : Transform) : Value → Run Value
  | .null => pure .null
  | v => f v

end Run

namespace Side

variable {μ : Type}

/-- **What happens to the value of a field**. A nested mapping goes before a transform of elements,
and that before a transform of whole values; a field with none of them is copied. -/
def convert (side : Side Transform μ) (nested : Fields Transform) (key : String) (v : Value) :
    Run Value :=
  match Fields.get? nested key with
  | some child => Run.pastNull (Run.onElements child) v
  | none =>
    match Fields.get? side.element key with
    | some f => Run.pastNull (Run.onElements f) v
    | none =>
      match Fields.get? side.scalar key with
      | some f => Run.onElements f v
      | none => pure v

/-- The fields of the output: each renamed field that the record has, converted, set in the output
so far. -/
def rebuild (convert : String → Value → Run Value) (record : Fields Value) :
    List (String × String) → Fields Value → Run (Fields Value)
  | [], output => pure output
  | (key, name) :: renames, output =>
    match Fields.get? record key with
    | none => rebuild convert record renames output
    | some v => do
      let converted ← convert key v
      rebuild convert record renames (Fields.insert output name converted)

end Side

namespace Compiled

/-- A record taken through the tables of a side, given the nested mappings as transforms. -/
def throughSide {μ : Type} (side : Side Transform μ) (nested : Fields Transform) : Transform
  | .object record => Value.object <$> Side.rebuild (side.convert nested) record side.rename []
  | v => Run.fail (.notAnObject v.kind)

mutual

/-- **A record taken through the tables** of a direction. -/
def apply (direction : Direction) : Compiled Transform → Transform
  | ⟨_, _, _, forward, reverse⟩ =>
    match direction with
    | .forward => throughSide forward (applySide .forward forward)
    | .reverse => throughSide reverse (applySide .reverse reverse)
termination_by structural compiled => compiled

/-- The nested mappings of a side as transforms. -/
def applySide (direction : Direction) : Side Transform (Compiled Transform) → Fields Transform
  | ⟨_, _, _, nested⟩ => applyAll direction nested
termination_by structural side => side

/-- Compiled mappings under names as transforms. -/
def applyAll (direction : Direction) : List (String × Compiled Transform) → Fields Transform
  | [] => []
  | (name, compiled) :: rest =>
    (name, fun v => compiled.apply direction v) :: applyAll direction rest
termination_by structural entries => entries

end

theorem applyAll_eq_map (direction : Direction) (entries : List (String × Compiled Transform)) :
    applyAll direction entries =
      entries.map fun entry => (entry.1, fun v => entry.2.apply direction v) := by
  induction entries with
  | nil => rfl
  | cons entry rest ih => simp [applyAll, ih]

/-- A compiled mapping acts as the tables of the direction say, its nested mappings in the same
direction. -/
theorem apply_eq_throughSide (direction : Direction) (compiled : Compiled Transform) :
    compiled.apply direction =
      throughSide (compiled.side direction)
        (applyAll direction (compiled.side direction).nested) := by
  obtain ⟨sourceKeys, targetKeys, nestedTargetKeys, ⟨_, _, _, _⟩, ⟨_, _, _, _⟩⟩ := compiled
  cases direction <;> simp [apply, applySide, side]

@[simp] theorem throughSide_object {μ : Type} (side : Side Transform μ) (nested : Fields Transform)
    (record : List (String × Value)) :
    throughSide side nested (.object record) =
      Value.object <$> Side.rebuild (side.convert nested) record side.rename [] := rfl

end Compiled

/-- **A spec**: a mapping whose transforms are functions. -/
abbrev Spec : Type := Mapping Transform

/-- **A mapper**: a compiled mapping, ready for use. -/
structure Mapper where
  compiled : Compiled Transform

namespace Mapper

/-- The mapper of a spec, with the notices made when it is compiled. -/
def ofSpec (spec : Spec) : Noted Mapper :=
  ⟨Notice.ofMapping spec, ⟨Compiled.ofMapping spec⟩⟩

/-- **Maps a source record** to a target record. -/
def map (mapper : Mapper) (v : Value) : Run Value :=
  mapper.compiled.apply .forward v

/-- **Maps a target record** back to a source record. -/
def mapReverse (mapper : Mapper) (v : Value) : Run Value :=
  mapper.compiled.apply .reverse v

end Mapper

end Reshape
