import Reshape.Mapper

/-!
# Registered transforms

A registry holds transforms under names, so that a mapping can be written down as data and its
transforms looked up later.

## Main definitions

* `Registry`: transforms under names
* `Registry.register`: sets the transform of a name
* `Registry.resolve`: the transform of a name, or an error
* `Registry.names`: the names in ascending order

## Main results

* `Registry.get?_register`: a registration changes the transform of its name only
* `Registry.resolve_eq_ok_iff`: a name resolves to the transform registered for it
-/

namespace Reshape

/-- **A registry**: transforms under names. -/
structure Registry where
  functions : Fields Transform

namespace Registry

/-- The registry without any transform. -/
def empty : Registry :=
  ⟨[]⟩

/-- The transform of a name. -/
def get? (registry : Registry) (name : String) : Option Transform :=
  Fields.get? registry.functions name

/-- Whether a name has a transform. -/
def contains (registry : Registry) (name : String) : Bool :=
  Fields.contains registry.functions name

/-- **Sets the transform of a name**, and notes when it had one already. -/
def register (registry : Registry) (name : String) (f : Transform) : Noted Registry where
  notices := if registry.contains name then [.replaced name] else []
  value := ⟨Fields.insert registry.functions name f⟩

/-- The transform of a name, or an error. -/
def resolve (registry : Registry) (name : String) : Except Error Transform :=
  match registry.get? name with
  | some f => .ok f
  | none => .error (.unknownFunction name)

/-- The names, in ascending order of their characters. -/
def names (registry : Registry) : List String :=
  (Fields.keys registry.functions).mergeSort fun a b => decide (a ≤ b)

@[simp] theorem get?_empty (name : String) : empty.get? name = none := rfl

/-- A registration changes the transform of its name only. -/
theorem get?_register (registry : Registry) (name other : String) (f : Transform) :
    (registry.register name f).value.get? other =
      if name = other then some f else registry.get? other :=
  Fields.get?_insert registry.functions name other f

theorem contains_eq_isSome (registry : Registry) (name : String) :
    registry.contains name = (registry.get? name).isSome := rfl

/-- A name resolves to the transform that is registered for it. -/
theorem resolve_eq_ok_iff {registry : Registry} {name : String} {f : Transform} :
    registry.resolve name = .ok f ↔ registry.get? name = some f := by
  unfold resolve
  cases registry.get? name <;> simp

end Registry

end Reshape
