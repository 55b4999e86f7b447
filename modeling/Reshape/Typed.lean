import Reshape.Outline

/-!
# Typed records

Types whose values can be written as records and read back. A typed mapper takes the values of one
such type to another and back, through the records that stand for them.

## Main definitions

* `Recorded α`: the values of `α` as record values
* `Signed`: the signed 64-bit integers
* `TypedMapper σ τ`: a mapper between two types
-/

namespace Reshape

/-- **A type of records**: how its values are written as record values, and which values can be
read as one of its own. -/
class Recorded (α : Type) where
  /-- The value that stands for an element of the type. -/
  toValue : α → Value
  /-- The element of the type that a value can be read as. -/
  ofValue? : Value → Option α

/-- **The signed 64-bit integers**. -/
abbrev Signed : Type := { n : Int // Number.IsSigned n }

namespace Recorded

variable {α : Type}

instance : Recorded String where
  toValue s := .string s
  ofValue?
    | .string s => some s
    | _ => none

instance : Recorded Signed where
  toValue n := Value.ofSigned n.1 n.2
  ofValue?
    | .number (.int n _) => if h : Number.IsSigned n then some ⟨n, h⟩ else none
    | _ => none

/-- The elements that values can be read as, if each can. -/
def ofItems? [Recorded α] : List Value → Option (List α)
  | [] => some []
  | item :: rest => do
    let a ← ofValue? item
    let as ← ofItems? rest
    some (a :: as)

instance [Recorded α] : Recorded (List α) where
  toValue as := .array (as.map toValue)
  ofValue?
    | .array items => ofItems? items
    | _ => none

/-- The parts of a value that is read as a record with the given fields: of an object the fields of
these names, where they are there, and of an array its items, which must be as many. -/
def parts? (names : List String) : Value → Option (List (Option Value))
  | .object fields => some (names.map (Fields.get? fields))
  | .array items => if items.length = names.length then some (items.map some) else none
  | _ => none

/-- A part that must be there. -/
def required? [Recorded α] (part : Option Value) : Option α :=
  part.bind ofValue?

/-- A part that may be missing or null. -/
def optional? [Recorded α] : Option Value → Option (Option α)
  | none => some none
  | some .null => some none
  | some v => (ofValue? v).map some

/-- A field that is written if there is something to write. -/
def optionalField [Recorded α] (name : String) : Option α → List (String × Value)
  | none => []
  | some a => [(name, toValue a)]

end Recorded

/-- **A typed mapper** from source values of type `σ` to target values of type `τ`. -/
structure TypedMapper (σ τ : Type) where
  mapper : Mapper

namespace TypedMapper

variable {σ τ : Type}

/-- The typed mapper of a spec, with the notices made when it is compiled. -/
def ofSpec (spec : Spec) : Noted (TypedMapper σ τ) :=
  ⟨(Mapper.ofSpec spec).notices, ⟨(Mapper.ofSpec spec).value⟩⟩

/-- A value read from the outcome of a mapping. -/
def receive {α : Type} [Recorded α] (v : Value) : Run α :=
  match Recorded.ofValue? v with
  | some a => pure a
  | none => Run.fail .json

/-- **Maps a source value** to a target value. -/
def map [Recorded σ] [Recorded τ] (typed : TypedMapper σ τ) (a : σ) : Run τ := do
  receive (← typed.mapper.map (Recorded.toValue a))

/-- **Maps a target value** back to a source value. -/
def mapReverse [Recorded σ] [Recorded τ] (typed : TypedMapper σ τ) (b : τ) : Run σ := do
  receive (← typed.mapper.mapReverse (Recorded.toValue b))

/-- The outline of a typed mapper. -/
def outline (typed : TypedMapper σ τ) : String :=
  Outline.record "TypedMapper" [("mapper", typed.mapper.outline)] true

end TypedMapper

end Reshape
