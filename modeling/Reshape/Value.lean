import Reshape.Fields
import Reshape.Number.Basic

/-!
# Values

The values of records: null, booleans, numbers, strings, and arrays and objects of values. An
object lists its fields in order; a record is a value that is an object.

## Main definitions

* `Value`: the values
* `Kind`, `Value.kind`: what a value is, without what it holds
* `Value.merged`: a value in which no object has two fields of one name
-/

namespace Reshape

/-- **A value**. The fields of an object stand in order. -/
inductive Value where
  | null
  | bool (b : Bool)
  | number (n : Number)
  | string (s : String)
  | array (items : List Value)
  | object (fields : List (String × Value))

/-- What a value is, without what it holds. -/
inductive Kind where
  | null
  | boolean
  | number
  | string
  | array
  | object
  deriving DecidableEq

/-- The name of a kind in messages. -/
def Kind.name : Kind → String
  | null => "null"
  | boolean => "boolean"
  | number => "number"
  | string => "string"
  | array => "array"
  | object => "object"

namespace Value

/-- The kind of a value. -/
def kind : Value → Kind
  | null => .null
  | bool _ => .boolean
  | number _ => .number
  | string _ => .string
  | array _ => .array
  | object _ => .object

/-- The number that is a signed 64-bit integer. -/
def ofSigned (n : Int) (h : Number.IsSigned n) : Value :=
  number (Number.ofSigned n h)

mutual

/-- **The merged value**: in every object a repeated name keeps its first place and its last
value. -/
def merged : Value → Value
  | null => null
  | bool b => bool b
  | number n => number n
  | string s => string s
  | array items => array (mergedItems items)
  | object fields => object (Fields.ofList (mergedFields fields))
termination_by structural v => v

/-- The merged values of a list. -/
def mergedItems : List Value → List Value
  | [] => []
  | item :: rest => item.merged :: mergedItems rest
termination_by structural items => items

/-- Fields with merged values, repeated names still among them. -/
def mergedFields : List (String × Value) → List (String × Value)
  | [] => []
  | (name, v) :: rest => (name, v.merged) :: mergedFields rest
termination_by structural fields => fields

end

end Value

end Reshape
