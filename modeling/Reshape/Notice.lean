import Reshape.Rule

/-!
# Notices

What the library reports on the way without failing: which mappings it compiles, where two fields
compete for one target, which transforms are replaced and which definitions are loaded.

## Main definitions

* `Notice`: the reports
* `Notice.level`, `Notice.text`: how a notice is written to a log
* `Noted α`: a value with the notices made on the way to it
-/

namespace Reshape

/-- **A notice**, by its cause. -/
inductive Notice where
  /-- Two fields of one mapping have the same target. -/
  | collision (target earlier later : String)
  /-- The mapping inside a rule is about to be compiled. -/
  | nested (kind : RuleKind) (field target : String)
  /-- A mapping has been compiled. -/
  | compiled (fields inner : Nat)
  /-- A registered transform has been replaced. -/
  | replaced (name : String)
  /-- A definition has been loaded. -/
  | loaded (fields : Nat) (path : String)
  deriving DecidableEq

/-- How much a notice matters. -/
inductive Level where
  | debug
  | info
  | warn
  deriving DecidableEq

/-- The name of a level. -/
def Level.name : Level → String
  | debug => "DEBUG"
  | info => "INFO"
  | warn => "WARN"

namespace Notice

/-- How much a notice matters. -/
def level : Notice → Level
  | collision _ _ _ => .warn
  | nested _ _ _ => .debug
  | compiled _ _ => .debug
  | replaced _ => .warn
  | loaded _ _ => .info

/-- **The text of a notice**. -/
def text : Notice → String
  | collision target earlier later =>
    .join ["Target key '", target, "' is mapped from both '", earlier, "' and '", later, "'; '",
      later, "' wins when mapping in reverse"]
  | nested kind field target =>
    .join ["Compiling nested ", kind.name, " mapping for '", field, "' -> '", target, "'"]
  | compiled fields inner =>
    .join ["Compiled mapping with ", toString fields, " fields (", toString inner, " nested)"]
  | replaced name => .join ["Transform '", name, "' was already registered and has been replaced"]
  | loaded fields path =>
    .join ["Loaded mapping definition with ", toString fields, " fields from ", path]

end Notice

/-- **A noted value**: a value with the notices made on the way to it, first notice first. -/
structure Noted (α : Type) where
  notices : List Notice
  value : α

end Reshape
