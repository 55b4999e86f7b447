import Reshape.Value

/-!
# Errors

What can go wrong when a mapping is read, resolved, validated or run, and the text of each error.

## Main definitions

* `Error`: the causes
* `Error.message`: the text of an error
-/

namespace Reshape

/-- Why the contents of a file could not be had. -/
inductive FileFault where
  /-- There is no such file. -/
  | missing
  /-- The contents are not text. -/
  | notText
  deriving DecidableEq

/-- **An error**, by its cause. -/
inductive Error where
  /-- A transform refused its input. -/
  | transform (reason : String)
  /-- A value stands where a record must stand. -/
  | notAnObject (found : Kind)
  /-- A definition names a transform that is not registered. -/
  | unknownFunction (name : String)
  /-- A text of mapping lines is malformed. -/
  | invalidDsl (reason : String)
  /-- A mapping is ambiguous, or its file has no known format. -/
  | invalidMapping (reason : String)
  /-- A JSON text is malformed, or its value has another shape than is asked for. -/
  | json
  /-- A TOML text is malformed, or is not a definition. -/
  | toml
  /-- A file could not be read. -/
  | file (fault : FileFault)
  deriving DecidableEq

/-- **The text of an error**. -/
def Error.message : Error → String
  | transform reason => .join ["Transform failed: ", reason]
  | notAnObject found => .join ["Expected an object, found ", found.name]
  | unknownFunction name => .join ["Transform function not found: ", name]
  | invalidDsl reason => .join ["Invalid DSL: ", reason]
  | invalidMapping reason => .join ["Invalid mapping: ", reason]
  | json => "JSON error"
  | toml => "TOML parsing error"
  | file _ => "IO error"

end Reshape
