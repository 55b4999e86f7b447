import Reshape.Error
import Reshape.Toml.Reader

/-!
# Definitions in TOML

The TOML form of a definition: a table that gives each field the target of its alias as a string,
or its rule as a table.

## Main definitions

* `Definition.ofToml`: the definition that a TOML text describes
-/

namespace Reshape

/-- **The definition that a TOML text describes**. -/
def Definition.ofToml (text : String) : Except Error Definition :=
  match (Toml.read? text).bind ofNode? with
  | some definition => .ok definition
  | none => .error .toml

end Reshape
