import Reshape.Definition.Basic
import Reshape.Registry

/-!
# Resolving definitions

The names of a definition looked up in a registry, which makes a mapping that can be used.

## Main definitions

* `Definition.resolve`: the spec that a definition describes
* `Mapper.ofDefinition`: the mapper of a definition
-/

namespace Reshape

/-- **The spec that a definition describes**, unless it names a transform that is not registered;
the error is about the first such name. -/
def Definition.resolve (definition : Definition) (registry : Registry) : Except Error Spec :=
  Mapping.mapM registry.resolve definition

/-- The mapper of a definition, with the notices made when it is compiled. -/
def Mapper.ofDefinition (definition : Definition) (registry : Registry) :
    Except Error (Noted Mapper) :=
  (definition.resolve registry).map Mapper.ofSpec

end Reshape
