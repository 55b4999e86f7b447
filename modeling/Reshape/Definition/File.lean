import Reshape.Definition.Json
import Reshape.Definition.Toml
import Reshape.Notice
import Reshape.Script.Reader

/-!
# Definitions in files

A definition file is text in the format that the extension of its name tells.

## Main definitions

* `Format`: the formats of definitions
* `Definition.ofText`: the definition that a text of a format describes
* `Format.ofFileName?`: the format of a file
* `Definition.load`: the definition in a file
-/

namespace Reshape

/-- **The formats of definitions**. -/
inductive Format where
  | json
  | toml
  | script
  deriving DecidableEq

/-- **The definition that a text describes**. -/
def Definition.ofText : Format → String → Except Error Definition
  | .json => ofJson
  | .toml => ofToml
  | .script => ofScript

namespace Format

/-- The extension of a file name: what stands behind its last point, unless the point comes
first. -/
def extension? (name : String) : Option (List Char) :=
  let reversed := name.toList.reverse
  match reversed.dropWhile (· ≠ '.') with
  | [] => none
  | [_] => none
  | _ => some (reversed.takeWhile (· ≠ '.')).reverse

/-- The format that an extension stands for, in any case of ASCII letters. -/
def ofExtension? (extension : List Char) : Option Format :=
  let lower := extension.map Char.toLower
  if lower = ['j', 's', 'o', 'n'] then some json
  else if lower = ['t', 'o', 'm', 'l'] then some toml
  else if lower = ['m', 'a', 'p'] then some script
  else none

/-- The format of a file, by its name. -/
def ofFileName? (name : String) : Option Format :=
  (extension? name).bind ofExtension?

end Format

namespace Definition

/-- The definition in the text of a file. -/
def ofFileText (name text : String) : Except Error Definition :=
  match Format.ofFileName? name with
  | some format => ofText format text
  | none => .error (.invalidMapping s!"Unsupported mapping file format: {name}")

/-- The definition in a file, given its contents if there is such a file. -/
def ofFile (name : String) (contents : Option ByteArray) : Except Error Definition :=
  match contents with
  | none => .error (.file .missing)
  | some bytes =>
    match String.fromUTF8? bytes with
    | none => .error (.file .notText)
    | some text => ofFileText name text

/-- **The definition in a file**, with the notice that it has been loaded. -/
def load (name : String) (contents : Option ByteArray) : Noted (Except Error Definition) :=
  match ofFile name contents with
  | .ok definition => ⟨[.loaded definition.length name], .ok definition⟩
  | .error e => ⟨[], .error e⟩

end Definition

end Reshape
