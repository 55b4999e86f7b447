import Reshape.Builtins
import Reshape.Compiled
import Reshape.Definition.Basic
import Reshape.Definition.File
import Reshape.Definition.Json
import Reshape.Definition.Node
import Reshape.Definition.Resolve
import Reshape.Definition.Toml
import Reshape.Error
import Reshape.Example.Animals
import Reshape.Example.Definitions
import Reshape.Example.Specs
import Reshape.Fields
import Reshape.Json.Printer
import Reshape.Json.Quoting
import Reshape.Json.Reader
import Reshape.Json.Token
import Reshape.Mapper
import Reshape.Notice
import Reshape.Number.Basic
import Reshape.Number.Decimal
import Reshape.Number.Double
import Reshape.Number.Numeral
import Reshape.Outline
import Reshape.Proofs.Agreement
import Reshape.Proofs.Collisions
import Reshape.Proofs.Conformance
import Reshape.Proofs.Contents
import Reshape.Proofs.Declared
import Reshape.Proofs.Exchange
import Reshape.Proofs.Fields
import Reshape.Proofs.Interpretation
import Reshape.Proofs.Inversion
import Reshape.Proofs.Json.Accepted
import Reshape.Proofs.Json.Nesting
import Reshape.Proofs.Levels
import Reshape.Proofs.Loading
import Reshape.Proofs.Number.Arithmetic
import Reshape.Proofs.Number.Literals
import Reshape.Proofs.Number.Range
import Reshape.Proofs.Number.Spelling
import Reshape.Proofs.Outcomes
import Reshape.Proofs.Ownership
import Reshape.Proofs.Registrations
import Reshape.Proofs.Reloading
import Reshape.Proofs.Reordering
import Reshape.Proofs.Resolution
import Reshape.Proofs.RoundTrip
import Reshape.Proofs.Sameness
import Reshape.Proofs.Saving
import Reshape.Proofs.Script.Commands
import Reshape.Proofs.Script.Frames
import Reshape.Proofs.Script.Grammar
import Reshape.Proofs.Script.Joining
import Reshape.Proofs.Script.Layout
import Reshape.Proofs.Tables
import Reshape.Proofs.Toml.Reading
import Reshape.Proofs.Toml.Spelling
import Reshape.Proofs.TypedRoundTrip
import Reshape.Proofs.Violations
import Reshape.Proofs.Walk
import Reshape.Registry
import Reshape.Rule
import Reshape.Run
import Reshape.Script.Line
import Reshape.Script.Reader
import Reshape.Text.Blank
import Reshape.Text.Case
import Reshape.Text.CaseTable
import Reshape.Text.Hex
import Reshape.Text.HiddenTable
import Reshape.Text.Quoted
import Reshape.Toml.Reader
import Reshape.Toml.Scalar
import Reshape.Toml.Strings
import Reshape.Toml.Table
import Reshape.Typed
import Reshape.Validation
import Reshape.Value
