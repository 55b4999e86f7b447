import Reshape.Definition.Basic
import Reshape.Error
import Reshape.Script.Line

/-!
# Reading mapping scripts

The lines of a script are read one after another into the block that is open innermost. A block
that ends becomes a rule of the block around it.

## Main definitions

* `OpenBlock`: a block that has not ended, around it what has been read before it
* `State`: what has been read of a script
* `Fault`: what is wrong with a script
* `Definition.ofScript`: the definition that a script describes
-/

namespace Reshape.Script

/-- **An open block**: the rule it will become, the line that opened it, and the rules that were
read before it in the block around it. -/
structure OpenBlock where
  arity : Arity
  field : String
  target : String
  line : Nat
  outer : Definition

/-- **The state** of reading: the rules of the innermost block, and the open blocks, innermost
first. -/
structure State where
  rules : Definition
  blocks : List OpenBlock

/-- What is wrong with a script. -/
inductive Fault where
  /-- A line says nothing. -/
  | line (fault : LineFault)
  /-- A block ends where none is open. -/
  | unexpectedClose
  /-- The block of a field does not end. -/
  | unclosed (field : String)

/-- The text of a fault. -/
def Fault.message : Fault → String
  | line fault => fault.message
  | unexpectedClose => "Unexpected '\x7d'"
  | unclosed field => .join ["Block for '", field, "' is never closed"]

/-- **A located fault**: with the number of its line, counted from one. -/
structure Located where
  fault : Fault
  line : Nat

/-- The text of a located fault. -/
def Located.message (located : Located) : String :=
  .join [located.fault.message, " on line ", toString located.line]

namespace State

/-- The state before the first line. -/
def start : State :=
  ⟨[], []⟩

/-- What a line does, which has the given number. -/
def step (state : State) (number : Nat) : Line → Except Fault State
  | .skipped => .ok state
  | .entry field rule => .ok { state with rules := Fields.insert state.rules field rule }
  | .opening arity field target =>
    .ok ⟨[], ⟨arity, field, target, number, state.rules⟩ :: state.blocks⟩
  | .closing =>
    match state.blocks with
    | [] => .error .unexpectedClose
    | block :: blocks =>
      let rule := Rule.nest block.arity block.target state.rules
      .ok ⟨Fields.insert block.outer block.field rule, blocks⟩

/-- Reads one line, which has the given number. -/
def readLine (state : State) (number : Nat) (text : List Char) : Except Located State :=
  match Line.ofChars text with
  | .error fault => .error ⟨.line fault, number⟩
  | .ok line =>
    match state.step number line with
    | .error fault => .error ⟨fault, number⟩
    | .ok next => .ok next

/-- Reads lines, the first of which has the given number. -/
def readLines : State → Nat → List (List Char) → Except Located State
  | state, _, [] => .ok state
  | state, number, text :: rest =>
    match state.readLine number text with
    | .error located => .error located
    | .ok next => readLines next (number + 1) rest

/-- The rules at the end of a script, if no block is open. -/
def finish (state : State) : Except Located Definition :=
  match state.blocks with
  | [] => .ok state.rules
  | block :: _ => .error ⟨.unclosed block.field, block.line⟩

end State

/-- The definition that a text describes, or the first fault in it. -/
def read (text : List Char) : Except Located Definition :=
  match State.start.readLines 1 (Text.lines text) with
  | .error located => .error located
  | .ok state => state.finish

end Reshape.Script

namespace Reshape

/-- **The definition that a script describes**. -/
def Definition.ofScript (text : String) : Except Error Definition :=
  match Script.read text.toList with
  | .ok definition => .ok definition
  | .error located => .error (.invalidDsl located.message)

end Reshape
