import Reshape.Rule
import Reshape.Text.Blank
import Reshape.Text.Case

/-!
# Lines of mapping scripts

A mapping script gives one rule a line. This module reads single lines:

    ALIAS field TO target
    PROPERTY field TO target WITH function REVERSE function
    ARRAY field TO target WITH function REVERSE function
    OBJECT field TO target {
    OBJECTS field TO target {
    }

The last two rules open a block for the rules inside, which the closing brace ends. Empty lines and
lines that start with a number sign are skipped. The command word counts in upper case; the other
keywords may be written in any case of ASCII letters.

## Main definitions

* `Command`: the command words
* `Line`: what a line says
* `LineFault`: what is wrong with a line
* `Line.ofWords`: the line that words make
-/

namespace Reshape.Script

/-- **A command**: what the first word of a rule asks for. -/
inductive Command where
  | copy
  | convert (grain : Grain)
  | nest (arity : Arity)
  deriving DecidableEq

namespace Command

/-- The word for a command. -/
def word : Command → String
  | copy => "ALIAS"
  | convert .whole => "PROPERTY"
  | convert .elements => "ARRAY"
  | nest .one => "OBJECT"
  | nest .many => "OBJECTS"

/-- The commands. -/
def all : List Command :=
  [copy, convert .whole, convert .elements, nest .one, nest .many]

/-- The command whose word a text is, once in upper case. -/
def ofWord? (text : List Char) : Option Command :=
  all.find? fun command => command.word.toList == Text.upper text

end Command

/-- **A line**: what it says. -/
inductive Line where
  /-- Nothing. -/
  | skipped
  /-- The innermost block ends. -/
  | closing
  /-- A field has a rule. -/
  | entry (field : String) (rule : Rule String)
  /-- A block starts; the rules in it are those inside a rule for a field. -/
  | opening (arity : Arity) (field target : String)

/-- What is wrong with a line. -/
inductive LineFault where
  /-- The words behind a command are not those that it takes. -/
  | malformed (command : Command)
  /-- The first word is no command. -/
  | unknownCommand (word : String)

/-- The text of a fault. -/
def LineFault.message : LineFault → String
  | malformed .copy => "Expected: ALIAS source TO target"
  | malformed (.convert grain) =>
    .join ["Expected: ", (Command.convert grain).word,
      " source TO target WITH function REVERSE function"]
  | malformed (.nest arity) =>
    .join ["Expected: ", (Command.nest arity).word, " source TO target \x7b"]
  | unknownCommand word => .join ["Unknown command '", word, "'"]

/-- Whether a word is a keyword. -/
def isKeyword (word : List Char) (keyword : String) : Bool :=
  Text.equalsIgnoringCase word keyword.toList

namespace Command

/-- The line that a command makes with the words behind it. -/
def apply (command : Command) (words : List (List Char)) : Except LineFault Line :=
  match command, words with
  | copy, [field, toWord, target] =>
    if isKeyword toWord "TO" then
      .ok (.entry (String.ofList field) (.copy (String.ofList target)))
    else .error (.malformed command)
  | convert grain, [field, toWord, target, withWord, there, reverseWord, back] =>
    if isKeyword toWord "TO" && isKeyword withWord "WITH" && isKeyword reverseWord "REVERSE" then
      .ok (.entry (String.ofList field)
        (.convert grain (String.ofList target) (String.ofList there) (String.ofList back)))
    else .error (.malformed command)
  | nest arity, [field, toWord, target, brace] =>
    if isKeyword toWord "TO" && brace == ['\x7b'] then
      .ok (.opening arity (String.ofList field) (String.ofList target))
    else .error (.malformed command)
  | _, _ => .error (.malformed command)

end Command

/-- **The line that words make**. -/
def Line.ofWords : List (List Char) → Except LineFault Line
  | [] => .ok .skipped
  | first :: rest =>
    if first.head? = some '#' then .ok .skipped
    else if first = ['\x7d'] ∧ rest = [] then .ok .closing
    else
      match Command.ofWord? first with
      | some command => command.apply rest
      | none => .error (.unknownCommand (String.ofList first))

/-- The line that a text says. -/
def Line.ofChars (text : List Char) : Except LineFault Line :=
  Line.ofWords (Text.words text)

end Reshape.Script
