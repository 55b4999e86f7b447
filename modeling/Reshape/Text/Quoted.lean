import Reshape.Text.Case
import Reshape.Text.HiddenTable

/-!
# Quoted texts

A text between double quotes in which everything that could mislead the eye is spelt out: quotes
and backslashes, line ends, and each character that is not shown, by its number.

## Main definitions

* `quoted`: the quoted form of a text
-/

namespace Reshape.Text

/-- The quoted form of a character. -/
def quotedChar (c : Char) : List Char :=
  match c with
  | '"' => ['\\', '"']
  | '\\' => ['\\', '\\']
  | '\n' => ['\\', 'n']
  | '\t' => ['\\', 't']
  | '\r' => ['\\', 'r']
  | '\x00' => ['\\', '0']
  | _ =>
    if inRanges hiddenRanges c.toNat then
      ['\\', 'u', '\x7b'] ++ Nat.toDigits 16 c.toNat ++ ['\x7d']
    else [c]

/-- **The quoted form** of a text. -/
def quoted (text : String) : String :=
  String.ofList ('"' :: text.toList.flatMap quotedChar ++ ['"'])

end Reshape.Text
