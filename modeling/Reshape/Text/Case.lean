import Reshape.Text.CaseTable

/-!
# Full case conversion

Upper and lower case of texts over the whole character set. One character may become several, and
the lower case of a capital sigma depends on whether it ends a word.

## Main definitions

* `upper`: the upper case of a text
* `lower`: the lower case of a text
* `equalsIgnoringCase`: equality up to the case of ASCII letters
-/

namespace Reshape.Text

/-- Whether a number lies in one of the ranges. -/
def inRanges (ranges : List (Nat × Nat)) (n : Nat) : Bool :=
  ranges.any fun range => range.1 ≤ n && n ≤ range.2

/-- The other case of a character by a table of runs and one of expansions; the character itself if
neither has it. -/
def convertChar (runs : List CaseRun) (expansions : List (Nat × List Nat)) (c : Char) :
    List Char :=
  match runs.find? fun run => run.contains c.toNat with
  | some run => [Char.ofNat (c.toNat + run.offset).toNat]
  | none =>
    match expansions.find? fun expansion => expansion.1 == c.toNat with
    | some expansion => expansion.2.map Char.ofNat
    | none => [c]

/-- The upper case of a character. -/
def upperChar (c : Char) : List Char :=
  convertChar upperRuns upperExpansions c

/-- The lower case of a character on its own. -/
def lowerChar (c : Char) : List Char :=
  convertChar lowerRuns lowerExpansions c

/-- Whether the first character that is not passed over has a case. -/
def meetsCased (text : List Char) : Bool :=
  match text.dropWhile fun c => inRanges caseIgnorableRanges c.toNat with
  | [] => false
  | c :: _ => inRanges casedRanges c.toNat

/-- The lower case of a text behind the given characters, which are listed last first. A capital
sigma that ends a word, with a cased letter before it and none behind it, takes its final form. -/
def lowerFrom : List Char → List Char → List Char
  | _, [] => []
  | before, c :: rest =>
    let converted :=
      if c = 'Σ' then if meetsCased before && !meetsCased rest then ['ς'] else ['σ']
      else lowerChar c
    converted ++ lowerFrom (c :: before) rest

/-- **The upper case** of a text. -/
def upper (text : List Char) : List Char :=
  text.flatMap upperChar

/-- **The lower case** of a text. -/
def lower (text : List Char) : List Char :=
  lowerFrom [] text

/-- Whether two texts are equal up to the case of ASCII letters. -/
def equalsIgnoringCase (left right : List Char) : Bool :=
  left.map Char.toLower == right.map Char.toLower

@[simp] theorem upper_nil : upper [] = [] := rfl

@[simp] theorem upper_cons (c : Char) (text : List Char) :
    upper (c :: text) = upperChar c ++ upper text := rfl

@[simp] theorem upper_append (left right : List Char) :
    upper (left ++ right) = upper left ++ upper right := List.flatMap_append

end Reshape.Text
