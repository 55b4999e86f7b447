/-!
# Blanks, words and lines

How a text is cut up: at its blank characters into words, and at its line feeds into lines. Blank
are the characters with the property White_Space.

## Main definitions

* `isBlank`: the blank characters
* `trim`: a text without the blanks around it
* `words`: the longest pieces without blanks
* `lines`: the pieces between line feeds

## Main results

* `words_append_blank`: words are parted by a blank
* `words_of_forall_not_blank`: a text without blanks is one word
-/

namespace Reshape.Text

/-- Whether a character has the property White_Space. -/
def isBlank (c : Char) : Bool :=
  let n := c.toNat
  (0x9 ≤ n && n ≤ 0xD) || n == 0x20 || n == 0x85 || n == 0xA0 || n == 0x1680 ||
    (0x2000 ≤ n && n ≤ 0x200A) || n == 0x2028 || n == 0x2029 || n == 0x202F || n == 0x205F ||
    n == 0x3000

/-- A text without the blanks at its end. -/
def trimEnd (text : List Char) : List Char :=
  (text.reverse.dropWhile isBlank).reverse

/-- **A text without the blanks** at its start and end. -/
def trim (text : List Char) : List Char :=
  trimEnd (text.dropWhile isBlank)

/-- The words of a text, the first of which continues a word whose characters so far are given
last first. -/
def wordsFrom : List Char → List Char → List (List Char)
  | word, [] => if word.isEmpty then [] else [word.reverse]
  | word, c :: rest =>
    if isBlank c then
      if word.isEmpty then wordsFrom [] rest else word.reverse :: wordsFrom [] rest
    else wordsFrom (c :: word) rest

/-- **The words** of a text: its longest pieces without blanks, in order. -/
def words (text : List Char) : List (List Char) :=
  wordsFrom [] text

/-- A line whose characters are given last first, without the carriage return at its end. -/
def closeLine : List Char → List Char
  | '\r' :: before => before.reverse
  | line => line.reverse

/-- The lines of a text, the first of which continues a line whose characters so far are given last
first. -/
def linesFrom : List Char → List Char → List (List Char)
  | line, [] => if line.isEmpty then [] else [line.reverse]
  | line, c :: rest =>
    if c = '\n' then closeLine line :: linesFrom [] rest else linesFrom (c :: line) rest

/-- **The lines** of a text. A line ends at a line feed, a carriage return before which belongs to
the ending; the last line needs no ending. -/
def lines (text : List Char) : List (List Char) :=
  linesFrom [] text

@[simp] theorem words_nil : words [] = [] := rfl

theorem wordsFrom_cons_of_blank {c : Char} (hc : isBlank c = true) (word rest : List Char) :
    wordsFrom word (c :: rest) =
      if word.isEmpty then wordsFrom [] rest else word.reverse :: wordsFrom [] rest :=
  by rw [wordsFrom, if_pos hc]

theorem wordsFrom_cons_of_not_blank {c : Char} (hc : isBlank c = false) (word rest : List Char) :
    wordsFrom word (c :: rest) = wordsFrom (c :: word) rest :=
  by rw [wordsFrom, if_neg (Bool.eq_false_iff.1 hc)]

theorem wordsFrom_append_blank {c : Char} (hc : isBlank c = true) (word x y : List Char) :
    wordsFrom word (x ++ c :: y) = wordsFrom word x ++ words y := by
  induction x generalizing word with
  | nil => rw [List.nil_append, wordsFrom_cons_of_blank hc]; cases word <;> rfl
  | cons d x ih =>
    rw [List.cons_append]
    cases hd : isBlank d
    · rw [wordsFrom_cons_of_not_blank hd, wordsFrom_cons_of_not_blank hd, ih]
    · rw [wordsFrom_cons_of_blank hd, wordsFrom_cons_of_blank hd, ih]
      cases word <;> rfl

/-- Words are parted by a blank. -/
theorem words_append_blank {c : Char} (hc : isBlank c = true) (x y : List Char) :
    words (x ++ c :: y) = words x ++ words y :=
  wordsFrom_append_blank hc [] x y

theorem words_cons_blank {c : Char} (hc : isBlank c = true) (text : List Char) :
    words (c :: text) = words text := by
  simpa using words_append_blank hc [] text

theorem wordsFrom_of_forall_not_blank {word x : List Char} (hw : word ≠ [] ∨ x ≠ [])
    (h : ∀ c ∈ x, isBlank c = false) : wordsFrom word x = [word.reverse ++ x] := by
  induction x generalizing word with
  | nil =>
    rcases word with _ | ⟨d, word⟩
    · simp at hw
    · exact congrArg (fun w => [w]) (List.append_nil _).symm
  | cons c x ih =>
    have hc : isBlank c = false := h c (by simp)
    rw [wordsFrom_cons_of_not_blank hc, ih (Or.inl (by simp)) fun d hd => h d (by simp [hd])]
    simp

/-- A text without blanks is one word. -/
theorem words_of_forall_not_blank {x : List Char} (hx : x ≠ []) (h : ∀ c ∈ x, isBlank c = false) :
    words x = [x] := by
  simpa [words] using @wordsFrom_of_forall_not_blank [] x (Or.inr hx) h

end Reshape.Text
