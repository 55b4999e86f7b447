import Mathlib.Data.List.Forall2
import Reshape.Script.Reader

/-!
# The rows of a script

A script is read row by row. A row is a line as the words in it, which are all that counts: a
carriage return at the end of a line is blank, so it makes no difference whether it belongs to the
line. Here is which rows say what, stated without the reader, and that the reader agrees.

## Main definitions

* `rows`: the rows of a text
* `Says`: a row that says something
* `Misread`: a row that says nothing, with what is wrong with it
* `State.feed`: reading one after another
* `readRows`: what rows describe

## Main results

* `ofWords_eq_ok_iff`, `ofWords_eq_error_iff`: the reader of lines accepts exactly the rows that say
  something
* `State.feed_append`, `State.feed_congr`: reading one after another
* `read_eq_readRows`: a script is read row by row
-/

namespace Reshape.Script

/-- **A row**: the words of a line. -/
abbrev Row : Type := List (List Char)

/-- **The rows of a text**: it is cut at the line feeds, and each piece at its blanks. Behind a last
line feed there is an empty row. -/
def rows (text : String) : List Row :=
  (text.toList.splitOn '\n').map fun line => (line.splitOnP Text.isBlank).filter (· ≠ [])

/-- **A row that says something**. The command word counts in upper case, the other keywords up to
the case of ASCII letters. -/
inductive Says : Row → Line → Prop
  | empty : Says [] .skipped
  | comment (text : List Char) (words : Row) : Says (('#' :: text) :: words) .skipped
  | closing : Says [['\x7d']] .closing
  | copy {command toWord : List Char} (field target : List Char)
      (hc : Text.upper command = (Command.copy).word.toList) (ht : isKeyword toWord "TO") :
      Says [command, field, toWord, target]
        (.entry (String.ofList field) (.copy (String.ofList target)))
  | convert {command toWord withWord reverseWord : List Char} (grain : Grain)
      (field target there back : List Char)
      (hc : Text.upper command = (Command.convert grain).word.toList)
      (ht : isKeyword toWord "TO") (hw : isKeyword withWord "WITH")
      (hr : isKeyword reverseWord "REVERSE") :
      Says [command, field, toWord, target, withWord, there, reverseWord, back]
        (.entry (String.ofList field)
          (.convert grain (String.ofList target) (String.ofList there) (String.ofList back)))
  | nest {command toWord : List Char} (arity : Arity) (field target : List Char)
      (hc : Text.upper command = (Command.nest arity).word.toList) (ht : isKeyword toWord "TO") :
      Says [command, field, toWord, target, ['\x7b']]
        (.opening arity (String.ofList field) (String.ofList target))

/-- **A row that says nothing**, and what is wrong with it. -/
inductive Misread : Row → LineFault → Prop
  | malformed {first : List Char} {rest : Row} (command : Command)
      (hc : Text.upper first = command.word.toList)
      (h : ∀ line, ¬ Says (first :: rest) line) : Misread (first :: rest) (.malformed command)
  | unknown {first : List Char} {rest : Row}
      (hc : ∀ command : Command, Text.upper first ≠ command.word.toList)
      (h : ∀ line, ¬ Says (first :: rest) line) :
      Misread (first :: rest) (.unknownCommand (String.ofList first))

/-! ### The reader of lines -/

theorem ofWord?_eq_some_iff {text : List Char} {command : Command} :
    Command.ofWord? text = some command ↔ Text.upper text = command.word.toList := by
  constructor
  · intro h
    have hw := List.find?_some h
    exact (by simpa using hw : command.word.toList = Text.upper text).symm
  · intro h
    unfold Command.ofWord?
    rw [h]
    cases command with
    | copy => rfl
    | convert grain => cases grain <;> rfl
    | nest arity => cases arity <;> rfl

theorem ofWord?_eq_none_iff {text : List Char} :
    Command.ofWord? text = none ↔ ∀ command : Command, Text.upper text ≠ command.word.toList := by
  rw [Option.eq_none_iff_forall_ne_some]
  exact forall_congr' fun command => not_congr ofWord?_eq_some_iff

/-- A command word neither starts with a number sign nor is a brace. -/
theorem plain_of_command {text : List Char} {command : Command}
    (h : Text.upper text = command.word.toList) : text.head? ≠ some '#' ∧ text ≠ ['\x7d'] := by
  have hw : command.word.toList.head? ≠ some '#' ∧ command.word.toList ≠ ['\x7d'] := by
    cases command with
    | copy => decide
    | convert grain => cases grain <;> decide
    | nest arity => cases arity <;> decide
  rw [← h] at hw
  constructor
  · intro hs
    obtain ⟨rest, rfl⟩ := List.head?_eq_some_iff.mp hs
    -- The number sign has no upper case.
    have hu : Text.upperChar '#' = ['#'] := rfl
    exact hw.1 (by rw [Text.upper_cons, hu]; rfl)
  · rintro rfl
    exact hw.2 rfl

/-- The command word of a row tells what its command is. -/
theorem command_unique {text : List Char} {command other : Command}
    (h : Text.upper text = command.word.toList) (h' : Text.upper text = other.word.toList) :
    command = other :=
  Option.some.inj ((ofWord?_eq_some_iff.mpr h).symm.trans (ofWord?_eq_some_iff.mpr h'))

/-- A command accepts the words that it takes. -/
theorem apply_eq_ok_iff {command : Command} {first : List Char} {rest : Row} {line : Line}
    (hc : Text.upper first = command.word.toList) :
    command.apply rest = .ok line ↔ Says (first :: rest) line := by
  constructor
  · intro h
    unfold Command.apply at h
    split at h
    case h_1 field toWord target =>
      split at h
      case isTrue ht =>
        cases h
        exact .copy field target hc ht
      case isFalse => cases h
    case h_2 grain field toWord target withWord there reverseWord back =>
      split at h
      case isTrue hk =>
        cases h
        simp only [Bool.and_eq_true] at hk
        exact .convert grain field target there back hc hk.1.1 hk.1.2 hk.2
      case isFalse => cases h
    case h_3 arity field toWord target brace =>
      split at h
      case isTrue hk =>
        cases h
        simp only [Bool.and_eq_true, beq_iff_eq] at hk
        obtain ⟨ht, rfl⟩ := hk
        exact .nest arity field target hc ht
      case isFalse => cases h
    case h_4 => cases h
  · intro h
    cases h with
    | comment text words => exact absurd rfl (plain_of_command hc).1
    | closing => exact absurd rfl (plain_of_command hc).2
    | copy field target hc' ht =>
      obtain rfl := command_unique hc hc'
      exact if_pos ht
    | convert grain field target there back hc' ht hw hr =>
      obtain rfl := command_unique hc hc'
      exact if_pos (by rw [ht, hw, hr]; rfl)
    | nest arity field target hc' ht =>
      obtain rfl := command_unique hc hc'
      exact if_pos (by rw [ht]; rfl)

theorem apply_eq_error {command : Command} {rest : Row} {fault : LineFault}
    (h : command.apply rest = .error fault) : fault = .malformed command := by
  unfold Command.apply at h
  repeat' split at h
  all_goals
    cases h
    try rfl

theorem ofWords_of_command {command : Command} {first : List Char} (rest : Row)
    (hc : Text.upper first = command.word.toList) :
    Line.ofWords (first :: rest) = command.apply rest := by
  obtain ⟨hs, hb⟩ := plain_of_command hc
  rw [Line.ofWords, if_neg hs, if_neg fun h => hb h.1, ofWord?_eq_some_iff.mpr hc]

/-- **The reader accepts the rows that say something**, and takes them for what they say. -/
theorem ofWords_eq_ok_iff {row : Row} {line : Line} :
    Line.ofWords row = .ok line ↔ Says row line := by
  constructor
  · intro h
    cases row with
    | nil =>
      cases h
      exact .empty
    | cons first rest =>
      by_cases hs : first.head? = some '#'
      · obtain ⟨text, rfl⟩ := List.head?_eq_some_iff.mp hs
        cases h
        exact .comment text rest
      by_cases hb : first = ['\x7d'] ∧ rest = []
      · obtain ⟨rfl, rfl⟩ := hb
        cases h
        exact .closing
      cases hc : Command.ofWord? first with
      | some command =>
        have hc := ofWord?_eq_some_iff.mp hc
        exact (apply_eq_ok_iff hc).mp ((ofWords_of_command rest hc).symm.trans h)
      | none =>
        rw [Line.ofWords, if_neg hs, if_neg hb, hc] at h
        cases h
  · intro h
    cases h with
    | empty => rfl
    | comment text words => rfl
    | closing => rfl
    | copy field target hc ht =>
      exact (ofWords_of_command _ hc).trans ((apply_eq_ok_iff hc).mpr (.copy _ _ hc ht))
    | convert grain field target there back hc ht hw hr =>
      exact (ofWords_of_command _ hc).trans
        ((apply_eq_ok_iff hc).mpr (.convert _ _ _ _ _ hc ht hw hr))
    | nest arity field target hc ht =>
      exact (ofWords_of_command _ hc).trans ((apply_eq_ok_iff hc).mpr (.nest _ _ _ hc ht))

/-- A row that says nothing is neither a comment nor the end of a block. -/
theorem plain_of_not_says {first : List Char} {rest : Row}
    (h : ∀ line, ¬ Says (first :: rest) line) :
    first.head? ≠ some '#' ∧ ¬ (first = ['\x7d'] ∧ rest = []) := by
  constructor
  · intro hs
    obtain ⟨text, rfl⟩ := List.head?_eq_some_iff.mp hs
    exact h _ (.comment text rest)
  · rintro ⟨rfl, rfl⟩
    exact h _ .closing

/-- **The reader refuses the rows that say nothing**, and tells what is wrong with them. -/
theorem ofWords_eq_error_iff {row : Row} {fault : LineFault} :
    Line.ofWords row = .error fault ↔ Misread row fault := by
  constructor
  · intro h
    have hn (line : Line) : ¬ Says row line := fun hs =>
      nomatch h.symm.trans (ofWords_eq_ok_iff.mpr hs)
    cases row with
    | nil => cases h
    | cons first rest =>
      cases hc : Command.ofWord? first with
      | some command =>
        have hc := ofWord?_eq_some_iff.mp hc
        obtain rfl := apply_eq_error ((ofWords_of_command rest hc).symm.trans h)
        exact .malformed command hc hn
      | none =>
        obtain ⟨hs, hb⟩ := plain_of_not_says hn
        rw [Line.ofWords, if_neg hs, if_neg hb, hc] at h
        cases h
        exact .unknown (ofWord?_eq_none_iff.mp hc) hn
  · intro h
    cases h with
    | malformed command hc hn =>
      rw [ofWords_of_command _ hc]
      cases ha : command.apply _ with
      | ok line => exact absurd ((apply_eq_ok_iff hc).mp ha) (hn line)
      | error fault => rw [apply_eq_error ha]
    | unknown hc hn =>
      obtain ⟨hs, hb⟩ := plain_of_not_says hn
      rw [Line.ofWords, if_neg hs, if_neg hb, ofWord?_eq_none_iff.mpr hc]

/-! ### Row by row -/

/-- The pieces without blanks that are left when a text is cut at its blanks are its words. -/
theorem words_eq (text : List Char) :
    Text.words text = (text.splitOnP Text.isBlank).filter (· ≠ []) := by
  have hw (word : List Char) : Text.wordsFrom word text =
      (text.splitOnPPrepend Text.isBlank word).filter (· ≠ []) := by
    induction text generalizing word with
    | nil => cases word <;> simp [Text.wordsFrom, List.splitOnPPrepend_nil]
    | cons c rest ih =>
      rw [List.splitOnPPrepend_cons_eq_if, List.splitOnP_eq_splitOnPPrepend]
      cases hc : Text.isBlank c with
      | true => cases word <;> simp [Text.wordsFrom_cons_of_blank hc, ih]
      | false => simp [Text.wordsFrom_cons_of_not_blank hc, ih]
  exact hw []

/-- A carriage return at the end of a line belongs to no word. -/
theorem words_closeLine (line : List Char) :
    Text.words (Text.closeLine line) = Text.words line.reverse := by
  unfold Text.closeLine
  split
  · rw [List.reverse_cons, Text.words_append_blank (by rfl), Text.words_nil, List.append_nil]
  · rfl

/-- The pieces between line feeds have the words of the lines, but for an empty piece behind a last
line feed. -/
theorem map_words_linesFrom (line text : List Char) :
    ∃ ending : List Row, (ending = [] ∨ ending = [[]]) ∧
      (text.splitOnPPrepend (· == '\n') line).map Text.words =
        (Text.linesFrom line text).map Text.words ++ ending := by
  induction text generalizing line with
  | nil =>
    cases line with
    | nil => exact ⟨[[]], .inr rfl, rfl⟩
    | cons c line => exact ⟨[], .inl rfl, by simp [Text.linesFrom, List.splitOnPPrepend_nil]⟩
  | cons c rest ih =>
    rw [List.splitOnPPrepend_cons_eq_if, List.splitOnP_eq_splitOnPPrepend, Text.linesFrom]
    by_cases hc : c = '\n'
    · obtain ⟨ending, he, hr⟩ := ih []
      refine ⟨ending, he, ?_⟩
      rw [if_pos (beq_iff_eq.mpr hc), if_pos hc, List.map_cons, List.map_cons, hr,
        words_closeLine, List.cons_append]
    · rw [if_neg (mt beq_iff_eq.mp hc), if_neg hc]
      exact ih (c :: line)

/-- The rows of a text are the words of its lines, but for an empty row behind a last line feed. -/
theorem rows_eq (text : String) :
    rows text = (Text.lines text.toList).map Text.words ∨
      rows text = (Text.lines text.toList).map Text.words ++ [[]] := by
  have hw : rows text = (text.toList.splitOn '\n').map Text.words :=
    List.map_congr_left fun line _ => (words_eq line).symm
  obtain ⟨ending, he, hr⟩ := map_words_linesFrom [] text.toList
  have h : rows text = (Text.lines text.toList).map Text.words ++ ending := hw.trans hr
  rcases he with rfl | rfl
  · exact .inl (h.trans (List.append_nil _))
  · exact .inr h

example : rows " # one\r\n\x7d\n" = [[['#'], ['o', 'n', 'e']], [['\x7d']], []] := by decide

namespace State

/-- What a line does, its fault located. -/
def stepAt (state : State) (number : Nat) (line : Line) : Except Located State :=
  match state.step number line with
  | .error fault => .error ⟨fault, number⟩
  | .ok next => .ok next

/-- Reads one row, which has the given number. -/
def readRow (state : State) (number : Nat) (row : Row) : Except Located State :=
  match Line.ofWords row with
  | .error fault => .error ⟨.line fault, number⟩
  | .ok line => state.stepAt number line

variable {α β : Type}

/-- Reads items one after another, the first of which has the given number. -/
def feed (read : State → Nat → α → Except Located State) :
    State → Nat → List α → Except Located State
  | state, _, [] => .ok state
  | state, number, item :: rest =>
    match read state number item with
    | .error located => .error located
    | .ok next => feed read next (number + 1) rest

/-- What is read first does not depend on what comes behind it. -/
theorem feed_append (read : State → Nat → α → Except Located State) (state : State)
    (number : Nat) (left right : List α) :
    feed read state number (left ++ right) =
      (feed read state number left).bind fun next =>
        feed read next (number + left.length) right := by
  induction left generalizing state number with
  | nil => rfl
  | cons item rest ih =>
    rw [List.cons_append, feed, feed]
    cases read state number item with
    | error located => rfl
    | ok next =>
      rw [List.length_cons, ← Nat.add_assoc, Nat.add_right_comm]
      exact ih next (number + 1)

/-- Items that are read alike one by one are read alike one after another. -/
theorem feed_congr {read : State → Nat → α → Except Located State}
    {read' : State → Nat → β → Except Located State} {items : List α} {items' : List β}
    (h : List.Forall₂
      (fun item item' => ∀ state number, read state number item = read' state number item')
      items items')
    (state : State) (number : Nat) :
    feed read state number items = feed read' state number items' := by
  induction h generalizing state number with
  | nil => rfl
  | @cons item item' rest rest' hi _ ih =>
    rw [feed, feed, hi]
    cases read' state number item' with
    | error located => rfl
    | ok next => exact ih next (number + 1)

theorem readLines_eq_feed (state : State) (number : Nat) (lines : List (List Char)) :
    state.readLines number lines = feed readLine state number lines := by
  induction lines generalizing state number with
  | nil => rfl
  | cons line rest ih =>
    rw [readLines, feed]
    cases state.readLine number line with
    | error located => rfl
    | ok next => exact ih next (number + 1)

/-- Of the lines, the words count. -/
theorem readLines_eq_feed_words (state : State) (number : Nat) (lines : List (List Char)) :
    state.readLines number lines = feed readRow state number (lines.map Text.words) := by
  rw [readLines_eq_feed]
  refine feed_congr ?_ state number
  rw [List.forall₂_map_right_iff, List.forall₂_same]
  exact fun line _ state number => rfl

end State

/-- What the rows of a script describe, or the first fault in them. -/
def readRows (rows : List Row) : Except Located Definition :=
  (State.feed State.readRow State.start 1 rows).bind State.finish

/-- **A script is read row by row.** -/
theorem read_eq_readRows (text : String) : read text.toList = readRows (rows text) := by
  have hr : State.feed State.readRow State.start 1 (rows text) =
      State.start.readLines 1 (Text.lines text.toList) := by
    rw [State.readLines_eq_feed_words]
    rcases rows_eq text with h | h
    · rw [h]
    · -- The empty row behind a last line feed is skipped.
      rw [h, State.feed_append]
      cases State.feed State.readRow .start 1 ((Text.lines text.toList).map Text.words) <;> rfl
  rw [read, readRows, hr]
  cases State.start.readLines 1 (Text.lines text.toList) <;> rfl

end Reshape.Script
