import Reshape.Proofs.Script.Layout
import Mathlib.Data.List.DropRight

/-!
# Reading with a stack of frames

A script can be read with a stack of frames: one frame for each open block, over the frame of the
rules outside all blocks. Then there is much that could go wrong beside the script: the innermost
frame of an empty stack could be asked for, or a word that a line does not have; a block could end
whose frame nothing opened; and at the end there could be no frame to take the rules from. Here is
such a reader, with all of that as outcomes, and that none of it ever happens: at every moment the
frame at the bottom is the only one that nothing opened, and the other frames were opened in the
order of their lines. So it reads what the reader with open blocks reads.

## Main definitions

* `Frame`: the rules of a block so far, and what opened it
* `Slip`: what could go wrong beside the script
* `Course`: the moments of reading, and how it ends
* `Moment.Sound`: a moment with the stack in order
* `Stack.readLine`, `Stack.readLines`, `Stack.finish`: reading with a stack
* `State.frames`: the stack that stands for a state

## Main results

* `Text.words_trim`: trimming a line changes none of its words
* `Course.Follows.bind`: one course after another follows one result after another
* `Stack.follows_readLine`, `Stack.follows_readLines`: a line, and lines, read with a stack
* `Stack.read_sound`: no slip, and the stack in order at every moment
-/

namespace Reshape

/-! ### Trimmed lines -/

namespace Text

variable {text : List Char} {c : Char}

theorem words_dropWhile (text : List Char) : words (text.dropWhile isBlank) = words text := by
  induction text with
  | nil => rfl
  | cons c rest ih =>
    rw [List.dropWhile_cons]
    split
    case isTrue hc => rw [words_cons_blank hc, ih]
    case isFalse => rfl

theorem words_trimEnd (text : List Char) : words (trimEnd text) = words text := by
  induction text using List.reverseRecOn with
  | nil => rfl
  | append_singleton text c ih =>
    rw [trimEnd, List.reverse_concat, List.dropWhile_cons]
    split
    case isTrue hc =>
      rw [words_append_blank hc, words_nil, List.append_nil]
      exact ih
    case isFalse => rw [List.reverse_cons, List.reverse_reverse]

/-- **Trimming a line changes none of its words.** -/
theorem words_trim (text : List Char) : words (trim text) = words text := by
  rw [trim, words_trimEnd, words_dropWhile]

/-- The words of a text are its characters but for the blanks. -/
theorem flatten_words (text : List Char) :
    (words text).flatten = text.filter fun c => !isBlank c := by
  have hw (word : List Char) :
      (wordsFrom word text).flatten = word.reverse ++ text.filter fun c => !isBlank c := by
    induction text generalizing word with
    | nil => cases word <;> simp [wordsFrom]
    | cons c rest ih =>
      cases hc : isBlank c with
      | true => cases word <;> simp [wordsFrom_cons_of_blank hc, ih, hc]
      | false => simp [wordsFrom_cons_of_not_blank hc, ih, hc]
  exact hw []

theorem not_isBlank_of_head?_trim (h : (trim text).head? = some c) : isBlank c = false := by
  obtain ⟨rest, hr⟩ := List.head?_eq_some_iff.mp h
  obtain ⟨after, ha⟩ : trim text <+: text.dropWhile isBlank := List.rdropWhile_prefix ..
  have hn := List.head?_dropWhile_not isBlank text
  rwa [← ha, hr] at hn

theorem not_isBlank_of_getLast?_trim (h : (trim text).getLast? = some c) : isBlank c = false := by
  have hn := List.head?_dropWhile_not isBlank (text.dropWhile isBlank).reverse
  rw [trim, trimEnd, List.getLast?_reverse] at h
  rwa [h] at hn

/-- A text is one character, the blanks around it aside, if this is its only word. -/
theorem trim_eq_singleton_iff (hc : isBlank c = false) : trim text = [c] ↔ words text = [[c]] := by
  rw [← words_trim text]
  constructor
  · intro h
    rw [h]
    exact words_of_forall_not_blank (List.cons_ne_nil c []) (List.forall_mem_singleton.mpr hc)
  · intro h
    have hf : ((trim text).filter fun d => !isBlank d) = [c] := by rw [← flatten_words, h]; rfl
    cases ht : trim text with
    | nil =>
      rw [ht] at hf
      cases hf
    | cons d rest =>
      have hh : (trim text).head? = some d := by rw [ht]; rfl
      have hd : isBlank d = false := not_isBlank_of_head?_trim hh
      rw [ht, List.filter_cons_of_pos (by rw [hd]; rfl)] at hf
      obtain ⟨rfl, hr⟩ := List.cons.inj hf
      -- All characters behind the first are blank, but the last of a trimmed text is not.
      rcases List.eq_nil_or_concat rest with rfl | ⟨before, e, rfl⟩
      · rfl
      · have hl : (trim text).getLast? = some e := by
          rw [ht, List.concat_eq_append, ← List.cons_append, List.getLast?_concat]
        simp [not_isBlank_of_getLast?_trim hl] at hr

end Text

namespace Script

/-! ### Reading with a stack -/

/-- **What opens a frame**: the rule that it will become, and the line of the opening. -/
structure Opener where
  arity : Arity
  field : String
  target : String
  line : Nat

/-- **A frame**: the rules of a block so far, and what opened it, if something did. -/
structure Frame where
  rules : Definition
  openedBy : Option Opener

/-- **A stack of frames**, innermost first. -/
abbrev Stack : Type := List Frame

/-- **A slip**: what could go wrong beside the script. -/
inductive Slip where
  /-- The innermost frame is asked for, and there is none. -/
  | noFrame
  /-- A word is asked for that a line does not have. -/
  | noWord (index count : Nat)
  /-- A block ends whose frame nothing opened. -/
  | noOpener
  /-- There is no frame to take the rules from at the end. -/
  | noRoot

/-- Why reading halts: a fault of the script, or a slip. -/
inductive Halt where
  | refused (located : Located)
  | slipped (slip : Slip)

/-- **A moment of reading**: the stack while the line with the given number is read. -/
structure Moment where
  line : Nat
  stack : Stack

/-- **A course of reading**: its moments, and how it ends. -/
structure Course (α : Type) where
  moments : List Moment
  outcome : Except Halt α

namespace Course

variable {α β : Type}

/-- The course that does nothing but answer. -/
protected def pure (a : α) : Course α :=
  ⟨[], .ok a⟩

/-- The first course and then, if it answers, the second. -/
protected def bind (course : Course α) (next : α → Course β) : Course β :=
  match course.outcome with
  | .ok a => ⟨course.moments ++ (next a).moments, (next a).outcome⟩
  | .error halt => ⟨course.moments, .error halt⟩

instance : Monad Course where
  pure := Course.pure
  bind := Course.bind

/-- The course that ends with a fault of the line with the given number. -/
def refuse (fault : Fault) (number : Nat) : Course α :=
  ⟨[], .error (.refused ⟨fault, number⟩)⟩

/-- The course that ends with a slip. -/
def slip (slip : Slip) : Course α :=
  ⟨[], .error (.slipped slip)⟩

/-- The moment at which a line is read with the given stack. -/
def watch (number : Nat) (stack : Stack) : Course Stack :=
  ⟨[⟨number, stack⟩], .ok stack⟩

end Course

namespace Command

/-- How many words a line with a command has. -/
def wordCount : Command → Nat
  | copy => 4
  | convert _ => 8
  | nest _ => 5

/-- The tests for the words of a line with a command, each with the place of its word. -/
def wordTests : Command → List (Nat × (List Char → Bool))
  | copy => [(2, (isKeyword · "TO"))]
  | convert _ => [(2, (isKeyword · "TO")), (4, (isKeyword · "WITH")), (6, (isKeyword · "REVERSE"))]
  | nest _ => [(2, (isKeyword · "TO")), (4, (· == ['\x7b']))]

end Command

namespace Stack

open Course

/-- Sets a rule in the innermost frame. -/
def setRule (stack : Stack) (number : Nat) (field : String) (rule : Rule String) : Course Stack :=
  match stack with
  | [] => slip .noFrame
  | frame :: below => watch number (⟨Fields.insert frame.rules field rule, frame.openedBy⟩ :: below)

/-- Ends the innermost block: its frame is taken from the stack, and becomes a rule of the next. -/
def closeBlock (stack : Stack) (number : Nat) : Course Stack :=
  if stack.length < 2 then refuse .unexpectedClose number
  else
    match stack with
    | [] => slip .noOpener
    | frame :: below => do
      let below ← watch number below
      match frame.openedBy with
      | none => slip .noOpener
      | some opener =>
        setRule below number opener.field (.nest opener.arity opener.target frame.rules)

/-- The word at a place of a line. -/
def word (words : Row) (i : Nat) : Course (List Char) :=
  match words[i]? with
  | some text => pure text
  | none => slip (.noWord i words.length)

/-- Whether the words at some places pass the tests for these, up to the first that does not. -/
def passes (words : Row) : List (Nat × (List Char → Bool)) → Course Bool
  | [] => pure true
  | (i, test) :: rest => do
    let text ← word words i
    if test text then passes words rest else pure false

/-- Whether a line has as many words as given, and if so, whether they pass the tests. -/
def fits (words : Row) (count : Nat) (tests : List (Nat × (List Char → Bool))) : Course Bool :=
  if words.length = count then passes words tests else pure false

/-- Does what a line with a command says. -/
def obey (stack : Stack) (number : Nat) (words : Row) : Command → Course Stack
  | .copy => do
    let field ← word words 1
    let target ← word words 3
    setRule stack number (String.ofList field) (.copy (String.ofList target))
  | .convert grain => do
    let target ← word words 3
    let there ← word words 5
    let back ← word words 7
    let field ← word words 1
    setRule stack number (String.ofList field)
      (.convert grain (String.ofList target) (String.ofList there) (String.ofList back))
  | .nest arity => do
    let field ← word words 1
    let target ← word words 3
    watch number (⟨[], some ⟨arity, String.ofList field, String.ofList target, number⟩⟩ :: stack)

/-- Reads a line with a command. -/
def readCommand (stack : Stack) (number : Nat) (words : Row) (command : Command) :
    Course Stack := do
  if ← fits words command.wordCount command.wordTests then obey stack number words command
  else refuse (.line (.malformed command)) number

/-- Reads the words of a line that is neither a comment nor the end of a block. -/
def readWords (stack : Stack) (number : Nat) (words : Row) : Course Stack := do
  let first ← word words 0
  match Command.ofWord? first with
  | some command => readCommand stack number words command
  | none =>
    let first ← word words 0
    refuse (.line (.unknownCommand (String.ofList first))) number

/-- **Reads a line**, which has the given number. -/
def readLine (stack : Stack) (number : Nat) (line : List Char) : Course Stack :=
  let trimmed := Text.trim line
  if trimmed = [] ∨ trimmed.head? = some '#' then pure stack
  else if trimmed = ['\x7d'] then closeBlock stack number
  else readWords stack number (Text.words trimmed)

/-- **Reads lines**, the first of which has the given number. -/
def readLines : Stack → Nat → List (List Char) → Course Stack
  | stack, _, [] => pure stack
  | stack, number, line :: rest => do
    let stack ← watch number stack
    let next ← readLine stack number line
    readLines next (number + 1) rest

/-- The last frame, taken from the stack if no block is open. -/
def finish (stack : Stack) : Course Frame :=
  match stack.head?.bind Frame.openedBy with
  | some opener => refuse (.unclosed opener.field) opener.line
  | none =>
    match stack with
    | [] => slip .noRoot
    | frame :: _ => pure frame

/-- The stack before the first line. -/
def start : Stack :=
  [⟨[], none⟩]

/-- **Reads a script** with a stack of frames. -/
def read (text : String) : Course Definition := do
  let stack ← start.readLines 1 (Text.lines text.toList)
  let root ← stack.finish
  pure root.rules

end Stack

/-! ### Moments and courses -/

/-- The openers of a stack, innermost first. -/
def Stack.openers (stack : Stack) : List Opener :=
  stack.filterMap Frame.openedBy

/-- **A sound moment**: the stack is not empty, nothing opened the frame at its bottom but something
every other frame, and their lines ascend from the bottom to the top, up to the present one. -/
structure Moment.Sound (moment : Moment) : Prop where
  ne_nil : moment.stack ≠ []
  bottom : ∃ above bottom, moment.stack = above ++ [bottom] ∧ bottom.openedBy = none ∧
    ∀ frame ∈ above, frame.openedBy.isSome = true
  within : ∀ opener ∈ Stack.openers moment.stack, 1 ≤ opener.line ∧ opener.line ≤ moment.line
  ascending : (Stack.openers moment.stack).Pairwise fun upper lower => lower.line < upper.line

namespace Course

variable {α β : Type}

/-- **A course follows a result**: all its moments are sound, and it ends with the result, so without
a slip. -/
structure Follows (course : Course α) (result : Except Located α) : Prop where
  sound : ∀ moment ∈ course.moments, moment.Sound
  outcome : course.outcome = result.mapError Halt.refused

theorem Follows.pure (a : α) : Follows (pure a) (.ok a) where
  sound _ hm := absurd hm List.not_mem_nil
  outcome := rfl

theorem follows_refuse (fault : Fault) (number : Nat) :
    (refuse fault number : Course α).Follows (.error ⟨fault, number⟩) where
  sound _ hm := absurd hm List.not_mem_nil
  outcome := rfl

/-- **One course after another** follows one result after another. -/
theorem Follows.bind {σ : Type} {f : σ → α} {course : Course α} {result : Except Located σ}
    {next : α → Course β} {after : σ → Except Located β} (h : course.Follows (result.map f))
    (h' : ∀ state, result = .ok state → (next (f state)).Follows (after state)) :
    (course >>= next).Follows (result.bind after) := by
  obtain ⟨moments, outcome⟩ := course
  obtain ⟨hs, rfl⟩ := h
  cases result with
  | error located => exact ⟨hs, rfl⟩
  | ok state =>
    obtain ⟨hs', ho⟩ := h' state rfl
    exact ⟨fun moment hm => (List.mem_append.mp hm).elim (hs moment) (hs' moment), ho⟩

theorem Follows.ne_slipped {course : Course α} {result : Except Located α}
    (h : course.Follows result) (slip : Slip) : course.outcome ≠ .error (.slipped slip) := by
  rw [h.outcome]
  rcases result with located | a <;> rintro ⟨⟩

end Course

/-! ### Stacks of states -/

/-- What opened an open block. -/
def OpenBlock.opener (block : OpenBlock) : Opener :=
  ⟨block.arity, block.field, block.target, block.line⟩

/-- The stack of the rules of the innermost block and the open blocks. -/
def framesOf : Definition → List OpenBlock → Stack
  | rules, [] => [⟨rules, none⟩]
  | rules, block :: blocks => ⟨rules, some block.opener⟩ :: framesOf block.outer blocks

/-- **The stack that stands for a state.** -/
def State.frames (state : State) : Stack :=
  framesOf state.rules state.blocks

/-- **Open blocks before a line**: their lines ascend from the outermost to the innermost. -/
structure OpenBefore (number : Nat) (blocks : List OpenBlock) : Prop where
  within : ∀ block ∈ blocks, 1 ≤ block.line ∧ block.line < number
  ascending : blocks.Pairwise fun upper lower => lower.line < upper.line

variable {number : Nat} {blocks : List OpenBlock}

theorem openers_framesOf (rules : Definition) (blocks : List OpenBlock) :
    Stack.openers (framesOf rules blocks) = blocks.map OpenBlock.opener := by
  induction blocks generalizing rules with
  | nil => rfl
  | cons block blocks ih => exact congrArg (block.opener :: ·) (ih block.outer)

theorem exists_bottom (rules : Definition) (blocks : List OpenBlock) :
    ∃ above bottom, framesOf rules blocks = above ++ [bottom] ∧ bottom.openedBy = none ∧
      ∀ frame ∈ above, frame.openedBy.isSome = true := by
  induction blocks generalizing rules with
  | nil => exact ⟨[], ⟨rules, none⟩, rfl, rfl, fun _ hf => absurd hf List.not_mem_nil⟩
  | cons block blocks ih =>
    obtain ⟨above, bottom, hs, hb, ha⟩ := ih block.outer
    refine ⟨⟨rules, some block.opener⟩ :: above, bottom, ?_, hb, ?_⟩
    · rw [framesOf, hs, List.cons_append]
    · exact List.forall_mem_cons.mpr ⟨rfl, ha⟩

namespace OpenBefore

theorem nil (number : Nat) : OpenBefore number [] :=
  ⟨fun _ hb => absurd hb List.not_mem_nil, .nil⟩

theorem tail {block : OpenBlock} (h : OpenBefore number (block :: blocks)) :
    OpenBefore number blocks :=
  ⟨fun b hb => h.within b (List.mem_cons_of_mem _ hb), h.ascending.of_cons⟩

theorem succ (h : OpenBefore number blocks) : OpenBefore (number + 1) blocks :=
  ⟨fun block hb => ⟨(h.within block hb).1, Nat.lt_succ_of_lt (h.within block hb).2⟩, h.ascending⟩

theorem cons (h : OpenBefore number blocks) (hn : 1 ≤ number) {block : OpenBlock}
    (hb : block.line = number) : OpenBefore (number + 1) (block :: blocks) := by
  subst hb
  constructor
  · exact List.forall_mem_cons.mpr ⟨⟨hn, Nat.lt_succ_self _⟩, h.succ.within⟩
  · exact List.pairwise_cons.mpr ⟨fun lower hl => (h.within lower hl).2, h.ascending⟩

/-- While a line is read, the blocks opened up to it make a sound stack. -/
theorem sound (h : OpenBefore (number + 1) blocks) (rules : Definition) :
    Moment.Sound ⟨number, framesOf rules blocks⟩ where
  ne_nil := by cases blocks <;> exact List.cons_ne_nil _ _
  bottom := exists_bottom rules blocks
  within opener ho := by
    rw [openers_framesOf] at ho
    obtain ⟨block, hb, rfl⟩ := List.mem_map.mp ho
    exact ⟨(h.within block hb).1, Nat.le_of_lt_succ (h.within block hb).2⟩
  ascending := by
    rw [openers_framesOf]
    exact List.pairwise_map.mpr h.ascending

/-- **A line that is read** leaves the blocks in order. -/
theorem step {state next : State} {line : Line} (h : OpenBefore number state.blocks)
    (hn : 1 ≤ number) (hs : state.step number line = .ok next) :
    OpenBefore (number + 1) next.blocks := by
  obtain ⟨rules, blocks⟩ := state
  cases line with
  | skipped =>
    cases hs
    exact h.succ
  | entry field rule =>
    cases hs
    exact h.succ
  | opening arity field target =>
    cases hs
    exact h.cons hn rfl
  | closing =>
    cases blocks with
    | nil => cases hs
    | cons block blocks =>
      cases hs
      exact h.tail.succ

theorem readLine {state next : State} {line : List Char} (h : OpenBefore number state.blocks)
    (hn : 1 ≤ number) (hr : state.readLine number line = .ok next) :
    OpenBefore (number + 1) next.blocks := by
  unfold State.readLine at hr
  split at hr
  · cases hr
  · split at hr
    · cases hr
    case h_2 hs =>
      cases hr
      exact h.step hn hs

/-- **Lines that are read** leave the blocks in order. -/
theorem readLines {state next : State} {lines : List (List Char)}
    (h : OpenBefore number state.blocks) (hn : 1 ≤ number)
    (hr : state.readLines number lines = .ok next) :
    OpenBefore (number + lines.length) next.blocks := by
  induction lines generalizing state number with
  | nil =>
    cases hr
    exact h
  | cons line rest ih =>
    rw [State.readLines] at hr
    cases hl : state.readLine number line with
    | error located =>
      rw [hl] at hr
      cases hr
    | ok after =>
      rw [hl] at hr
      have ha := ih (h.readLine hn hl) (Nat.le_add_left 1 number) hr
      rwa [Nat.add_assoc, Nat.add_comm 1] at ha

end OpenBefore

namespace Stack

open Course

variable {state : State}

/-- A moment with the stack of a state. -/
theorem follows_watch (state : State) (h : OpenBefore (number + 1) state.blocks) :
    (watch number state.frames).Follows ((Except.ok state).map State.frames) where
  sound _ hm := List.mem_singleton.mp hm ▸ h.sound state.rules
  outcome := rfl

/-- The innermost frame is there when it is asked for. -/
theorem follows_setRule (h : OpenBefore (number + 1) state.blocks) (field : String)
    (rule : Rule String) :
    (setRule state.frames number field rule).Follows
      (.ok (State.frames ⟨Fields.insert state.rules field rule, state.blocks⟩)) := by
  obtain ⟨rules, blocks⟩ := state
  have hs : setRule (State.frames ⟨rules, blocks⟩) number field rule =
      watch number (State.frames ⟨Fields.insert rules field rule, blocks⟩) := by
    cases blocks <;> rfl
  rw [hs]
  exact follows_watch _ h

/-- The end of a block: its frame is taken from the stack before its rule is set. -/
theorem follows_closeBlock (h : OpenBefore number state.blocks) :
    (closeBlock state.frames number).Follows ((state.stepAt number .closing).map State.frames) := by
  obtain ⟨rules, blocks⟩ := state
  cases blocks with
  | nil => exact follows_refuse .unexpectedClose number
  | cons block blocks =>
    have hl : ¬ (⟨rules, some block.opener⟩ :: State.frames ⟨block.outer, blocks⟩).length < 2 := by
      cases blocks <;> simp [State.frames, framesOf]
    have hr : (State.stepAt ⟨rules, block :: blocks⟩ number .closing).map State.frames =
        (Except.ok (State.mk block.outer blocks)).bind fun outer => .ok (State.frames
          ⟨Fields.insert outer.rules block.field (.nest block.arity block.target rules),
            outer.blocks⟩) := rfl
    have ho : OpenBefore (number + 1) blocks := h.tail.succ
    show (closeBlock (⟨rules, some block.opener⟩ :: State.frames ⟨block.outer, blocks⟩)
      number).Follows _
    rw [closeBlock, if_neg hl, hr]
    refine (follows_watch _ ho).bind fun outer hs => ?_
    cases hs
    exact follows_setRule ho block.field _

/-- No test slips on the words that a line has. -/
theorem passes_eq {words : Row} {tests : List (Nat × (List Char → Bool))}
    (h : ∀ test ∈ tests, test.1 < words.length) :
    passes words tests = pure (tests.all fun test => words[test.1]?.any test.2) := by
  induction tests with
  | nil => rfl
  | cons test tests ih =>
    obtain ⟨i, test⟩ := test
    obtain ⟨hi, ht⟩ := List.forall_mem_cons.mp h
    have hw : words[i]? = some words[i] := List.getElem?_eq_getElem hi
    rw [passes, word, hw, ih ht, List.all_cons, hw]
    show (if test words[i] = true then _ else _) = pure (test words[i] && _)
    cases test words[i] <;> rfl

/-- The tests for a command are for words that a line with it has. -/
theorem lt_wordCount (command : Command) :
    ∀ test ∈ command.wordTests, test.1 < command.wordCount := by
  cases command <;> simp [Command.wordTests, Command.wordCount]

/-- Words that are those of a line with a command. -/
def Fit (command : Command) (words : Row) : Prop :=
  words.length = command.wordCount ∧
    (command.wordTests.all fun test => words[test.1]?.any test.2) = true

instance (command : Command) (words : Row) : Decidable (Fit command words) :=
  inferInstanceAs (Decidable (_ ∧ _))

/-- **The words of a line are tested** without a slip, as the number of words is tested first. -/
theorem fits_eq (command : Command) (words : Row) :
    fits words command.wordCount command.wordTests = pure (decide (Fit command words)) := by
  rw [fits]
  by_cases hl : words.length = command.wordCount
  · rw [if_pos hl, passes_eq fun test ht => hl ▸ lt_wordCount command test ht]
    simp only [Fit, hl, true_and, Bool.decide_eq_true]
  · rw [if_neg hl, decide_eq_false fun h : Fit command words => hl h.1]

theorem readCommand_eq (stack : Stack) (number : Nat) (words : Row) (command : Command) :
    readCommand stack number words command =
      if Fit command words then obey stack number words command
      else refuse (.line (.malformed command)) number := by
  rw [readCommand, fits_eq]
  show (if decide (Fit command words) = true then _ else _) = _
  simp only [decide_eq_true_eq]

theorem apply_eq_error_of_not_fit {command : Command} {first : List Char} {rest : Row}
    (h : ¬ Fit command (first :: rest)) : command.apply rest = .error (.malformed command) := by
  unfold Command.apply
  split
  · split
    case isTrue hk => exact absurd ⟨rfl, by simpa [Command.wordTests] using hk⟩ h
    case isFalse => rfl
  · split
    case isTrue hk => exact absurd ⟨rfl, by simpa [Command.wordTests, and_assoc] using hk⟩ h
    case isFalse => rfl
  · split
    case isTrue hk => exact absurd ⟨rfl, by simpa [Command.wordTests] using hk⟩ h
    case isFalse => rfl
  · rfl

/-- **A command that is obeyed** reads its words only where they are. -/
theorem follows_obey (h : OpenBefore number state.blocks) (hn : 1 ≤ number) {command : Command}
    {first : List Char} {rest : Row} (hf : Fit command (first :: rest)) :
    ∃ line, command.apply rest = .ok line ∧
      (obey state.frames number (first :: rest) command).Follows
        ((state.stepAt number line).map State.frames) := by
  obtain ⟨hl, ht⟩ := hf
  cases command with
  | copy =>
    obtain ⟨field, toWord, target, rfl⟩ := List.length_eq_three.mp (Nat.succ.inj hl)
    have hk : isKeyword toWord "TO" = true := by simpa [Command.wordTests] using ht
    exact ⟨_, if_pos hk, follows_setRule h.succ (String.ofList field) _⟩
  | convert grain =>
    have hl : rest.length = 7 := Nat.succ.inj hl
    obtain ⟨field, rest, rfl⟩ := List.exists_cons_of_length_eq_add_one hl
    obtain ⟨toWord, rest, rfl⟩ := List.exists_cons_of_length_eq_add_one (Nat.succ.inj hl)
    obtain ⟨target, rest, rfl⟩ :=
      List.exists_cons_of_length_eq_add_one (Nat.succ.inj (Nat.succ.inj hl))
    obtain ⟨withWord, there, reverseWord, back, rfl⟩ :=
      List.length_eq_four.mp (Nat.succ.inj (Nat.succ.inj (Nat.succ.inj hl)))
    have hk : (isKeyword toWord "TO" && isKeyword withWord "WITH" &&
        isKeyword reverseWord "REVERSE") = true := by
      simpa [Command.wordTests, and_assoc] using ht
    exact ⟨_, if_pos hk, follows_setRule h.succ (String.ofList field) _⟩
  | nest arity =>
    obtain ⟨field, toWord, target, brace, rfl⟩ := List.length_eq_four.mp (Nat.succ.inj hl)
    have hk : (isKeyword toWord "TO" && brace == ['\x7b']) = true := by
      simpa [Command.wordTests] using ht
    let block : OpenBlock :=
      ⟨arity, String.ofList field, String.ofList target, number, state.rules⟩
    have hb : OpenBefore (number + 1) (block :: state.blocks) := h.cons hn rfl
    exact ⟨_, if_pos hk, follows_watch ⟨[], block :: state.blocks⟩ hb⟩

/-- **A line with a command** is read with a stack as without. -/
theorem follows_readCommand (h : OpenBefore number state.blocks) (hn : 1 ≤ number)
    {command : Command} {first : List Char} (hc : Text.upper first = command.word.toList)
    (rest : Row) :
    (readCommand state.frames number (first :: rest) command).Follows
      ((state.readRow number (first :: rest)).map State.frames) := by
  rw [readCommand_eq, State.readRow, ofWords_of_command rest hc]
  split
  case isTrue hf =>
    obtain ⟨line, ha, hc⟩ := follows_obey h hn hf
    rw [ha]
    exact hc
  case isFalse hf =>
    rw [apply_eq_error_of_not_fit hf]
    exact follows_refuse _ number

theorem follows_readWords (h : OpenBefore number state.blocks) (hn : 1 ≤ number)
    {first : List Char} {rest : Row} (hs : first.head? ≠ some '#')
    (hb : ¬ (first = ['\x7d'] ∧ rest = [])) :
    (readWords state.frames number (first :: rest)).Follows
      ((state.readRow number (first :: rest)).map State.frames) := by
  show (match Command.ofWord? first with
    | some command => readCommand state.frames number (first :: rest) command
    | none => refuse (.line (.unknownCommand (String.ofList first))) number).Follows _
  cases hc : Command.ofWord? first with
  | some command => exact follows_readCommand h hn (ofWord?_eq_some_iff.mp hc) rest
  | none =>
    rw [State.readRow, Line.ofWords, if_neg hs, if_neg hb, hc]
    exact follows_refuse _ number

/-- **A line is read** with a stack as without. -/
theorem follows_readLine (h : OpenBefore number state.blocks) (hn : 1 ≤ number)
    (line : List Char) :
    (readLine state.frames number line).Follows
      ((state.readLine number line).map State.frames) := by
  have hr : state.readLine number line = state.readRow number (Text.words line) := rfl
  rw [hr, readLine, Text.words_trim]
  cases ht : Text.trim line with
  | nil =>
    have hw : Text.words line = [] := by rw [← Text.words_trim, ht]; rfl
    rw [hw, if_pos (.inl rfl)]
    exact .pure _
  | cons c text =>
    have hh : (Text.trim line).head? = some c := by rw [ht]; rfl
    -- The first word starts where the trimmed line does.
    obtain ⟨word, rest, hw⟩ := exists_words_cons (Text.not_isBlank_of_head?_trim hh) text
    rw [← ht, Text.words_trim] at hw
    by_cases hs : c = '#'
    · subst hs
      rw [hw, if_pos (.inr rfl)]
      exact .pure _
    rw [if_neg (by simp [hs])]
    by_cases hb : c :: text = ['\x7d']
    · rw [if_pos hb, (Text.trim_eq_singleton_iff rfl).mp (ht.trans hb)]
      exact follows_closeBlock h
    · rw [if_neg hb, hw]
      refine follows_readWords h hn (by simpa using hs) ?_
      rintro ⟨hf, rfl⟩
      exact hb (ht.symm.trans ((Text.trim_eq_singleton_iff rfl).mpr (hw.trans (by rw [hf]))))

/-- **Lines are read** with a stack as without. -/
theorem follows_readLines (state : State) (h : OpenBefore number state.blocks) (hn : 1 ≤ number)
    (lines : List (List Char)) :
    (readLines state.frames number lines).Follows
      ((state.readLines number lines).map State.frames) := by
  induction lines generalizing state number with
  | nil => exact .pure _
  | cons line rest ih =>
    have hr : (state.readLines number (line :: rest)).map State.frames =
        (Except.ok state).bind fun state => (state.readLine number line).bind fun next =>
          (next.readLines (number + 1) rest).map State.frames := by
      show _ = (state.readLine number line).bind _
      rw [State.readLines]
      cases state.readLine number line <;> rfl
    rw [readLines, hr]
    refine (follows_watch state h.succ).bind fun before hb => ?_
    cases hb
    exact (follows_readLine h hn line).bind fun next hl =>
      ih next (h.readLine hn hl) (Nat.le_add_left 1 number)

theorem follows_finish (state : State) :
    (finish state.frames >>= fun root => pure root.rules).Follows state.finish := by
  obtain ⟨rules, blocks⟩ := state
  cases blocks with
  | nil => exact .pure rules
  | cons block blocks => exact follows_refuse (.unclosed block.field) block.line

/-- **A script is read** with a stack as without. -/
theorem follows_read (text : String) : (read text).Follows (Script.read text.toList) := by
  have hr : Script.read text.toList =
      (State.start.readLines 1 (Text.lines text.toList)).bind State.finish := by
    rw [Script.read]
    cases State.start.readLines 1 (Text.lines text.toList) <;> rfl
  rw [hr]
  exact (follows_readLines .start (.nil 1) (Nat.le_refl 1) _).bind
    fun state _ => follows_finish state

/-- The only frame that nothing opened is the last one of the stack. -/
theorem frames_eq_of_head? (h : state.frames.head?.bind Frame.openedBy = none) :
    state.frames = [⟨state.rules, none⟩] := by
  obtain ⟨rules, blocks⟩ := state
  cases blocks with
  | nil => rfl
  | cons block blocks => cases h

/-- Behind lines that have been read, the stack is that of a state with its blocks in order. -/
theorem exists_state_of_readLines {lines : List (List Char)} {stack : Stack}
    (h : (start.readLines 1 lines).outcome = .ok stack) :
    ∃ state : State, stack = state.frames ∧ OpenBefore (lines.length + 1) state.blocks := by
  have hl := follows_readLines .start (.nil 1) (Nat.le_refl 1) lines
  cases hr : State.start.readLines 1 lines with
  | error located =>
    rw [hr] at hl
    have he : Except.ok stack = .error (Halt.refused located) := h.symm.trans hl.outcome
    cases he
  | ok state =>
    rw [hr] at hl
    have ho := (OpenBefore.nil 1).readLines (Nat.le_refl 1) hr
    rw [Nat.add_comm] at ho
    exact ⟨state, Except.ok.inj (h.symm.trans hl.outcome), ho⟩

/-- **Reading with a stack never slips.** At every moment, and behind every line, the stack is in
order: so the innermost frame is there when it is asked for, a block that ends has been opened, and
behind the last line, if no block is open, the frame that is taken is the one at the bottom. No word
is looked up that a line does not have. What is read is what the reader with open blocks reads. -/
theorem read_sound (text : String) :
    (∀ moment ∈ (read text).moments, moment.Sound) ∧
      (∀ before stack, before <+: Text.lines text.toList →
        (start.readLines 1 before).outcome = .ok stack →
          Moment.Sound ⟨before.length, stack⟩) ∧
      (∀ slip, (read text).outcome ≠ .error (.slipped slip)) ∧
      (∀ stack, (start.readLines 1 (Text.lines text.toList)).outcome = .ok stack →
        stack.head?.bind Frame.openedBy = none →
          ∃ root, stack = [root] ∧ root.openedBy = none ∧ finish stack = pure root) ∧
      (read text).outcome = (Script.read text.toList).mapError .refused := by
  have hf := follows_read text
  refine ⟨hf.sound, fun before stack _ hs => ?_, hf.ne_slipped, fun stack hs hn => ?_, hf.outcome⟩
  · obtain ⟨state, rfl, ho⟩ := exists_state_of_readLines hs
    exact ho.sound state.rules
  · obtain ⟨state, rfl, -⟩ := exists_state_of_readLines hs
    refine ⟨⟨state.rules, none⟩, frames_eq_of_head? hn, rfl, ?_⟩
    rw [frames_eq_of_head? hn]
    rfl

/-- The frame of the block is taken from the stack before its rule is set in the frame below. -/
example : ((read "OBJECT a TO b \x7b\n\x7d").moments.map fun moment =>
    (moment.line, moment.stack.map fun frame => Fields.keys frame.rules)) =
      [(1, [[]]), (1, [[], []]), (2, [[], []]), (2, [[]]), (2, [["a"]])] :=
  rfl

end Stack

end Script

end Reshape
