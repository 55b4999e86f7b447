import Reshape.Example.Definitions
import Reshape.Proofs.Fields
import Reshape.Proofs.Script.Rows

/-!
# The grammar of scripts

A script is a sequence of rules, and a rule of some of the kinds is a block with a sequence of rules
inside. The reader keeps a stack of open blocks instead. Here it is proved to accept exactly the
scripts of the grammar, to build the definition that a script denotes, and to report the first line
that does not fit or, if there is none, the block that is open innermost at the end.

## Main definitions

* `Denotes`: the rules that lines denote
* `height?`: how many blocks are open behind lines
* `Means`, `Faulty`: the definition that rows mean, and what is wrong with rows that mean nothing
* `Opened`: what the state of reading is behind some lines

## Main results

* `Opened.step`, `Opened.feed`: a line that is read leaves the state right, and so do all lines
* `verdict_feed`: what is read is what the rows mean, or what is wrong with them
* `read_eq_ok_iff`, `read_eq_error_iff`: the reader follows the grammar
* `Definition.ofScript_grammar`: the same for definitions and errors
-/

namespace Reshape

namespace Script

/-- **The rules that lines denote**, each under the name of its field. A block denotes the rule that
its rules are inside of, with a repeated field in its first place and with its last rule. -/
inductive Denotes : List Line → List (String × Rule String) → Prop
  | nil : Denotes [] []
  | skipped {lines : List Line} {entries : List (String × Rule String)}
      (h : Denotes lines entries) : Denotes (.skipped :: lines) entries
  | entry {lines : List Line} {entries : List (String × Rule String)} (field : String)
      (rule : Rule String) (h : Denotes lines entries) :
      Denotes (.entry field rule :: lines) ((field, rule) :: entries)
  | block {inside lines : List Line} {inner entries : List (String × Rule String)}
      {rules : Definition} (arity : Arity) (field target : String) (hi : Denotes inside inner)
      (hc : Fields.Collects inner rules) (h : Denotes lines entries) :
      Denotes (.opening arity field target :: (inside ++ .closing :: lines))
        ((field, .nest arity target rules) :: entries)

/-- How many blocks are open behind lines, given how many are before them; none if a line ends a
block where none is open. -/
def height? : Nat → List Line → Option Nat
  | n, [] => some n
  | n, .skipped :: lines => height? n lines
  | n, .entry _ _ :: lines => height? n lines
  | n, .opening _ _ _ :: lines => height? (n + 1) lines
  | 0, .closing :: _ => none
  | n + 1, .closing :: lines => height? n lines

/-- **The definition that rows mean**: a repeated field keeps its first place and has its last
rule. -/
def Means (rows : List Row) (definition : Definition) : Prop :=
  ∃ lines entries, List.Forall₂ Says rows lines ∧ Denotes lines entries ∧
    Fields.Collects entries definition

/-- **What is wrong with rows**, and where. -/
inductive Faulty : List Row → Located → Prop
  /-- The first row that does not fit says nothing. -/
  | misread {before : List Row} {lines : List Line} {row : Row} {fault : LineFault}
      (after : List Row) (hb : List.Forall₂ Says before lines) (hh : (height? 0 lines).isSome)
      (hr : Misread row fault) :
      Faulty (before ++ row :: after) ⟨.line fault, before.length + 1⟩
  /-- The first row that does not fit ends a block where none is open. -/
  | stray {before : List Row} {lines : List Line} {row : Row} (after : List Row)
      (hb : List.Forall₂ Says before lines) (hh : height? 0 lines = some 0)
      (hr : Says row .closing) :
      Faulty (before ++ row :: after) ⟨.unexpectedClose, before.length + 1⟩
  /-- All rows fit; the innermost block that is open at the end is the last one with nothing open
  behind its opening. -/
  | unclosed {rows : List Row} {before inside : List Line} {arity : Arity} {field target : String}
      (hr : List.Forall₂ Says rows (before ++ .opening arity field target :: inside))
      (hb : (height? 0 before).isSome) (hi : height? 0 inside = some 0) :
      Faulty rows ⟨.unclosed field, before.length + 1⟩

/-! ### Lines one after another -/

variable {lines more : List Line} {entries : List (String × Rule String)}

theorem Denotes.append {others : List (String × Rule String)} (h : Denotes lines entries)
    (h' : Denotes more others) : Denotes (lines ++ more) (entries ++ others) := by
  induction h with
  | nil => exact h'
  | skipped _ ih => exact .skipped ih
  | entry field rule _ ih => exact .entry field rule ih
  | block arity field target hi hc _ _ ih =>
    rw [List.cons_append, List.append_assoc]
    exact .block arity field target hi hc ih

theorem height?_append (n : Nat) (lines more : List Line) :
    height? n (lines ++ more) = (height? n lines).bind fun m => height? m more := by
  induction lines generalizing n with
  | nil => rfl
  | cons line lines ih =>
    cases line with
    | skipped => exact ih n
    | entry field rule => exact ih n
    | opening arity field target => exact ih (n + 1)
    | closing =>
      cases n with
      | zero => rfl
      | succ n => exact ih n

/-- The blocks of lines that denote rules are closed. -/
theorem Denotes.height? (h : Denotes lines entries) (n : Nat) : height? n lines = some n := by
  induction h generalizing n with
  | nil => rfl
  | skipped _ ih => exact ih n
  | entry field rule _ ih => exact ih n
  | block arity field target _ _ _ hi ih =>
    rw [Script.height?, height?_append, hi (n + 1)]
    exact ih n

/-! ### Running lines -/

namespace State

theorem feed_readRow_eq {rows : List Row} (h : List.Forall₂ Says rows lines) (state : State)
    (number : Nat) : feed readRow state number rows = feed stepAt state number lines := by
  refine feed_congr (h.imp fun row line hr state number => ?_) state number
  rw [readRow, ofWords_eq_ok_iff.mpr hr]

/-- Lines that denote rules set them in the innermost block, and leave the blocks as they were. -/
theorem feed_of_denotes (h : Denotes lines entries) (rules : Definition) (blocks : List OpenBlock)
    (number : Nat) :
    feed stepAt ⟨rules, blocks⟩ number lines = .ok ⟨Fields.insertAll rules entries, blocks⟩ := by
  induction h generalizing rules blocks number with
  | nil => rfl
  | skipped _ ih => exact ih rules blocks (number + 1)
  | entry field rule _ ih => exact ih (Fields.insert rules field rule) blocks (number + 1)
  | @block inside lines inner entries collected arity field target _ hc _ hi ih =>
    -- The lines inside start with no rules; the closing line sets them all as one rule.
    obtain rfl := Fields.collects_iff.mp hc
    have ho : feed stepAt ⟨rules, blocks⟩ number
        (.opening arity field target :: (inside ++ .closing :: lines)) =
        feed stepAt ⟨[], ⟨arity, field, target, number, rules⟩ :: blocks⟩ (number + 1)
          (inside ++ .closing :: lines) := rfl
    rw [ho, feed_append, hi]
    exact ih (Fields.insert rules field (.nest arity target (Fields.ofList inner))) blocks _

/-- Lines are read if none of them ends a block where none is open. -/
theorem exists_feed (state : State) {k : Nat} (h : height? state.blocks.length lines = some k)
    (number : Nat) :
    ∃ next, feed stepAt state number lines = .ok next ∧ next.blocks.length = k := by
  induction lines generalizing state number with
  | nil => exact ⟨state, rfl, Option.some.inj h⟩
  | cons line lines ih =>
    cases line with
    | skipped => exact ih state h (number + 1)
    | entry field rule =>
      exact ih ⟨Fields.insert state.rules field rule, state.blocks⟩ h (number + 1)
    | opening arity field target =>
      exact ih ⟨[], ⟨arity, field, target, number, state.rules⟩ :: state.blocks⟩ h (number + 1)
    | closing =>
      -- Where no block is open, there is no height.
      obtain ⟨rules, blocks⟩ := state
      cases blocks with
      | nil => cases h
      | cons block blocks => exact ih ⟨_, blocks⟩ h (number + 1)

end State

/-- The one fault of a line that says something. -/
theorem State.step_eq_error {state : State} {number : Nat} {line : Line} {fault : Fault}
    (h : state.step number line = .error fault) :
    line = .closing ∧ state.blocks = [] ∧ fault = .unexpectedClose := by
  obtain ⟨rules, blocks⟩ := state
  cases line with
  | skipped => cases h
  | entry field rule => cases h
  | opening arity field target => cases h
  | closing =>
    cases blocks with
    | nil =>
      cases h
      exact ⟨rfl, rfl, rfl⟩
    | cons block blocks => cases h

/-! ### What has been read -/

/-- **The state behind lines**: the rules of the innermost open block are what the lines inside it
denote, and around it is the state behind the lines before its opening. -/
inductive Opened : List Line → State → Prop
  | root {lines : List Line} {entries : List (String × Rule String)} (h : Denotes lines entries) :
      Opened lines ⟨Fields.ofList entries, []⟩
  | block {before inside : List Line} {outer : Definition} {blocks : List OpenBlock}
      {inner : List (String × Rule String)} (arity : Arity) (field target : String)
      (hb : Opened before ⟨outer, blocks⟩) (hi : Denotes inside inner) :
      Opened (before ++ .opening arity field target :: inside)
        ⟨Fields.ofList inner, ⟨arity, field, target, before.length + 1, outer⟩ :: blocks⟩

namespace Opened

theorem height? {state : State} (h : Opened lines state) :
    height? 0 lines = some state.blocks.length := by
  induction h with
  | root h => exact h.height? 0
  | block arity field target _ hi ih =>
    rw [height?_append, ih, Option.bind_some, Script.height?]
    exact hi.height? _

/-- Lines that denote rules set them in the innermost block. -/
theorem extend {rules : Definition} {blocks : List OpenBlock} (h : Opened lines ⟨rules, blocks⟩)
    (hm : Denotes more entries) :
    Opened (lines ++ more) ⟨Fields.insertAll rules entries, blocks⟩ := by
  cases h with
  | root h =>
    rw [← Fields.ofList_append]
    exact .root (h.append hm)
  | block arity field target hb hi =>
    rw [← Fields.ofList_append, List.append_assoc]
    exact .block arity field target hb (hi.append hm)

/-- **A line that is read leaves the state right.** -/
theorem step {state next : State} {line : Line} (h : Opened lines state)
    (hs : state.step (lines.length + 1) line = .ok next) : Opened (lines ++ [line]) next := by
  cases line with
  | skipped =>
    cases hs
    exact h.extend (.skipped .nil)
  | entry field rule =>
    cases hs
    exact h.extend (.entry field rule .nil)
  | opening arity field target =>
    cases hs
    exact .block arity field target h .nil
  | closing =>
    cases h with
    | root h => cases hs
    | block arity field target hb hi =>
      cases hs
      -- The block is complete, so it is one more entry of the block around it.
      have he := hb.extend (.block arity field target hi (Fields.collects_ofList _) .nil)
      rwa [List.append_assoc]

/-- **Lines that are read leave the state right.** -/
theorem feed {state next : State} (h : Opened lines state)
    (hr : State.feed State.stepAt state (lines.length + 1) more = .ok next) :
    Opened (lines ++ more) next := by
  induction more generalizing lines state with
  | nil =>
    cases hr
    rwa [List.append_nil]
  | cons line more ih =>
    rw [State.feed, State.stepAt] at hr
    cases hs : state.step (lines.length + 1) line with
    | error fault =>
      rw [hs] at hr
      cases hr
    | ok after =>
      rw [hs] at hr
      have hl : (lines ++ [line]).length + 1 = lines.length + 1 + 1 := by
        rw [List.length_append, List.length_singleton]
      have ha := ih (h.step hs) (hl ▸ hr)
      rwa [List.append_assoc] at ha

end Opened

/-- Lines that close every block denote rules. -/
theorem exists_denotes (h : height? 0 lines = some 0) : ∃ entries, Denotes lines entries := by
  obtain ⟨⟨rules, blocks⟩, hr, hb⟩ := State.start.exists_feed h 1
  obtain rfl : blocks = [] := List.eq_nil_of_length_eq_zero hb
  have ho : Opened lines ⟨rules, []⟩ := (Opened.root .nil).feed hr
  cases ho with
  | root hd => exact ⟨_, hd⟩

/-! ### What rows mean -/

/-- What is to be told of rows: the definition that they mean, or what is wrong with them. -/
def Verdict (rows : List Row) : Except Located Definition → Prop
  | .ok definition => Means rows definition
  | .error located => Faulty rows located

/-- **What is read is what the rows mean**, or what is wrong with them, whatever has been read
before. -/
theorem verdict_feed {before : List Row} {state : State} (hb : List.Forall₂ Says before lines)
    (h : Opened lines state) (after : List Row) :
    Verdict (before ++ after)
      ((State.feed State.readRow state (before.length + 1) after).bind State.finish) := by
  -- By induction on the rows to come: the invariant tells what is before them.
  induction after generalizing before lines state with
  | nil =>
    rw [List.append_nil]
    cases h with
    | root h => exact ⟨_, _, hb, h, Fields.collects_ofList _⟩
    | block arity field target ho hi =>
      rw [hb.length_eq]
      exact .unclosed hb (by rw [ho.height?]; rfl) (hi.height? 0)
  | cons row after ih =>
    cases hw : Line.ofWords row with
    | error fault =>
      have hr : state.readRow (before.length + 1) row =
          .error ⟨.line fault, before.length + 1⟩ := by rw [State.readRow, hw]
      rw [State.feed, hr]
      exact .misread after hb (by rw [h.height?]; rfl) (ofWords_eq_error_iff.mp hw)
    | ok line =>
      have hl := ofWords_eq_ok_iff.mp hw
      have hr : state.readRow (before.length + 1) row =
          state.stepAt (before.length + 1) line := by rw [State.readRow, hw]
      rw [State.feed, hr, State.stepAt]
      cases hs : state.step (before.length + 1) line with
      | error fault =>
        obtain ⟨rfl, hn, rfl⟩ := State.step_eq_error hs
        exact .stray after hb (by rw [h.height?, hn]; rfl) hl
      | ok next =>
        -- The row joins those before it.
        have hn : Opened (lines ++ [line]) next := h.step (hb.length_eq ▸ hs)
        have hv := ih (List.rel_append hb (.cons hl .nil)) hn
        rwa [List.append_assoc, List.length_append] at hv

theorem verdict_read (text : String) : Verdict (rows text) (read text.toList) := by
  rw [read_eq_readRows, readRows]
  exact verdict_feed .nil (.root .nil) (rows text)

/-- Rows that mean a definition are read as it. -/
theorem Means.readRows_eq {rows : List Row} {definition : Definition}
    (h : Means rows definition) : readRows rows = .ok definition := by
  obtain ⟨lines, entries, hr, hd, hc⟩ := h
  obtain rfl := Fields.collects_iff.mp hc
  rw [readRows, State.feed_readRow_eq hr, State.start, State.feed_of_denotes hd]
  rfl

/-- Rows that fit are read before the others. -/
theorem State.feed_before {before : List Row} {k : Nat} (hb : List.Forall₂ Says before lines)
    (hh : Script.height? 0 lines = some k) : ∃ next : State, next.blocks.length = k ∧
      ∀ after, feed readRow start 1 (before ++ after) =
        feed readRow next (before.length + 1) after := by
  obtain ⟨next, hn, hk⟩ := start.exists_feed hh 1
  refine ⟨next, hk, fun after => ?_⟩
  rw [feed_append, feed_readRow_eq hb, hn, Nat.add_comm]
  rfl

/-- Faulty rows are refused, for the fault that they have. -/
theorem Faulty.readRows_eq {rows : List Row} {located : Located} (h : Faulty rows located) :
    readRows rows = .error located := by
  unfold readRows
  cases h with
  | misread after hb hh hr =>
    obtain ⟨k, hk⟩ := Option.isSome_iff_exists.mp hh
    obtain ⟨next, -, hn⟩ := State.feed_before hb hk
    rw [hn, State.feed, State.readRow, ofWords_eq_error_iff.mpr hr]
    rfl
  | stray after hb hh hr =>
    obtain ⟨⟨rules, blocks⟩, hl, hn⟩ := State.feed_before hb hh
    obtain rfl : blocks = [] := List.eq_nil_of_length_eq_zero hl
    rw [hn, State.feed, State.readRow, ofWords_eq_ok_iff.mpr hr]
    rfl
  | @unclosed _ before inside arity field target hr hb hi =>
    -- What is inside the block denotes rules, so the block stays the innermost.
    obtain ⟨k, hk⟩ := Option.isSome_iff_exists.mp hb
    obtain ⟨⟨rules, blocks⟩, hn, -⟩ := State.start.exists_feed hk 1
    obtain ⟨inner, hd⟩ := exists_denotes hi
    have ho (n : Nat) :
        State.feed State.stepAt ⟨rules, blocks⟩ n (.opening arity field target :: inside) =
          State.feed State.stepAt ⟨[], ⟨arity, field, target, n, rules⟩ :: blocks⟩ (n + 1)
            inside := rfl
    rw [State.feed_readRow_eq hr, State.feed_append, hn, Except.bind, ho, State.feed_of_denotes hd,
      Nat.add_comm]
    rfl

/-- **The reader accepts the scripts of the grammar**, and builds the definitions that they mean. -/
theorem read_eq_ok_iff {text : String} {definition : Definition} :
    read text.toList = .ok definition ↔ Means (rows text) definition := by
  constructor
  · intro h
    have hv := verdict_read text
    rwa [h] at hv
  · intro h
    rw [read_eq_readRows, h.readRows_eq]

/-- **The reader refuses all other scripts**, for what is wrong with them. -/
theorem read_eq_error_iff {text : String} {located : Located} :
    read text.toList = .error located ↔ Faulty (rows text) located := by
  constructor
  · intro h
    have hv := verdict_read text
    rwa [h] at hv
  · intro h
    rw [read_eq_readRows, h.readRows_eq]

/-- A definition is read exactly if every row says something, no block ends where none is open, and
every block ends. -/
theorem exists_means_iff {rows : List Row} : (∃ definition, Means rows definition) ↔
    ∃ lines, List.Forall₂ Says rows lines ∧ height? 0 lines = some 0 := by
  constructor
  · rintro ⟨definition, lines, entries, hr, hd, -⟩
    exact ⟨lines, hr, hd.height? 0⟩
  · rintro ⟨lines, hr, hh⟩
    obtain ⟨entries, hd⟩ := exists_denotes hh
    exact ⟨_, lines, entries, hr, hd, Fields.collects_ofList _⟩

end Script

namespace Definition

variable {text : String}

theorem ofScript_eq_ok_iff {definition : Definition} :
    ofScript text = .ok definition ↔ Script.Means (Script.rows text) definition := by
  rw [← Script.read_eq_ok_iff, ofScript]
  cases Script.read text.toList <;> simp

theorem ofScript_eq_error_iff {error : Error} :
    ofScript text = .error error ↔ ∃ fault number,
      Script.Faulty (Script.rows text) ⟨fault, number⟩ ∧
        error = .invalidDsl (.join [fault.message, " on line ", toString number]) := by
  constructor
  · intro h
    unfold ofScript at h
    cases hr : Script.read text.toList with
    | ok definition =>
      rw [hr] at h
      cases h
    | error located =>
      rw [hr] at h
      cases h
      exact ⟨located.fault, located.line, Script.read_eq_error_iff.mp hr, rfl⟩
  · rintro ⟨fault, number, hf, rfl⟩
    rw [ofScript, Script.read_eq_error_iff.mpr hf]
    rfl

/-- **Scripts are read by their grammar.** A script is accepted if every row says something, no
block ends where none is open, and every block ends; then it is read as the definition that its rows
denote. Otherwise the error tells what is wrong, with the number of the line: the first that says
nothing or ends a block where none is open or, if there is none, the opening line of the innermost
block that is still open. -/
theorem ofScript_grammar (text : String) :
    (∀ definition, ofScript text = .ok definition ↔
      Script.Means (Script.rows text) definition) ∧
    (∀ error, ofScript text = .error error ↔
      ∃ fault number, Script.Faulty (Script.rows text) ⟨fault, number⟩ ∧
        error = .invalidDsl (.join [fault.message, " on line ", toString number])) ∧
    ((∃ definition, ofScript text = .ok definition) ↔
      ∃ lines, List.Forall₂ Script.Says (Script.rows text) lines ∧
        Script.height? 0 lines = some 0) := by
  refine ⟨fun definition => ofScript_eq_ok_iff, fun error => ofScript_eq_error_iff, ?_⟩
  simp only [ofScript_eq_ok_iff, Script.exists_means_iff]

open Example

/-- A field that comes again, inside a block and outside, keeps its first place and takes its last
rule. Of two blocks that are never closed the inner one is reported. The line of a fault is counted
with the comments before it. -/
theorem ofScript_repeated :
    ofScript repeated = .ok [("a", .copy "j"),
      ("c", .nest .one "d" [("e", .copy "i"), ("g", .copy "h")])] ∧
    Script.Means (Script.rows repeated) [("a", .copy "j"),
      ("c", .nest .one "d" [("e", .copy "i"), ("g", .copy "h")])] ∧
    Script.Faulty (Script.rows unfinished) ⟨.unclosed "c", 2⟩ ∧
    ofScript unfinished = .error (.invalidDsl "Block for 'c' is never closed on line 2") ∧
    Script.Faulty (Script.rows misspelt) ⟨.line (.malformed .copy), 2⟩ ∧
    ofScript misspelt = .error (.invalidDsl "Expected: ALIAS source TO target on line 2") := by
  have hread : ofScript repeated = .ok [("a", .copy "j"),
      ("c", .nest .one "d" [("e", .copy "i"), ("g", .copy "h")])] := by rfl
  have hopen : Script.Faulty (Script.rows unfinished) ⟨.unclosed "c", 2⟩ :=
    Script.read_eq_error_iff.mp rfl
  have hmisspelt : Script.Faulty (Script.rows misspelt) ⟨.line (.malformed .copy), 2⟩ :=
    Script.read_eq_error_iff.mp rfl
  refine ⟨hread, ((ofScript_grammar repeated).1 _).mp hread, hopen, ?_, hmisspelt, ?_⟩
  · exact ((ofScript_grammar unfinished).2.1 _).mpr ⟨_, _, hopen, rfl⟩
  · exact ((ofScript_grammar misspelt).2.1 _).mpr ⟨_, _, hmisspelt, rfl⟩

end Definition

end Reshape
