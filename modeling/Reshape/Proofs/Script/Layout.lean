import Reshape.Example.Definitions
import Reshape.Proofs.Levels
import Reshape.Proofs.Script.Grammar

/-!
# Definitions written as scripts

A definition can be written as a script, one rule a line and in order, if its names are words: texts
without blanks. The layout is free: keywords in any case, any blanks around and between the words of
a line, empty lines and comments anywhere. However it is written, it is read back as it was, even if
its names look like keywords, braces or comments.

## Main definitions

* `Rule.allNames`: the names in rules
* `IsWord`, `IsGap`: words and the blanks between them
* `Laid`: a line in which given words stand
* `Spelt`: a keyword in any case
* `Written`: the lines in which rules are written

## Main results

* `words_of_laid`: the words of a line are found again
* `means_of_written`: the rows of a script mean the definition that was written
* `Definition.ofScript_written`: a definition is read back however it is written
-/

namespace Reshape

namespace Rule

mutual

/-- The names in a rule: of its target, its transforms, and all in the rules inside it. -/
def names : Rule String → List String
  | copy target => [target]
  | convert _ target there back => [target, there, back]
  | nest _ target rules => target :: allNames rules
termination_by structural rule => rule

/-- The names in rules: of their fields, and those in the rules. -/
def allNames : List (String × Rule String) → List String
  | [] => []
  | (field, rule) :: rest => field :: (names rule ++ allNames rest)
termination_by structural rules => rules

end

end Rule

namespace Script

/-! ### Words and lines -/

/-- **A word**: not empty, and without blanks. -/
def IsWord (text : List Char) : Prop :=
  text ≠ [] ∧ ∀ c ∈ text, Text.isBlank c = false

/-- **A gap**: blanks that do not end the line. -/
def IsGap (text : List Char) : Prop :=
  ∀ c ∈ text, Text.isBlank c = true ∧ c ≠ '\n'

-- The characters of the text are gone through, and not all characters.
instance (text : List Char) : Decidable (IsWord text) :=
  @instDecidableAnd _ _ inferInstance (List.decidableBAll _ text)

instance (text : List Char) : Decidable (IsGap text) :=
  List.decidableBAll _ text

/-- **A line in which words stand**: there may be a gap before the first word and behind the last,
and there is one between two words. -/
def Laid (words : Row) (line : List Char) : Prop :=
  ∃ (indent : List Char) (gaps : List (List Char)),
    line = indent ++ (List.zipWith (· ++ ·) words gaps).flatten ∧ gaps.length = words.length ∧
      (∀ gap ∈ indent :: gaps, IsGap gap) ∧ ∀ gap ∈ gaps.dropLast, gap ≠ []

/-- A line that says nothing: it is blank, or the rest of it is a comment. -/
def Filler (line : List Char) : Prop :=
  IsGap line ∨ ∃ indent text, line = indent ++ '#' :: text ∧ IsGap indent ∧ '\n' ∉ text

/-- A line, up to its end, that says something. -/
def SaysLine (line : List Char) (said : Line) : Prop :=
  '\n' ∉ line ∧ Says (Text.words line) said

theorem words_gap_append {gap : List Char} (hg : IsGap gap) (text : List Char) :
    Text.words (gap ++ text) = Text.words text := by
  induction gap with
  | nil => rfl
  | cons c gap ih =>
    obtain ⟨hc, hg⟩ := List.forall_mem_cons.mp hg
    rw [List.cons_append, Text.words_cons_blank hc.1, ih hg]

theorem words_gap {gap : List Char} (hg : IsGap gap) : Text.words gap = [] := by
  simpa using words_gap_append hg []

/-- A word ends at a gap or at the end of the line. -/
theorem words_word_append {word gap : List Char} (hw : IsWord word) (hg : IsGap gap)
    {rest : List Char} (hr : gap ≠ [] ∨ rest = []) :
    Text.words (word ++ (gap ++ rest)) = word :: Text.words rest := by
  have hs : Text.words word = [word] := Text.words_of_forall_not_blank hw.1 hw.2
  cases gap with
  | nil =>
    obtain rfl := hr.resolve_left fun h => h rfl
    rw [List.append_nil, List.append_nil, hs, Text.words_nil]
  | cons c gap =>
    obtain ⟨hc, hg⟩ := List.forall_mem_cons.mp hg
    rw [List.cons_append, Text.words_append_blank hc.1, hs, words_gap_append hg]
    rfl

theorem words_flatten_zipWith {words : Row} {gaps : List (List Char)}
    (hl : gaps.length = words.length) (hw : ∀ word ∈ words, IsWord word)
    (hg : ∀ gap ∈ gaps, IsGap gap) (hn : ∀ gap ∈ gaps.dropLast, gap ≠ []) :
    Text.words (List.zipWith (· ++ ·) words gaps).flatten = words := by
  induction words generalizing gaps with
  | nil => rfl
  | cons word words ih =>
    obtain ⟨gap, gaps, rfl⟩ := List.exists_cons_of_length_eq_add_one hl
    obtain ⟨hword, hw⟩ := List.forall_mem_cons.mp hw
    obtain ⟨hgap, hg⟩ := List.forall_mem_cons.mp hg
    rw [List.zipWith_cons_cons, List.flatten_cons, List.append_assoc]
    cases gaps with
    | nil =>
      -- Behind the last word there may be no gap, but there is nothing else either.
      obtain rfl : words = [] := List.eq_nil_of_length_eq_zero (Nat.succ.inj hl).symm
      exact words_word_append hword hgap (.inr rfl)
    | cons next gaps =>
      obtain ⟨hne, hn⟩ := List.forall_mem_cons.mp hn
      rw [words_word_append hword hgap (.inl hne), ih (Nat.succ.inj hl) hw hg hn]

/-- **The words of a line** are found again. -/
theorem words_of_laid {words : Row} {line : List Char} (h : Laid words line)
    (hw : ∀ word ∈ words, IsWord word) : Text.words line = words := by
  obtain ⟨indent, gaps, rfl, hl, hg, hn⟩ := h
  obtain ⟨hi, hg⟩ := List.forall_mem_cons.mp hg
  rw [words_gap_append hi, words_flatten_zipWith hl hw hg hn]

/-- No line ends inside a line. -/
theorem lineFeed_not_mem_of_laid {words : Row} {line : List Char} (h : Laid words line)
    (hw : ∀ word ∈ words, IsWord word) : '\n' ∉ line := by
  obtain ⟨indent, gaps, rfl, -, hg, -⟩ := h
  intro hm
  rcases List.mem_append.mp hm with hm | hm
  · exact (hg indent List.mem_cons_self '\n' hm).2 rfl
  · rw [← List.map_uncurry_zip_eq_zipWith] at hm
    obtain ⟨piece, hp, hm⟩ := List.mem_flatten.mp hm
    obtain ⟨⟨word, gap⟩, hz, rfl⟩ := List.mem_map.mp hp
    obtain ⟨hword, hgap⟩ := List.of_mem_zip hz
    rcases List.mem_append.mp hm with hm | hm
    · have hb : Text.isBlank '\n' = false := (hw word hword).2 '\n' hm
      cases hb
    · exact (hg gap (List.mem_cons_of_mem _ hgap) '\n' hm).2 rfl

/-- A line in which the words of a row stand says what the row says. -/
theorem saysLine_of_laid {words : Row} {line : List Char} {said : Line} (h : Laid words line)
    (hw : ∀ word ∈ words, IsWord word) (hs : Says words said) : SaysLine line said := by
  refine ⟨lineFeed_not_mem_of_laid h hw, ?_⟩
  rwa [words_of_laid h hw]

/-- A text that does not start with a blank starts with a word. -/
theorem exists_words_cons {c : Char} (hc : Text.isBlank c = false) (text : List Char) :
    ∃ word rest, Text.words (c :: text) = (c :: word) :: rest := by
  have hw (taken : List Char) (hne : taken ≠ []) : ∃ word rest,
      Text.wordsFrom taken text = (taken.reverse ++ word) :: rest := by
    induction text generalizing taken with
    | nil =>
      obtain ⟨d, taken, rfl⟩ := List.exists_cons_of_ne_nil hne
      exact ⟨[], [], by rw [List.append_nil]; rfl⟩
    | cons d text ih =>
      cases hd : Text.isBlank d with
      | true =>
        -- The word that has been started ends here.
        obtain ⟨e, taken, rfl⟩ := List.exists_cons_of_ne_nil hne
        exact ⟨[], _, by rw [Text.wordsFrom_cons_of_blank hd, List.append_nil]; rfl⟩
      | false =>
        obtain ⟨word, rest, hr⟩ := ih (d :: taken) (List.cons_ne_nil _ _)
        refine ⟨d :: word, rest, ?_⟩
        rw [Text.wordsFrom_cons_of_not_blank hd, hr, List.reverse_cons, List.append_assoc]
        rfl
  obtain ⟨word, rest, hr⟩ := hw [c] (List.cons_ne_nil _ _)
  exact ⟨word, rest, (Text.wordsFrom_cons_of_not_blank hc [] text).trans hr⟩

/-- A line that says nothing is skipped. -/
theorem saysLine_of_filler {line : List Char} (h : Filler line) : SaysLine line .skipped := by
  rcases h with hg | ⟨indent, text, rfl, hi, ht⟩
  · refine ⟨fun hm => (hg '\n' hm).2 rfl, ?_⟩
    rw [words_gap hg]
    exact .empty
  · obtain ⟨word, rest, hr⟩ := @exists_words_cons '#' rfl text
    constructor
    · have hi' : '\n' ∉ indent := fun hm => (hi '\n' hm).2 rfl
      simp [hi', ht]
    · rw [words_gap_append hi, hr]
      exact .comment word rest

/-! ### Keywords -/

/-- **A keyword in any case**. -/
def Spelt (word : List Char) (keyword : String) : Prop :=
  word.map Char.toUpper = keyword.toList

/-- What keywords are made of: capital letters. -/
def Capital (keyword : String) : Prop :=
  keyword.toList ≠ [] ∧ ∀ c ∈ keyword.toList, c.isUpper = true

instance (keyword : String) : Decidable (Capital keyword) :=
  @instDecidableAnd _ _ inferInstance (List.decidableBAll _ keyword.toList)

theorem toNat_lt_of_toUpper {c : Char} (h : c.toUpper.isUpper = true) : c.toNat < 128 := by
  have hn : c.toNat = c.val.toNat := rfl
  unfold Char.toUpper at h
  split at h
  case isTrue hc =>
    have hz : c.val.toNat ≤ 122 := UInt32.le_iff_toNat_le.mp hc.2
    omega
  case isFalse =>
    have hz : c.val.toNat ≤ 90 := UInt32.le_iff_toNat_le.mp (of_decide_eq_true h).2
    omega

/-- The two conversions of case agree on the letters of keywords, and none of them is blank. -/
theorem letter_of_toUpper {c : Char} (h : c.toUpper.isUpper = true) :
    Text.upperChar c = [c.toUpper] ∧ c.toUpper.toLower = c.toLower ∧ Text.isBlank c = false := by
  -- The table of upper cases is searched for the ASCII characters only.
  have ha : ∀ n < 128, (Char.ofNat n).toUpper.isUpper = true →
      Text.upperChar (Char.ofNat n) = [(Char.ofNat n).toUpper] ∧
        (Char.ofNat n).toUpper.toLower = (Char.ofNat n).toLower ∧
        Text.isBlank (Char.ofNat n) = false := by decide +kernel
  have hc := ha c.toNat (toNat_lt_of_toUpper h)
  rw [Char.ofNat_toNat] at hc
  exact hc h

section Spelt

variable {word : List Char} {keyword : String}

theorem letter_of_spelt (hk : Capital keyword) (h : Spelt word keyword) {c : Char} (hc : c ∈ word) :
    c.toUpper.isUpper = true := by
  refine hk.2 _ ?_
  rw [← h]
  exact List.mem_map_of_mem hc

theorem isWord_of_spelt (hk : Capital keyword) (h : Spelt word keyword) : IsWord word := by
  refine ⟨?_, fun c hc => (letter_of_toUpper (letter_of_spelt hk h hc)).2.2⟩
  rintro rfl
  exact hk.1 h.symm

theorem upper_of_spelt (hk : Capital keyword) (h : Spelt word keyword) :
    Text.upper word = keyword.toList := by
  have hu : ∀ c ∈ word, Text.upperChar c = [c.toUpper] := fun c hc =>
    (letter_of_toUpper (letter_of_spelt hk h hc)).1
  rw [← h, Text.upper, List.flatMap_congr hu, List.map_eq_flatMap]

theorem isKeyword_of_spelt (hk : Capital keyword) (h : Spelt word keyword) :
    isKeyword word keyword = true := by
  have hl : ∀ c ∈ word, c.toLower = c.toUpper.toLower := fun c hc =>
    (letter_of_toUpper (letter_of_spelt hk h hc)).2.1.symm
  rw [isKeyword, Text.equalsIgnoringCase, beq_iff_eq, ← h, List.map_map]
  exact List.map_congr_left hl

/-- A keyword may be written as it is. -/
theorem spelt_self (hk : Capital keyword) : Spelt keyword.toList keyword := by
  have hc : ∀ c ∈ keyword.toList, c.toUpper = c := fun c hc => by
    have hz : c.val.toNat ≤ 90 := UInt32.le_iff_toNat_le.mp (of_decide_eq_true (hk.2 c hc)).2
    unfold Char.toUpper
    refine dif_neg fun hl => ?_
    have ha : 97 ≤ c.val.toNat := UInt32.le_iff_toNat_le.mp hl.1
    omega
  rw [Spelt, List.map_congr_left hc, List.map_id']

end Spelt

/-- The words for commands are keywords. -/
theorem capital_word (command : Command) : Capital command.word := by
  cases command with
  | copy => decide
  | convert grain => cases grain <;> decide
  | nest arity => cases arity <;> decide

theorem capital_to : Capital "TO" := by decide

theorem capital_with : Capital "WITH" := by decide

theorem capital_reverse : Capital "REVERSE" := by decide

/-! ### Written rules -/

/-- **The lines in which rules are written**, in order: one line for a rule, and for rules inside a
rule a block that starts with its line and ends with a brace; lines that say nothing stand anywhere
between them. -/
inductive Written : List (String × Rule String) → List (List Char) → Prop
  | nil : Written [] []
  | filler {rules : List (String × Rule String)} {line : List Char} {lines : List (List Char)}
      (hl : Filler line) (h : Written rules lines) : Written rules (line :: lines)
  | copy {field target : String} {rules : List (String × Rule String)}
      {command toWord line : List Char} {lines : List (List Char)}
      (hc : Spelt command Command.copy.word) (ht : Spelt toWord "TO")
      (hl : Laid [command, field.toList, toWord, target.toList] line) (h : Written rules lines) :
      Written ((field, .copy target) :: rules) (line :: lines)
  | convert {grain : Grain} {field target there back : String}
      {rules : List (String × Rule String)}
      {command toWord withWord reverseWord line : List Char} {lines : List (List Char)}
      (hc : Spelt command (Command.convert grain).word)
      (ht : Spelt toWord "TO") (hw : Spelt withWord "WITH") (hr : Spelt reverseWord "REVERSE")
      (hl : Laid [command, field.toList, toWord, target.toList, withWord, there.toList,
        reverseWord, back.toList] line)
      (h : Written rules lines) :
      Written ((field, .convert grain target there back) :: rules) (line :: lines)
  | nest {arity : Arity} {field target : String} {inner rules : List (String × Rule String)}
      {command toWord line closing : List Char} {inside lines : List (List Char)}
      (hc : Spelt command (Command.nest arity).word)
      (ht : Spelt toWord "TO")
      (hl : Laid [command, field.toList, toWord, target.toList, ['\x7b']] line)
      (hi : Written inner inside) (he : Laid [['\x7d']] closing) (h : Written rules lines) :
      Written ((field, .nest arity target inner) :: rules) (line :: (inside ++ closing :: lines))

/-- The text of lines. -/
def unlines (lines : List (List Char)) : String :=
  String.ofList (['\n'].intercalate lines)

section Laid

variable {field target : String} {command toWord line : List Char}

theorem saysLine_copy (hc : Spelt command Command.copy.word) (ht : Spelt toWord "TO")
    (hl : Laid [command, field.toList, toWord, target.toList] line) (hf : IsWord field.toList)
    (hg : IsWord target.toList) : SaysLine line (.entry field (.copy target)) := by
  have hw : ∀ word ∈ [command, field.toList, toWord, target.toList], IsWord word := by
    simp [isWord_of_spelt (capital_word _) hc, isWord_of_spelt capital_to ht, hf, hg]
  have hs := Says.copy field.toList target.toList (upper_of_spelt (capital_word _) hc)
    (isKeyword_of_spelt capital_to ht)
  exact saysLine_of_laid hl hw (by simpa using hs)

theorem saysLine_convert {grain : Grain} {there back : String} {withWord reverseWord : List Char}
    (hc : Spelt command (Command.convert grain).word) (ht : Spelt toWord "TO")
    (hw : Spelt withWord "WITH") (hr : Spelt reverseWord "REVERSE")
    (hl : Laid [command, field.toList, toWord, target.toList, withWord, there.toList, reverseWord,
      back.toList] line)
    (hf : IsWord field.toList) (hg : IsWord target.toList) (hthere : IsWord there.toList)
    (hback : IsWord back.toList) :
    SaysLine line (.entry field (.convert grain target there back)) := by
  have hs := Says.convert grain field.toList target.toList there.toList back.toList
    (upper_of_spelt (capital_word _) hc) (isKeyword_of_spelt capital_to ht)
    (isKeyword_of_spelt capital_with hw) (isKeyword_of_spelt capital_reverse hr)
  have hw : ∀ word ∈ [command, field.toList, toWord, target.toList, withWord, there.toList,
      reverseWord, back.toList], IsWord word := by
    simp [isWord_of_spelt (capital_word _) hc, isWord_of_spelt capital_to ht,
      isWord_of_spelt capital_with hw, isWord_of_spelt capital_reverse hr, hf, hg, hthere, hback]
  exact saysLine_of_laid hl hw (by simpa using hs)

theorem saysLine_nest {arity : Arity} (hc : Spelt command (Command.nest arity).word)
    (ht : Spelt toWord "TO")
    (hl : Laid [command, field.toList, toWord, target.toList, ['\x7b']] line)
    (hf : IsWord field.toList) (hg : IsWord target.toList) :
    SaysLine line (.opening arity field target) := by
  have hw : ∀ word ∈ [command, field.toList, toWord, target.toList, ['\x7b']], IsWord word := by
    have hb : IsWord ['\x7b'] := by decide
    simp [isWord_of_spelt (capital_word _) hc, isWord_of_spelt capital_to ht, hf, hg, hb]
  have hs := Says.nest arity field.toList target.toList (upper_of_spelt (capital_word _) hc)
    (isKeyword_of_spelt capital_to ht)
  exact saysLine_of_laid hl hw (by simpa using hs)

theorem saysLine_closing (hl : Laid [['\x7d']] line) : SaysLine line .closing :=
  saysLine_of_laid hl (by decide) .closing

end Laid

/-- **The lines in which rules are written say what denotes the rules.** -/
theorem exists_saysLine_of_written {rules : List (String × Rule String)} {lines : List (List Char)}
    (h : Written rules lines) (hn : ∀ name ∈ Rule.allNames rules, IsWord name.toList)
    (hk : Rule.AllWithin Fields.Distinct rules) :
    ∃ said, List.Forall₂ SaysLine lines said ∧ Denotes said rules := by
  induction h with
  | nil => exact ⟨[], .nil, .nil⟩
  | filler hl _ ih =>
    obtain ⟨said, hs, hd⟩ := ih hn hk
    exact ⟨_, .cons (saysLine_of_filler hl) hs, .skipped hd⟩
  | copy hc ht hl _ ih =>
    simp only [Rule.allNames, Rule.names, List.cons_append, List.nil_append,
      List.forall_mem_cons] at hn
    obtain ⟨hf, hg, hn⟩ := hn
    obtain ⟨said, hs, hd⟩ := ih hn hk.2
    exact ⟨_, .cons (saysLine_copy hc ht hl hf hg) hs, .entry _ _ hd⟩
  | convert hc ht hw hr hl _ ih =>
    simp only [Rule.allNames, Rule.names, List.cons_append, List.nil_append,
      List.forall_mem_cons] at hn
    obtain ⟨hf, hg, hthere, hback, hn⟩ := hn
    obtain ⟨said, hs, hd⟩ := ih hn hk.2
    have hsays := saysLine_convert hc ht hw hr hl hf hg hthere hback
    exact ⟨_, .cons hsays hs, .entry _ _ hd⟩
  | @nest arity field target inner rules _ _ line closing inside lines hc ht hl _ he _ ihi ih =>
    simp only [Rule.allNames, Rule.names, List.cons_append, List.forall_mem_cons,
      List.forall_mem_append] at hn
    obtain ⟨hf, hg, hni, hn⟩ := hn
    obtain ⟨⟨hdistinct, hki⟩, hk⟩ := hk
    obtain ⟨said, hs, hd⟩ := ih hn hk
    obtain ⟨insideSaid, hsi, hdi⟩ := ihi hni hki
    refine ⟨.opening arity field target :: (insideSaid ++ .closing :: said), ?_, ?_⟩
    · exact .cons (saysLine_nest hc ht hl hf hg)
        (List.rel_append hsi (.cons (saysLine_closing he) hs))
    · -- The rules inside are those of distinct fields that were written.
      exact .block arity field target hdi (Fields.collects_of_distinct hdistinct) hd

/-- The rows of a text are those of its lines, if there are any. -/
theorem rows_unlines {lines : List (List Char)} {said : List Line}
    (h : List.Forall₂ SaysLine lines said) (hne : lines ≠ []) :
    rows (unlines lines) = lines.map Text.words := by
  have hf : ∀ line ∈ lines, '\n' ∉ line := by
    clear hne
    induction h with
    | nil => exact fun line hm => absurd hm List.not_mem_nil
    | cons hl _ ih => exact List.forall_mem_cons.mpr ⟨hl.1, ih⟩
  rw [rows, unlines, String.toList_ofList, List.splitOn_intercalate '\n' hf hne]
  exact List.map_congr_left fun line _ => (words_eq line).symm

/-- **The rows of a script mean the definition that was written.** -/
theorem means_of_written {definition : Definition} {lines : List (List Char)}
    (h : Written definition lines) (hn : ∀ name ∈ Rule.allNames definition, IsWord name.toList)
    (hk : definition.Keyed) : Means (rows (unlines lines)) definition := by
  obtain ⟨said, hs, hd⟩ := exists_saysLine_of_written h hn hk.2
  have hl : Fields.Collects definition definition := Fields.collects_of_distinct hk.here
  cases lines with
  | nil =>
    -- The text of no lines is one empty line.
    cases hs
    cases hd
    exact ⟨[.skipped], [], .cons .empty .nil, .skipped .nil, hl⟩
  | cons line lines =>
    rw [rows_unlines hs (List.cons_ne_nil _ _)]
    exact ⟨said, definition, List.forall₂_map_left_iff.mpr (hs.imp fun _ _ hl => hl.2), hd, hl⟩

/-! ### Writing rules -/

theorem exists_laid (words : Row) : ∃ line, Laid words line := by
  have hg : ∀ gap ∈ List.replicate words.length [' '], IsGap gap ∧ gap ≠ [] := fun gap hm => by
    obtain rfl := List.eq_of_mem_replicate hm
    exact ⟨by decide, List.cons_ne_nil _ _⟩
  refine ⟨_, [], List.replicate words.length [' '], rfl, List.length_replicate, ?_, ?_⟩
  · exact List.forall_mem_cons.mpr
      ⟨fun c hc => absurd hc List.not_mem_nil, fun gap hm => (hg gap hm).1⟩
  · exact fun gap hm => (hg gap ((List.dropLast_sublist _).subset hm)).2

mutual

/-- A rule can be written before others. -/
theorem exists_written_cons (field : String) : ∀ (rule : Rule String)
    {rules : List (String × Rule String)} {lines : List (List Char)}, Written rules lines →
    ∃ more, Written ((field, rule) :: rules) more
  | .copy target, _, _, h => by
    obtain ⟨line, hl⟩ := exists_laid
      [Command.copy.word.toList, field.toList, "TO".toList, target.toList]
    exact ⟨_, .copy (spelt_self (capital_word _)) (spelt_self capital_to) hl h⟩
  | .convert grain target there back, _, _, h => by
    obtain ⟨line, hl⟩ := exists_laid
      [(Command.convert grain).word.toList, field.toList, "TO".toList, target.toList,
        "WITH".toList, there.toList, "REVERSE".toList, back.toList]
    exact ⟨_, .convert (spelt_self (capital_word _)) (spelt_self capital_to)
      (spelt_self capital_with) (spelt_self capital_reverse) hl h⟩
  | .nest arity target inner, _, _, h => by
    obtain ⟨line, hl⟩ := exists_laid
      [(Command.nest arity).word.toList, field.toList, "TO".toList, target.toList, ['\x7b']]
    obtain ⟨inside, hi⟩ := exists_written inner
    obtain ⟨closing, he⟩ := exists_laid [['\x7d']]
    exact ⟨_, .nest (spelt_self (capital_word _)) (spelt_self capital_to) hl hi he h⟩
termination_by structural rule => rule

/-- **Rules can be written**, all of them. -/
theorem exists_written : ∀ rules : List (String × Rule String), ∃ lines, Written rules lines
  | [] => ⟨[], .nil⟩
  | (field, rule) :: rest => by
    obtain ⟨lines, h⟩ := exists_written rest
    exact exists_written_cons field rule h
termination_by structural rules => rules

end

end Script

/-- **A definition is read back however it is written**, with the fields in their order at every
level, if its names are words; and it can be written. -/
theorem Definition.ofScript_written {definition : Definition} (hk : definition.Keyed)
    (hn : ∀ name ∈ Rule.allNames definition, Script.IsWord name.toList) :
    (∃ lines, Script.Written definition lines) ∧
      ∀ lines, Script.Written definition lines →
        ofScript (Script.unlines lines) = .ok definition := by
  refine ⟨Script.exists_written definition, fun lines h => ?_⟩
  rw [ofScript, Script.read_eq_ok_iff.mpr (Script.means_of_written h hn hk)]

/-- Names that could be mistaken for syntax are told from it, in whatever case and with whatever
blanks and comments the definition is written. -/
theorem Definition.ofScript_disguised :
    Example.disguised.Keyed ∧
      (∀ name ∈ Rule.allNames Example.disguised, Script.IsWord name.toList) ∧
      Script.Written Example.disguised (Example.disguisedLines.map String.toList) ∧
      ofScript (Script.unlines (Example.disguisedLines.map String.toList)) =
        .ok Example.disguised := by
  have hk : Example.disguised.Keyed := by decide
  have hn : ∀ name ∈ Rule.allNames Example.disguised, Script.IsWord name.toList := by decide
  have halias : Script.Spelt "Alias".toList Script.Command.copy.word := rfl
  have hobject : Script.Spelt "OBJECT".toList (Script.Command.nest .one).word := rfl
  have hproperty : Script.Spelt "property".toList (Script.Command.convert .whole).word := rfl
  have hobjects : Script.Spelt "objects".toList (Script.Command.nest .many).word := rfl
  have harray : Script.Spelt "ARRAY".toList (Script.Command.convert .elements).word := rfl
  have hto : Script.Spelt "to".toList "TO" := rfl
  have hTO : Script.Spelt "TO".toList "TO" := rfl
  have hwith : Script.Spelt "with".toList "WITH" := rfl
  have hWith : Script.Spelt "With".toList "WITH" := rfl
  have hreverse : Script.Spelt "REVERSE".toList "REVERSE" := rfl
  have hReverse : Script.Spelt "Reverse".toList "REVERSE" := rfl
  have hinside : Script.Written
      [("\x7d", .convert .whole "ALIAS" "WITH" "REVERSE"), ("TO", .nest .many "#" [])]
      ((Example.disguisedLines.extract 3 8).map String.toList) := by
    refine .filler (.inr ⟨[' ', ' '], " In the block".toList, by decide⟩) ?_
    refine .convert hproperty hTO hwith hreverse ⟨[' ', ' '], [[' ', ' '], [' '], [' '], [' '],
      [' '], [' '], [' '], ['\r']], by decide⟩ ?_
    refine .filler (.inl (by decide)) ?_
    exact .nest hobjects hto ⟨[' ', ' '], [[' '], [' '], [' '], [' '], []], by decide⟩ .nil
      ⟨[' ', ' '], [[' ']], by decide⟩ .nil
  have hw : Script.Written Example.disguised (Example.disguisedLines.map String.toList) := by
    refine .filler (.inr ⟨[], " Names and syntax".toList, by decide⟩) ?_
    refine .copy halias hto ⟨['\t'], [[' '], [' '], [' '], []], by decide⟩ ?_
    refine .nest hobject hto ⟨[], [[' '], [' '], [' '], [' '], []], by decide⟩ hinside
      ⟨[], [[]], by decide⟩ ?_
    exact .convert harray hTO hWith hReverse ⟨[], [[' '], [' '], [' '], [' '], [' '], [' '], [' '],
      []], by decide⟩ .nil
  exact ⟨hk, hn, hw, (ofScript_written hk hn).2 _ hw⟩

end Reshape
