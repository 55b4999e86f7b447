import Reshape.Proofs.Script.Joining
import Reshape.Proofs.Script.Layout

/-!
# Command words

Which words are taken for commands. The command word of a line counts in upper case, over the whole
character set, while the other keywords count up to the case of ASCII letters. Two characters tell
the two readings of a word apart, for their upper case is an ASCII letter though they are none: the
dotless i and the long s.

## Main definitions

* `Commanding`: the word of a row in the place of a command
* `Documented`: the words of the commands, up to the case of ASCII letters
* `Strict`: a text is refused if a word in the place of a command is none

## Main results

* `Text.isUpper_or_of_infix`: the characters whose upper case stands in the word of a command
* `isKeyword_word_iff`: the two readings of a word
* `strict_iff`: a text is read strictly exactly if those characters make no difference
* `not_strict_dotless`: there is a text that is not
-/

namespace Reshape

theorem Script.Command.mem_all (command : Script.Command) : command ∈ all := by
  cases command with
  | copy => decide
  | convert grain => cases grain <;> decide
  | nest arity => cases arity <;> decide

/-! ### Characters with an upper case among the capital letters -/

namespace Text

open Script (Command)

theorem isUpper_iff {c : Char} : c.isUpper = true ↔ 65 ≤ c.toNat ∧ c.toNat ≤ 90 := by
  change decide ('A'.val ≤ c.val ∧ c.val ≤ 'Z'.val) = true ↔ _
  simp [UInt32.le_iff_toNat_le, ← Char.toNat_val]

/-- A number that is none of a character gives the first of all characters. -/
theorem toNat_ofNat_of_pos {n : Nat} (h : 0 < (Char.ofNat n).toNat) : (Char.ofNat n).toNat = n := by
  by_cases hv : n.isValidChar
  · have hn : Char.ofNat n = Char.ofNatAux n hv := dif_pos hv
    rw [hn]
    rfl
  · have hn : Char.ofNat n = '\x00' := dif_neg hv
    rw [hn] at h
    exact absurd h (by decide)

/-- The runs of characters other than the small letters lead past the capital letters, but for the
dotless i and the long s. -/
theorem upperRuns_apart : ∀ run ∈ upperRuns,
    run.first = 0x61 ∧ run.last = 0x7A ∨ run.first = 0x131 ∧ run.last = 0x131 ∨
      run.first = 0x17F ∧ run.last = 0x17F ∨
      90 < (run.first : Int) + run.offset ∨ (run.last : Int) + run.offset < 65 := by
  decide +kernel

/-- No character becomes several letters that stand in a row in the word of a command. -/
theorem not_infix_of_mem_upperExpansions : ∀ expansion ∈ upperExpansions,
    ∀ command ∈ Command.all, ¬ expansion.2.map Char.ofNat <:+: command.word.toList := by
  decide +kernel

/-- ASCII letters are capital letters in ASCII upper case. -/
theorem isUpper_toUpper {c : Char}
    (h : 65 ≤ c.toNat ∧ c.toNat ≤ 90 ∨ 97 ≤ c.toNat ∧ c.toNat ≤ 122) :
    c.toUpper.isUpper = true := by
  have ha : ∀ n < 128, 65 ≤ n ∧ n ≤ 90 ∨ 97 ≤ n ∧ n ≤ 122 →
      (Char.ofNat n).toUpper.isUpper = true := by decide
  have hc := ha c.toNat (by omega) h
  rwa [Char.ofNat_toNat] at hc

/-- ASCII upper case does not tell the cases apart. -/
theorem toUpper_toLower (c : Char) : c.toLower.toUpper = c.toUpper := by
  by_cases hc : c.toNat < 128
  · have ha : ∀ n < 128, (Char.ofNat n).toLower.toUpper = (Char.ofNat n).toUpper := by decide
    have hn := ha c.toNat hc
    rwa [Char.ofNat_toNat] at hn
  · -- Other characters have no ASCII lower case.
    have hn : c.toNat = c.val.toNat := rfl
    unfold Char.toLower
    rw [dif_neg]
    intro h
    have hz : c.val.toNat ≤ 90 := UInt32.le_iff_toNat_le.mp h.2
    omega

/-- **The characters whose upper case stands in the word of a command** are ASCII letters, the
dotless i and the long s. -/
theorem isUpper_or_of_infix {c : Char} {command : Command}
    (h : upperChar c <:+: command.word.toList) : c.toUpper.isUpper = true ∨ c = 'ı' ∨ c = 'ſ' := by
  have hcapital {d : Char} (hd : [d] <:+: command.word.toList) : 65 ≤ d.toNat ∧ d.toNat ≤ 90 :=
    isUpper_iff.mp ((Script.capital_word command).2 d (hd.subset List.mem_cons_self))
  have hchar (n : Nat) (hn : c.toNat = n) : c = Char.ofNat n := by rw [← hn, Char.ofNat_toNat]
  unfold upperChar convertChar at h
  split at h
  case h_1 run hrun =>
    -- The character becomes another one, which is a capital letter.
    have hin := List.find?_some hrun
    simp only [CaseRun.contains, Bool.and_eq_true, decide_eq_true_eq] at hin
    obtain ⟨⟨hfirst, hlast⟩, -⟩ := hin
    have hto := hcapital h
    rw [toNat_ofNat_of_pos (by omega)] at hto
    rcases upperRuns_apart run (List.mem_of_find?_eq_some hrun) with
      ⟨hf, hl⟩ | ⟨hf, hl⟩ | ⟨hf, hl⟩ | hpast | hpast
    · exact .inl (isUpper_toUpper (.inr (by omega)))
    · exact .inr (.inl (hchar 0x131 (by omega)))
    · exact .inr (.inr (hchar 0x17F (by omega)))
    · omega
    · omega
  case h_2 =>
    split at h
    case h_1 expansion he =>
      exact absurd h (not_infix_of_mem_upperExpansions expansion (List.mem_of_find?_eq_some he)
        command command.mem_all)
    case h_2 => exact .inl (isUpper_toUpper (.inl (hcapital h)))

end Text

namespace Script

/-! ### The two readings of a word -/

variable {word : List Char} {command : Command}

/-- What a character becomes in upper case stands in the upper case of the word. -/
theorem upperChar_infix {c : Char} (hc : c ∈ word) : Text.upperChar c <:+: Text.upper word := by
  obtain ⟨before, after, rfl⟩ := List.append_of_mem hc
  rw [Text.upper_append, Text.upper_cons]
  exact ⟨Text.upper before, Text.upper after, List.append_assoc _ _ _⟩

/-- A word that is the word of a command in upper case is that word in ASCII upper case, unless one
of the two characters is in it. -/
theorem spelt_of_upper (h : Text.upper word = command.word.toList) (hi : 'ı' ∉ word)
    (hs : 'ſ' ∉ word) : Spelt word command.word := by
  have hu : ∀ c ∈ word, Text.upperChar c = [c.toUpper] := by
    intro c hc
    rcases Text.isUpper_or_of_infix (h ▸ upperChar_infix hc) with hl | rfl | rfl
    · exact (letter_of_toUpper hl).1
    · exact absurd hc hi
    · exact absurd hc hs
  rw [Spelt, ← h, Text.upper, List.flatMap_congr hu, List.map_eq_flatMap]

/-- A word that is a keyword up to the case of ASCII letters is that keyword in ASCII upper case. -/
theorem spelt_of_isKeyword {keyword : String} (hk : Capital keyword)
    (h : isKeyword word keyword = true) : Spelt word keyword := by
  have hl : word.map Char.toLower = keyword.toList.map Char.toLower := beq_iff_eq.mp h
  have hu (text : List Char) :
      text.map Char.toUpper = (text.map Char.toLower).map Char.toUpper := by
    rw [List.map_map]
    exact List.map_congr_left fun c _ => (Text.toUpper_toLower c).symm
  calc word.map Char.toUpper
    _ = (keyword.toList.map Char.toLower).map Char.toUpper := by rw [hu, hl]
    _ = keyword.toList.map Char.toUpper := (hu keyword.toList).symm
    _ = keyword.toList := spelt_self hk

/-- **The two readings of a word**: it is the word of a command up to the case of ASCII letters if
it is so in upper case, and neither of the two characters is in it. -/
theorem isKeyword_word_iff : isKeyword word command.word = true ↔
    Text.upper word = command.word.toList ∧ 'ı' ∉ word ∧ 'ſ' ∉ word := by
  constructor
  · intro h
    have hs := spelt_of_isKeyword (capital_word command) h
    refine ⟨upper_of_spelt (capital_word command) hs, fun hi => ?_, fun hl => ?_⟩
    · exact absurd (letter_of_spelt (capital_word command) hs hi) (by decide)
    · exact absurd (letter_of_spelt (capital_word command) hs hl) (by decide)
  · rintro ⟨h, hi, hs⟩
    exact isKeyword_of_spelt (capital_word command) (spelt_of_upper h hi hs)

/-! ### Words in the place of a command -/

/-- **The word in the place of a command**: the first of a row that is no comment and does not end a
block. -/
inductive Commanding : Row → List Char → Prop
  | intro {first : List Char} {rest : Row} (hs : first.head? ≠ some '#')
      (hb : ¬ (first = ['\x7d'] ∧ rest = [])) : Commanding (first :: rest) first

/-- **A documented word**: that of a command, up to the case of ASCII letters. -/
def Documented (word : List Char) : Prop :=
  ∃ command : Command, isKeyword word command.word = true

/-- **A text that is read strictly**: it is refused if a word in the place of a command is not
documented. -/
def Strict (text : String) : Prop :=
  (∃ row ∈ rows text, ∃ word, Commanding row word ∧ ¬ Documented word) →
    ∃ reason, Definition.ofScript text = .error (.invalidDsl reason)

/-- A row that says something has a command in its place. -/
theorem Commanding.exists_command {row : Row} {line : Line} (h : Commanding row word)
    (hl : Says row line) : ∃ command : Command, Text.upper word = command.word.toList := by
  cases h with
  | intro hs hb =>
    cases hl with
    | comment text words => exact absurd rfl hs
    | closing => exact absurd ⟨rfl, rfl⟩ hb
    | copy field target hc ht => exact ⟨_, hc⟩
    | convert grain field target there back hc ht hw hr => exact ⟨_, hc⟩
    | nest arity field target hc ht => exact ⟨_, hc⟩

end Script

namespace Definition

open Script

/-- Every text that is not accepted is refused with an error of scripts. -/
theorem exists_invalidDsl {text : String} {error : Error} (h : ofScript text = .error error) :
    ∃ reason, ofScript text = .error (.invalidDsl reason) := by
  obtain ⟨fault, number, -, rfl⟩ := ofScript_eq_error_iff.mp h
  exact ⟨_, h⟩

/-- **When only documented words are commands.** A text is read strictly exactly if it is refused
anyway, or no word of it in the place of a command has a dotless i or a long s. -/
theorem strict_iff (text : String) : Strict text ↔
    ∀ definition, ofScript text = .ok definition →
      ∀ row ∈ rows text, ∀ word, Commanding row word → 'ı' ∉ word ∧ 'ſ' ∉ word := by
  constructor
  · intro h definition hok row hr word hc
    -- A word with one of the characters is not documented, so the text would be refused.
    have hdocumented : Documented word := by
      by_contra hn
      obtain ⟨reason, he⟩ := h ⟨row, hr, word, hc, hn⟩
      exact nomatch hok.symm.trans he
    obtain ⟨command, hk⟩ := hdocumented
    exact (isKeyword_word_iff.mp hk).2
  · rintro h ⟨row, hr, word, hc, hn⟩
    cases hok : ofScript text with
    | error error =>
      obtain ⟨reason, he⟩ := exists_invalidDsl hok
      exact ⟨reason, hok.symm.trans he⟩
    | ok definition =>
      -- The row says something, so the word is that of a command in upper case.
      obtain ⟨lines, -, hlines, -, -⟩ := ofScript_eq_ok_iff.mp hok
      obtain ⟨i, hi, rfl⟩ := List.getElem_of_mem hr
      obtain ⟨command, hu⟩ := hc.exists_command (hlines.get hi (hlines.length_eq ▸ hi))
      exact absurd ⟨command, isKeyword_word_iff.mpr ⟨hu, h definition hok _ hr word hc⟩⟩ hn

/-- A dotless i is read as an i. -/
theorem not_strict_dotless : ¬ Strict "alıas a TO b" := by
  intro h
  have hok : ofScript "alıas a TO b" = .ok [("a", .copy "b")] := by rfl
  have hrow : ["alıas".toList, ['a'], ['T', 'O'], ['b']] ∈ rows "alıas a TO b" := by decide
  have hn : ¬ Documented "alıas".toList := by
    rintro ⟨command, hk⟩
    exact (isKeyword_word_iff.mp hk).2.1 (by decide)
  obtain ⟨reason, he⟩ := h ⟨_, hrow, _, .intro (by decide) (by decide), hn⟩
  exact nomatch hok.symm.trans he

end Definition

end Reshape
