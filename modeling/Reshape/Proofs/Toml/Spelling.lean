import Reshape.Proofs.Json.Tokens

/-!
# Values in TOML

A value of strings and objects can be written in TOML as well. Its strings become basic strings, of
which each character may be written as it is or escaped; its objects become inline tables; and an
object that is the whole document may also have one line for each of its fields. Blanks may stand
around every name and every value. The grammar says what may be written, without regard to a reader;
the writer chooses one spelling.

## Main definitions

* `Toml.SpellsString`: the basic strings of a string
* `Toml.Spells`: the texts of a value, its objects as inline tables
* `Toml.SpellsLines`: the texts of fields, one line each
* `Toml.inline`, `Toml.lines`: one of these texts

## Main results

* `Toml.spells_inline`, `Toml.spellsLines_lines`: the writer writes what the grammar allows
-/

namespace Reshape.Toml

/-! ### Strings -/

/-- The number that hexadecimal digits spell, whose letters may have either case. -/
inductive Hex : List Char → Nat → Prop
  | nil : Hex [] 0
  | concat {digits : List Char} {n : Nat} (h : Hex digits n) {d : Nat} (hd : d < 16) {c : Char}
      (hc : c = Nat.digitChar d ∨ c = (Nat.digitChar d).toUpper) : Hex (digits ++ [c]) (n * 16 + d)

/-- The characters that have a mark of their own to stand for them behind a backslash. -/
inductive Mark : Char → Char → Prop
  | backspace : Mark '\x08' 'b'
  | tab : Mark '\t' 't'
  | lineFeed : Mark '\n' 'n'
  | formFeed : Mark '\x0c' 'f'
  | carriageReturn : Mark '\r' 'r'
  | quote : Mark '"' '"'
  | backslash : Mark '\\' '\\'

/-- **The ways to write a character** between double quotes: as it is, unless it is a control
character, a quote or a backslash; by its mark, if it has one; or by its number. -/
inductive SpellsChar (c : Char) : List Char → Prop
  | plain (hp : c = '\t' ∨ 0x20 ≤ c.toNat) (hd : c ≠ '\x7f') (hq : c ≠ '"') (hb : c ≠ '\\') :
      SpellsChar c [c]
  | marked {mark : Char} (h : Mark c mark) : SpellsChar c ['\\', mark]
  | short {digits : List Char} (h : Hex digits c.toNat) (hl : digits.length = 4) :
      SpellsChar c ('\\' :: 'u' :: digits)
  | long {digits : List Char} (h : Hex digits c.toNat) (hl : digits.length = 8) :
      SpellsChar c ('\\' :: 'U' :: digits)

/-- The ways to write characters one after another. -/
inductive SpellsChars : List Char → List Char → Prop
  | nil : SpellsChars [] []
  | cons {c : Char} {part s text : List Char} (hc : SpellsChar c part) (h : SpellsChars s text) :
      SpellsChars (c :: s) (part ++ text)

/-- **The basic strings of a string**. -/
inductive SpellsString (s : String) : List Char → Prop
  | quoted {text : List Char} (h : SpellsChars s.toList text) :
      SpellsString s ('"' :: (text ++ ['"']))

/-! ### Values and documents -/

/-- Blanks within a line. -/
def Blanks (text : List Char) : Prop :=
  ∀ c ∈ text, c = ' ' ∨ c = '\t'

theorem blanks_nil : Blanks [] := nofun

theorem blanks_space : Blanks [' '] := fun _ hc => .inl (List.mem_singleton.mp hc)

theorem Blanks.append {text text' : List Char} (h : Blanks text) (h' : Blanks text') :
    Blanks (text ++ text') := by
  intro c hc
  rcases List.mem_append.mp hc with hc | hc
  · exact h c hc
  · exact h' c hc

mutual

/-- **The texts of a value** of strings and objects: a string is a basic string, an object an inline
table with its fields in order. -/
inductive Spells : Value → List Char → Prop
  | string {s : String} {text : List Char} (h : SpellsString s text) : Spells (.string s) text
  | object {fields : List (String × Value)} {text : List Char} (h : SpellsFields fields text) :
      Spells (.object fields) ('\x7b' :: (text ++ ['\x7d']))

/-- The texts of a field: the name as a basic string, and the value. -/
inductive SpellsField : String × Value → List Char → Prop
  | pair {name : String} {v : Value} {key left right text : List Char} (hk : SpellsString name key)
      (hl : Blanks left) (hr : Blanks right) (hv : Spells v text) :
      SpellsField (name, v) (key ++ (left ++ '=' :: (right ++ text)))

/-- The texts of the fields between two braces. -/
inductive SpellsFields : List (String × Value) → List Char → Prop
  | none {before : List Char} (hb : Blanks before) : SpellsFields [] before
  | last {field : String × Value} {before text after : List Char} (hb : Blanks before)
      (hf : SpellsField field text) (ha : Blanks after) :
      SpellsFields [field] (before ++ (text ++ after))
  | next {field other : String × Value} {rest : List (String × Value)}
      {before text after texts : List Char} (hb : Blanks before) (hf : SpellsField field text)
      (ha : Blanks after) (hr : SpellsFields (other :: rest) texts) :
      SpellsFields (field :: other :: rest) (before ++ (text ++ (after ++ ',' :: texts)))

end

/-- More blanks may stand in front of the fields. -/
theorem SpellsFields.pad {fields : List (String × Value)} {blanks text : List Char}
    (hb : Blanks blanks) (h : SpellsFields fields text) : SpellsFields fields (blanks ++ text) := by
  cases h with
  | none hb' => exact .none (hb.append hb')
  | last hb' hf ha =>
    rw [← List.append_assoc]
    exact .last (hb.append hb') hf ha
  | next hb' hf ha hr =>
    rw [← List.append_assoc]
    exact .next (hb.append hb') hf ha hr

/-- The ends of lines. -/
inductive LineEnd : List Char → Prop
  | lineFeed : LineEnd ['\n']
  | both : LineEnd ['\r', '\n']

/-- **The texts of fields, one line each**. The last line may end with the text. -/
inductive SpellsLines : List (String × Value) → List Char → Prop
  | none : SpellsLines [] []
  | last {field : String × Value} {before text after : List Char} (hb : Blanks before)
      (hf : SpellsField field text) (ha : Blanks after) :
      SpellsLines [field] (before ++ (text ++ after))
  | next {field : String × Value} {rest : List (String × Value)}
      {before text after ending texts : List Char} (hb : Blanks before) (hf : SpellsField field text)
      (ha : Blanks after) (he : LineEnd ending) (hr : SpellsLines rest texts) :
      SpellsLines (field :: rest) (before ++ (text ++ (after ++ (ending ++ texts))))

/-! ### One spelling -/

/-- The written form of a character. -/
def escapeChar (c : Char) : List Char :=
  if c = '\x7f' then ['\\', 'u', '0', '0', '7', 'f'] else Json.escapeChar c

/-- A string between quotes. -/
def quote (s : String) : List Char :=
  '"' :: (s.toList.flatMap escapeChar ++ ['"'])

mutual

/-- **A text of a value** of strings and objects. -/
def inline : Value → List Char
  | .string s => quote s
  | .object fields => '\x7b' :: ([',', ' '].intercalate (inlineFields fields) ++ ['\x7d'])
  | _ => []
termination_by structural v => v

/-- Texts of fields. -/
def inlineFields : List (String × Value) → List (List Char)
  | [] => []
  | (name, v) :: rest => (quote name ++ ([' '] ++ '=' :: ([' '] ++ inline v))) :: inlineFields rest
termination_by structural fields => fields

end

/-- **A text of fields, one line each**. -/
def lines (fields : List (String × Value)) : List Char :=
  (inlineFields fields).flatMap (· ++ ['\n'])

theorem spellsChar_escapeChar (c : Char) : SpellsChar c (escapeChar c) := by
  -- The number of a character below 128 has two digits that count.
  have hcoded {a b : Nat} (hb : b < 16) (ha : a < 16) (hc : c.toNat = a * 16 + b) :
      SpellsChar c ['\\', 'u', '0', '0', Nat.digitChar a, Nat.digitChar b] := by
    have h := ((((Hex.nil.concat (d := 0) (by omega) (.inl rfl)).concat (d := 0) (by omega)
      (.inl rfl)).concat ha (.inl rfl)).concat hb (.inl rfl))
    simp only [Nat.zero_mul, Nat.zero_add, ← hc] at h
    exact .short h rfl
  rw [escapeChar]
  split
  case isTrue h =>
    subst h
    exact hcoded (a := 7) (b := 15) (by omega) (by omega) rfl
  case isFalse hd =>
    unfold Json.escapeChar
    split
    case h_1 => exact .marked .quote
    case h_2 => exact .marked .backslash
    case h_3 => exact .marked .backspace
    case h_4 => exact .marked .tab
    case h_5 => exact .marked .lineFeed
    case h_6 => exact .marked .formFeed
    case h_7 => exact .marked .carriageReturn
    case h_8 hq hb _ _ _ _ _ =>
      split
      · exact hcoded (Nat.mod_lt _ (by omega)) (by omega) (by omega)
      · exact .plain (.inr (by omega)) hd hq hb

theorem spellsString_quote (s : String) : SpellsString s (quote s) := by
  have h (text : List Char) : SpellsChars text (text.flatMap escapeChar) := by
    induction text with
    | nil => exact .nil
    | cons c text ih => exact .cons (spellsChar_escapeChar c) ih
  exact .quoted (h s.toList)

mutual

/-- **The writer writes a text of the value.** -/
theorem spells_inline : ∀ v : Value, v.Textual → Spells v (inline v)
  | .string s, _ => .string (spellsString_quote s)
  | .object fields, h => .object (spellsFields_inlineFields fields h)
  | .null, h => h.elim
  | .bool _, h => h.elim
  | .number _, h => h.elim
  | .array _, h => h.elim
termination_by structural v => v

theorem spellsFields_inlineFields : ∀ fields : List (String × Value), Value.AllTextual fields →
    SpellsFields fields ([',', ' '].intercalate (inlineFields fields))
  | [], _ => .none blanks_nil
  | (name, v) :: rest, ⟨hv, hs⟩ => by
    have hf : SpellsField (name, v) (quote name ++ ([' '] ++ '=' :: ([' '] ++ inline v))) :=
      .pair (spellsString_quote name) blanks_space blanks_space (spells_inline v hv)
    cases rest with
    | nil => simpa [inlineFields] using SpellsFields.last blanks_nil hf blanks_nil
    | cons other rest =>
      have hr := spellsFields_inlineFields (other :: rest) hs
      have hn := SpellsFields.next blanks_nil hf blanks_nil (hr.pad blanks_space)
      rw [inlineFields] at hn ⊢
      simpa [inlineFields, List.intercalate_cons_cons] using hn
termination_by structural fields => fields

end

/-- **The writer writes a text of the fields, one line each.** -/
theorem spellsLines_lines {fields : List (String × Value)} (h : Value.AllTextual fields) :
    SpellsLines fields (lines fields) := by
  induction fields with
  | nil => exact .none
  | cons field rest ih =>
    have hf : SpellsField field (quote field.1 ++ ([' '] ++ '=' :: ([' '] ++ inline field.2))) :=
      .pair (spellsString_quote _) blanks_space blanks_space (spells_inline _ h.1)
    simpa [lines, inlineFields] using
      SpellsLines.next blanks_nil hf blanks_nil .lineFeed (ih h.2)

end Reshape.Toml
