import Reshape.Proofs.Json.Nesting
import Reshape.Proofs.Toml.Spelling
import Reshape.Toml.Reader

/-!
# Values read from TOML

Whatever spelling is chosen for a value, the reader of TOML gives the value back, as long as no more
inline tables are open at once than it allows and no table has a key twice. What is read from a part
of a text does not depend on what follows the part, except that two quotes must not be followed by a
third, which would open a string of several lines.

## Main definitions

* `Value.Distinct`: a value in which no object has two fields of one name
* `Toml.Reads`: a reader of the texts of a value

## Main results

* `Toml.SpellsString.takeString?_append`: a basic string is read as the string
* `Toml.takePairs?_append`: the pairs between two braces are read one by one
* `Toml.inlineTable?_of_distinct`: pairs of different keys make the table of the fields
* `Toml.reads_takeValue?`: a value is read from each of its texts, up to the limit
* `Toml.read?_of_spells`: a document is read from each of its texts
-/

namespace Reshape

namespace Text

theorem hexFrom?_append (value : Nat) (digits : List Char) (c : Char) :
    hexFrom? value (digits ++ [c]) =
      (hexFrom? value digits).bind fun n => (hexDigit? c).map fun digit => n * 16 + digit := by
  induction digits generalizing value with
  | nil =>
    rw [List.nil_append, hexFrom?, hexFrom?, Option.bind_some]
    cases hexDigit? c <;> rfl
  | cons d digits ih => simp [hexFrom?, ih, Option.bind_assoc]

end Text

namespace Value

mutual

/-- **A value in which no object has two fields of one name**. -/
def Distinct : Value → Prop
  | array items => ItemsDistinct items
  | object fields => Fields.Distinct fields ∧ FieldsDistinct fields
  | _ => True
termination_by structural v => v

/-- Items in which no object has two fields of one name. -/
def ItemsDistinct : List Value → Prop
  | [] => True
  | item :: rest => item.Distinct ∧ ItemsDistinct rest
termination_by structural items => items

/-- Fields with values in which no object has two fields of one name. -/
def FieldsDistinct : List (String × Value) → Prop
  | [] => True
  | (_, v) :: rest => v.Distinct ∧ FieldsDistinct rest
termination_by structural fields => fields

end

end Value

namespace Toml

/-! ### Strings -/

theorem hexDigit?_toUpper_digitChar :
    ∀ n < 16, Text.hexDigit? (Nat.digitChar n).toUpper = some n := by decide

theorem Hex.hexNumber?_eq {digits : List Char} {n : Nat} (h : Hex digits n) :
    Text.hexNumber? digits = some n := by
  induction h with
  | nil => rfl
  | @concat digits n h d hd c hc ih =>
    have hdigit : Text.hexDigit? c = some d := by
      rcases hc with rfl | rfl
      · exact Json.hexDigit?_digitChar d hd
      · exact hexDigit?_toUpper_digitChar d hd
    rw [Text.hexNumber?] at ih ⊢
    rw [Text.hexFrom?_append, ih, hdigit]
    rfl

theorem Hex.coded?_eq {digits : List Char} {c : Char} (h : Hex digits c.toNat) :
    coded? digits = some c := by
  have hv : c.toNat.isValidChar := c.valid
  rw [coded?, h.hexNumber?_eq, Option.bind_some, Text.scalarOf?, if_pos hv, Char.ofNat_toNat]

/-- A character is read however it is written. -/
theorem SpellsChar.takeBasic?_append {c : Char} {part : List Char} (h : SpellsChar c part)
    (rest : List Char) : takeBasic? (part ++ rest) = (takeBasic? rest).map (extend c) := by
  cases h with
  | plain hp hd hq hb =>
    have hn : c.toNat ≠ 0x7f := fun h => hd (Char.toNat_inj.mp h)
    have hprint : isPrintable c = true := by simpa [isPrintable, hn] using hp
    simp [takeBasic?, hprint, hb]
  | marked hm => cases hm <;> rfl
  | @short digits hx hl =>
    match digits, hl with
    | [a, b, c, d], _ => simp [takeBasic?, hx.coded?_eq]
  | @long digits hx hl =>
    match digits, hl with
    | [a, b, c, d, e, f, g, h], _ => simp [takeBasic?, hx.coded?_eq]

theorem SpellsChars.takeBasic?_append {s text : List Char} (h : SpellsChars s text)
    (rest : List Char) : takeBasic? (text ++ '"' :: rest) = some (s, rest) := by
  induction h with
  | nil => rfl
  | cons hc _ ih =>
    rw [List.append_assoc, hc.takeBasic?_append, ih]
    rfl

/-- What is written for a character starts with something else than a quote. -/
theorem SpellsChar.exists_cons {c : Char} {part : List Char} (h : SpellsChar c part) :
    ∃ d rest, part = d :: rest ∧ d ≠ '"' := by
  cases h with
  | plain _ _ hq _ => exact ⟨c, [], rfl, hq⟩
  | marked _ => exact ⟨'\\', _, rfl, by decide⟩
  | short _ _ => exact ⟨'\\', _, rfl, by decide⟩
  | long _ _ => exact ⟨'\\', _, rfl, by decide⟩

theorem takeString?_eq_takeBasic? {text : List Char} (h : ∀ rest, text ≠ '"' :: '"' :: rest) :
    takeString? ('"' :: text) = takeBasic? text := by
  rw [takeString?]
  exact h

/-- **A basic string is read as the string**, unless another quote follows it. -/
theorem SpellsString.takeString?_append {s : String} {text : List Char} (h : SpellsString s text)
    {rest : List Char} (hr : rest.head? ≠ some '"') :
    takeString? (text ++ rest) = some (s.toList, rest) := by
  obtain ⟨hs⟩ := h
  have ht := hs.takeBasic?_append rest
  rw [List.cons_append, List.append_assoc, List.singleton_append, takeString?_eq_takeBasic?, ht]
  -- Two quotes would be those of the empty string and one behind it.
  intro others he
  generalize s.toList = chars at hs
  cases hs with
  | nil =>
    rw [List.nil_append, List.cons.injEq] at he
    exact hr (by rw [he.2]; rfl)
  | cons hc _ =>
    obtain ⟨d, part, rfl, hd⟩ := hc.exists_cons
    exact hd (List.cons_eq_cons.mp he).1

/-! ### Blanks -/

theorem skipSpaces_append {blanks : List Char} (h : Blanks blanks) (text : List Char) :
    skipSpaces (blanks ++ text) = skipSpaces text := by
  refine List.dropWhile_append_of_pos fun c hc => ?_
  rcases h c hc with rfl | rfl <;> rfl

theorem skipSpaces_cons {c : Char} (h : isSpace c = false) (text : List Char) :
    skipSpaces (c :: text) = c :: text :=
  List.dropWhile_cons_of_neg (by simp [h])

theorem skipSpaces_append_cons {blanks : List Char} (h : Blanks blanks) {c : Char}
    (hc : isSpace c = false) (text : List Char) : skipSpaces (blanks ++ c :: text) = c :: text := by
  rw [skipSpaces_append h, skipSpaces_cons hc]

/-- Blanks do not start with a character that is none. -/
theorem Blanks.head?_append_ne {blanks text : List Char} (h : Blanks blanks) {c : Char}
    (hc : isSpace c = false) (ht : text.head? ≠ some c) : (blanks ++ text).head? ≠ some c := by
  cases blanks with
  | nil => exact ht
  | cons d blanks =>
    rintro ⟨⟩
    rcases h c List.mem_cons_self with rfl | rfl <;> cases hc

/-! ### Keys and pairs -/

theorem SpellsString.exists_cons {s : String} {text : List Char} (h : SpellsString s text) :
    ∃ rest, text = '"' :: rest := by
  obtain ⟨_⟩ := h
  exact ⟨_, rfl⟩

theorem SpellsField.exists_cons {field : String × Value} {text : List Char}
    (h : SpellsField field text) : ∃ rest, text = '"' :: rest := by
  obtain ⟨hk, _, _, _⟩ := h
  obtain ⟨rest, rfl⟩ := hk.exists_cons
  exact ⟨_, rfl⟩

theorem SpellsField.length_pos {field : String × Value} {text : List Char}
    (h : SpellsField field text) : 0 < text.length := by
  obtain ⟨rest, rfl⟩ := h.exists_cons
  exact Nat.succ_pos _

/-- A value starts with a quote or a brace. -/
theorem Spells.skipSpaces_append {v : Value} {text : List Char} (h : Spells v text)
    (rest : List Char) : skipSpaces (text ++ rest) = text ++ rest := by
  cases h with
  | string hs =>
    obtain ⟨text, rfl⟩ := hs.exists_cons
    exact skipSpaces_cons rfl _
  | object _ => exact skipSpaces_cons rfl _

theorem SpellsString.takeName?_append {s : String} {text : List Char} (h : SpellsString s text)
    (rest : List Char) : takeName? (text ++ rest) = some (s, rest) := by
  obtain ⟨hs⟩ := h
  have ht := hs.takeBasic?_append rest
  simp [takeName?, ht]

/-- A key that is one basic string is read as that string. -/
theorem SpellsString.takeKey?_append {name : String} {before key after : List Char}
    (hb : Blanks before) (hk : SpellsString name key) (ha : Blanks after) (rest : List Char) :
    takeKey? (before ++ (key ++ (after ++ '=' :: rest))) = some ([], name, '=' :: rest) := by
  have hs : skipSpaces (before ++ (key ++ (after ++ '=' :: rest))) =
      key ++ (after ++ '=' :: rest) := by
    obtain ⟨key, rfl⟩ := hk.exists_cons
    exact skipSpaces_append_cons hb rfl _
  have he : skipSpaces (after ++ '=' :: rest) = '=' :: rest := skipSpaces_append_cons ha rfl rest
  have hn (limit : Nat) : takeNames? (limit + 1) (before ++ (key ++ (after ++ '=' :: rest))) =
      some ([name], '=' :: rest) := by
    simp [takeNames?, hs, hk.takeName?_append, he]
  rw [takeKey?, keyLimit, hn]
  rfl

/-- **A reader of the texts of a value**: whatever follows, except for a quote, is left. -/
def Reads (value? : List Char → Option (Node × List Char)) (v : Value) : Prop :=
  ∀ text, Spells v text → ∀ rest : List Char, rest.head? ≠ some '"' →
    value? (text ++ rest) = some (Node.ofValue v, rest)

/-- The pair that is read from a field. -/
def pairOf (field : String × Value) : List String × String × Node :=
  ([], field.1, Node.ofValue field.2)

section

variable {value? : List Char → Option (Node × List Char)}

theorem Reads.takePair?_append {field : String × Value} (hv : Reads value? field.2)
    {before text rest : List Char} (hb : Blanks before) (hf : SpellsField field text)
    (hr : rest.head? ≠ some '"') :
    takePair? value? (before ++ (text ++ rest)) = some (pairOf field, rest) := by
  obtain ⟨hk, hl, hright, hs⟩ := hf
  have hkey := fun rest => hk.takeKey?_append hb hl rest
  have hvalue := hv _ hs rest hr
  simp [takePair?, hkey, skipSpaces_append hright, hs.skipSpaces_append, hvalue, pairOf]

/-- **The pairs between two braces** are read one by one. -/
theorem takePairs?_append {fields : List (String × Value)}
    (hv : ∀ field ∈ fields, Reads value? field.2) (hne : fields ≠ []) {text : List Char}
    (hf : SpellsFields fields text) (bound : Nat) (hl : fields.length ≤ bound) (rest : List Char) :
    takePairs? value? bound (text ++ '\x7d' :: rest) = some (fields.map pairOf, rest) := by
  induction fields generalizing text bound with
  | nil => exact absurd rfl hne
  | cons field fields ih =>
    obtain ⟨bound, rfl⟩ : ∃ n, bound = n + 1 := Nat.exists_eq_add_one.mpr (Nat.zero_lt_of_lt hl)
    have hfirst := hv field List.mem_cons_self
    cases hf with
    | @last _ _ _ after hb hf ha =>
      have hq : (after ++ '\x7d' :: rest).head? ≠ some '"' := ha.head?_append_ne rfl (by simp)
      have hp := hfirst.takePair?_append hb hf hq
      have hs := skipSpaces_append_cons ha (c := '\x7d') rfl rest
      simp [takePairs?, hp, hs]
    | @next _ other others _ _ after texts hb hf ha hr =>
      have hq : (after ++ ',' :: (texts ++ '\x7d' :: rest)).head? ≠ some '"' :=
        ha.head?_append_ne rfl (by simp)
      have hp := hfirst.takePair?_append hb hf hq
      have hrest := ih (fun field hm => hv field (List.mem_cons_of_mem _ hm))
        (List.cons_ne_nil _ _) hr bound (Nat.le_of_succ_le_succ hl)
      have hs := skipSpaces_append_cons ha (c := ',') rfl (texts ++ '\x7d' :: rest)
      simp [takePairs?, hp, hs, hrest]

end

/-! ### Tables -/

theorem define?_of_new {entries : Entries} {key : String} (h : key ∉ Fields.keys entries)
    (node : Node) : define? entries [] key node = some (entries ++ [(key, .value node)]) := by
  have hc : Fields.contains entries key = false := by
    rw [Fields.contains, Fields.get?_eq_none_iff.mpr h]
    rfl
  rw [define?, addNew?, hc, Fields.insert_of_not_mem _ h]
  rfl

/-- Fields of different names are set one behind the other. -/
theorem foldlM_define? (fields : List (String × Value)) (entries : Entries)
    (h : (Fields.keys entries ++ Fields.keys fields).Nodup) :
    (fields.map pairOf).foldlM (fun entries pair => define? entries pair.1 pair.2.1 pair.2.2)
        entries =
      some (entries ++ fields.map fun field => (field.1, .value (Node.ofValue field.2))) := by
  induction fields generalizing entries with
  | nil => simp
  | cons field fields ih =>
    have hn : field.1 ∉ Fields.keys entries := fun hm =>
      (List.nodup_append.mp h).2.2 _ hm _ List.mem_cons_self rfl
    have hr := ih (entries ++ [(field.1, .value (Node.ofValue field.2))])
      (by simpa [Fields.keys] using h)
    simp [pairOf, define?_of_new hn, hr]

theorem toNodes_values (fields : List (String × Value)) :
    Item.toNodes (fields.map fun field => (field.1, .value (Node.ofValue field.2))) =
      Node.ofFields fields := by
  induction fields with
  | nil => rfl
  | cons field fields ih => rw [List.map_cons, Item.toNodes, ih, Item.toNode, Node.ofFields]

/-- **An inline table of different keys** is put together as the table of its fields. -/
theorem inlineTable?_of_distinct {fields : List (String × Value)} (h : Fields.Distinct fields) :
    inlineTable? (fields.map pairOf) = some (.table (Node.ofFields fields)) := by
  have hf := foldlM_define? fields [] h
  rw [inlineTable?, hf, Option.map_some, List.nil_append, toNodes_values]

/-- Pairs without any header make the same table as between two braces. -/
theorem assemble?_pairs (pairs : List (List String × String × Node)) :
    Statement.assemble? (pairs.map fun pair => .pair pair.1 pair.2.1 pair.2.2) =
      inlineTable? pairs := by
  have hf (entries : Entries) :
      (pairs.map fun pair => Statement.pair pair.1 pair.2.1 pair.2.2).foldlM Assembly.step?
          ⟨entries, []⟩ =
        (pairs.foldlM (fun entries pair => define? entries pair.1 pair.2.1 pair.2.2) entries).map
          fun root => ⟨root, []⟩ := by
    induction pairs generalizing entries with
    | nil => rfl
    | cons pair pairs ih =>
      rw [List.map_cons, List.foldlM_cons, List.foldlM_cons, Assembly.step?, within?]
      cases define? entries pair.1 pair.2.1 pair.2.2 with
      | none => rfl
      | some root => exact ih root
  rw [Statement.assemble?, Assembly.start, hf, inlineTable?, Option.map_map]
  rfl

/-! ### Values -/

/-- The blanks in front of the first field are left out. -/
theorem SpellsFields.trim {fields : List (String × Value)} {text : List Char}
    (h : SpellsFields fields text) (hne : fields ≠ []) :
    ∃ trimmed, SpellsFields fields ('"' :: trimmed) ∧
      ∀ rest, skipSpaces (text ++ rest) = '"' :: (trimmed ++ rest) := by
  cases h with
  | none _ => exact absurd rfl hne
  | last hb hf ha =>
    have ht := SpellsFields.last blanks_nil hf ha
    obtain ⟨text, rfl⟩ := hf.exists_cons
    refine ⟨_, ht, fun rest => ?_⟩
    simpa using skipSpaces_append_cons hb rfl _
  | next hb hf ha hr =>
    have ht := SpellsFields.next blanks_nil hf ha hr
    obtain ⟨text, rfl⟩ := hf.exists_cons
    refine ⟨_, ht, fun rest => ?_⟩
    simpa using skipSpaces_append_cons hb rfl _

theorem SpellsFields.length_le {fields : List (String × Value)} {text : List Char}
    (h : SpellsFields fields text) : fields.length ≤ text.length := by
  induction fields generalizing text with
  | nil => exact Nat.zero_le _
  | cons field fields ih =>
    cases h with
    | last _ hf _ =>
      have hp := hf.length_pos
      simp only [List.length_append, List.length_singleton]
      omega
    | next _ _ _ hr =>
      have hle := ih hr
      simp only [List.length_append, List.length_cons] at hle ⊢
      omega

theorem takeValue?_string {text : List Char} (depth : Nat) {s : String} (h : SpellsString s text)
    {rest : List Char} (hr : rest.head? ≠ some '"') :
    takeValue? depth (text ++ rest) = some (.text s, rest) := by
  have ht := h.takeString?_append hr
  obtain ⟨text, rfl⟩ := h.exists_cons
  have hs : takeValue? depth ('"' :: text ++ rest) =
      (takeString? ('"' :: text ++ rest)).map fun taken =>
        (.text (String.ofList taken.1), taken.2) := by
    cases depth <;> rfl
  rw [hs, ht, Option.map_some, String.ofList_toList]

/-- The fields between two braces are read as the table that they make. -/
theorem takeValue?_object {fields : List (String × Value)} {depth : Nat}
    (hv : ∀ field ∈ fields, Reads (takeValue? depth) field.2) (hd : Fields.Distinct fields)
    {text : List Char} (hf : SpellsFields fields text) (rest : List Char) :
    takeValue? (depth + 1) ('\x7b' :: (text ++ '\x7d' :: rest)) =
      some (.table (Node.ofFields fields), rest) := by
  cases fields with
  | nil =>
    obtain ⟨hb⟩ := hf
    have hs := skipSpaces_append_cons hb (c := '\x7d') rfl rest
    simp [takeValue?, hs, Node.ofFields]
  | cons field fields =>
    obtain ⟨trimmed, ht, hskip⟩ := hf.trim (List.cons_ne_nil _ _)
    have hs := hskip ('\x7d' :: rest)
    -- Each field takes at least a character, so that the reader may go on to the last.
    have hbound : (field :: fields).length ≤ ('"' :: (trimmed ++ '\x7d' :: rest)).length + 1 := by
      have hle := ht.length_le
      simp only [List.length_append, List.length_cons] at hle ⊢
      omega
    have hp := takePairs?_append hv (List.cons_ne_nil _ _) ht _ hbound rest
    have he : takeValue? (depth + 1) ('\x7b' :: (text ++ '\x7d' :: rest)) =
        (takePairs? (takeValue? depth) (('"' :: (trimmed ++ '\x7d' :: rest)).length + 1)
          ('"' :: (trimmed ++ '\x7d' :: rest))).bind fun taken =>
            (inlineTable? taken.1).bind fun node => some (node, taken.2) := by
      rw [takeValue?, hs]
      rfl
    rw [List.cons_append] at hp
    rw [he, hp, Option.bind_some, inlineTable?_of_distinct hd, Option.bind_some]

mutual

/-- **A value is read from each of its texts** if no more objects stand inside one another than
inline tables may be open. -/
theorem reads_takeValue? : ∀ (v : Value) (depth : Nat), v.Distinct → v.nesting ≤ depth →
    Reads (takeValue? depth) v
  | .string s, depth, _, _ => by
    rintro _ ⟨hs⟩ rest hr
    exact takeValue?_string depth hs hr
  | .object fields, 0, _, hn => absurd hn (Nat.not_succ_le_zero _)
  | .object fields, depth + 1, ⟨hd, hds⟩, hn => by
    have hv := reads_fields fields depth hds (Nat.le_of_succ_le_succ hn)
    rintro _ (_ | hf) rest -
    have ht := takeValue?_object hv hd hf rest
    simpa [Node.ofValue] using ht
  | .null, _, _, _ => nofun
  | .bool _, _, _, _ => nofun
  | .number _, _, _, _ => nofun
  | .array _, _, _, _ => nofun
termination_by structural v => v

theorem reads_fields : ∀ (fields : List (String × Value)) (depth : Nat),
    Value.FieldsDistinct fields → Value.nestingFields fields ≤ depth →
    ∀ field ∈ fields, Reads (takeValue? depth) field.2
  | [], _, _, _ => nofun
  | (name, v) :: rest, depth, ⟨hv, hs⟩, hn => by
    rw [Value.nestingFields, Nat.max_le] at hn
    exact List.forall_mem_cons.mpr
      ⟨reads_takeValue? v depth hv hn.1, reads_fields rest depth hs hn.2⟩
termination_by structural fields => fields

end

/-! ### Documents -/

theorem takeLineRest?_line {after ending : List Char} (ha : Blanks after) (he : LineEnd ending)
    (rest : List Char) : takeLineRest? (after ++ (ending ++ rest)) = some rest := by
  cases he with
  | lineFeed =>
    have hs := skipSpaces_append_cons ha (c := '\n') rfl rest
    simp [takeLineRest?, hs, takeLineEnd?]
  | both =>
    have hs := skipSpaces_append_cons ha (c := '\r') rfl ('\n' :: rest)
    simp [takeLineRest?, hs, takeLineEnd?]

theorem takeLineRest?_last {after : List Char} (ha : Blanks after) :
    takeLineRest? after = some [] := by
  have hs : skipSpaces after = [] := by
    have h := skipSpaces_append ha []
    rwa [List.append_nil] at h
  rw [takeLineRest?, hs]
  rfl

theorem LineEnd.head?_append_ne {ending : List Char} (h : LineEnd ending) (rest : List Char) :
    (ending ++ rest).head? ≠ some '"' := by
  cases h <;> simp

/-- A statement that sets the value of a field. -/
def statementOf (field : String × Value) : Statement :=
  .pair [] field.1 (Node.ofValue field.2)

/-- **A line is read as the statement** that sets the value of its field. -/
theorem takeStatements?_cons {field : String × Value}
    (hv : Reads (takeValue? nestingLimit) field.2) {before text rest rest' : List Char}
    (hb : Blanks before) (hf : SpellsField field text) (hr : rest.head? ≠ some '"')
    (hl : takeLineRest? rest = some rest') (bound : Nat) :
    takeStatements? (bound + 1) (before ++ (text ++ rest)) =
      (takeStatements? bound rest').map (statementOf field :: ·) := by
  have hp := hv.takePair?_append blanks_nil hf hr
  obtain ⟨text, rfl⟩ := hf.exists_cons
  have hs := skipSpaces_append_cons hb (c := '"') rfl (text ++ rest)
  have hst : takeStatement? ('"' :: (text ++ rest)) = some (statementOf field, rest') := by
    have ht : takeStatement? ('"' :: (text ++ rest)) =
        (takePair? (takeValue? nestingLimit) ('"' :: (text ++ rest))).bind fun taken =>
          (takeLineRest? taken.2).bind fun rest =>
            some (.pair taken.1.1 taken.1.2.1 taken.1.2.2, rest) := rfl
    rw [List.nil_append, List.cons_append] at hp
    rw [ht, hp, Option.bind_some, hl]
    rfl
  have hnext : takeStatements? (bound + 1) (before ++ '"' :: (text ++ rest)) =
      (takeStatement? ('"' :: (text ++ rest))).bind fun taken =>
        (takeStatements? bound taken.2).bind fun statements =>
          some (taken.1 :: statements) := by
    rw [takeStatements?, hs]
    rfl
  rw [List.cons_append, hnext, hst, Option.bind_some]
  cases takeStatements? bound rest' <;> rfl

theorem SpellsLines.length_le {fields : List (String × Value)} {text : List Char}
    (h : SpellsLines fields text) : fields.length ≤ text.length := by
  induction h with
  | none => exact Nat.zero_le _
  | last _ hf _ =>
    have hp := hf.length_pos
    simp only [List.length_append, List.length_singleton]
    omega
  | next _ hf _ _ _ ih =>
    have hp := hf.length_pos
    simp only [List.length_append, List.length_cons]
    omega

/-- **Lines are read as the statements** that set the values of their fields. -/
theorem SpellsLines.takeStatements?_eq {fields : List (String × Value)} {text : List Char}
    (h : SpellsLines fields text)
    (hv : ∀ field ∈ fields, Reads (takeValue? nestingLimit) field.2) (bound : Nat)
    (hl : fields.length < bound) : takeStatements? bound text = some (fields.map statementOf) := by
  have hend (n : Nat) : takeStatements? (n + 1) [] = some [] := rfl
  induction h generalizing bound with
  | none =>
    obtain ⟨bound, rfl⟩ : ∃ n, bound = n + 1 := Nat.exists_eq_add_one.mpr hl
    exact hend bound
  | last hb hf ha =>
    obtain ⟨bound, rfl⟩ : ∃ n, bound = n + 2 := Nat.exists_eq_add_of_le' hl
    have hr := @Blanks.head?_append_ne _ [] ha '"' rfl (by simp)
    have ht := takeStatements?_cons (hv _ List.mem_cons_self) hb hf hr
      (by rw [List.append_nil]; exact takeLineRest?_last ha) (bound + 1)
    rw [List.append_nil, hend] at ht
    exact ht
  | next hb hf ha he hr ih =>
    obtain ⟨bound, rfl⟩ : ∃ n, bound = n + 1 := Nat.exists_eq_add_of_le' (Nat.zero_lt_of_lt hl)
    have ht := ih (fun field hm => hv field (List.mem_cons_of_mem _ hm))
      bound (Nat.lt_of_succ_lt_succ hl)
    rw [takeStatements?_cons (hv _ List.mem_cons_self) hb hf
      (ha.head?_append_ne rfl (he.head?_append_ne _)) (takeLineRest?_line ha he _), ht]
    rfl

/-- The lines do not start with a byte order mark. -/
theorem SpellsLines.head?_ne {fields : List (String × Value)} {text : List Char}
    (h : SpellsLines fields text) : text.head? ≠ some '\ufeff' := by
  cases h with
  | none => simp
  | last hb hf _ =>
    obtain ⟨text, rfl⟩ := hf.exists_cons
    exact hb.head?_append_ne rfl (by simp)
  | next hb hf _ _ _ =>
    obtain ⟨text, rfl⟩ := hf.exists_cons
    exact hb.head?_append_ne rfl (by simp)

/-- **A document is read from each of its texts.** -/
theorem read?_of_spells {fields : List (String × Value)} {text : String}
    (h : SpellsLines fields text.toList) (hd : Fields.Distinct fields)
    (hds : Value.FieldsDistinct fields) (hn : Value.nestingFields fields ≤ nestingLimit) :
    read? text = some (.table (Node.ofFields fields)) := by
  have hv := reads_fields fields nestingLimit hds hn
  have hs : statements? text.toList = some (fields.map statementOf) := by
    have hl := Nat.lt_succ_of_le h.length_le
    rw [statements?, if_neg h.head?_ne]
    exact h.takeStatements?_eq hv _ hl
  have hp := assemble?_pairs (fields.map pairOf)
  rw [List.map_map, inlineTable?_of_distinct hd] at hp
  rw [read?, hs, Option.bind_some]
  exact hp

end Toml

end Reshape
