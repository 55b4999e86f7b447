import Reshape.Json.Reader
import Reshape.Proofs.Json.Tokens

/-!
# Nested objects and the limit of the reader

How many objects and arrays stand inside one another, in a value and in a text. An indented text of
a value of strings and objects is read back as that value if no more are open at once than the
reader allows, and is refused if more are.

## Main definitions

* `Value.nesting`: how many arrays and objects of a value stand inside one another
* `Json.openAtOnce`: how many are open at once in a text

## Main results

* `Json.foldlM_step_tokens`: the tokens of a value are put together as the value, up to the limit
* `Json.openAtOnce_pretty`: as many are open in the indented form as stand inside one another
* `Json.read?_pretty`: the indented form is read back, up to the limit
-/

namespace Reshape

namespace Value

mutual

/-- **How many arrays and objects** of a value stand inside one another. -/
def nesting : Value → Nat
  | array items => nestingItems items + 1
  | object fields => nestingFields fields + 1
  | _ => 0
termination_by structural v => v

/-- The nesting of the most nested item. -/
def nestingItems : List Value → Nat
  | [] => 0
  | item :: rest => max item.nesting (nestingItems rest)
termination_by structural items => items

/-- The nesting of the most nested field. -/
def nestingFields : List (String × Value) → Nat
  | [] => 0
  | (_, v) :: rest => max v.nesting (nestingFields rest)
termination_by structural fields => fields

end

end Value

namespace Json

/-! ### Open brackets in a text -/

/-- Where a count of brackets stands in a text. -/
inductive Place where
  | outside
  /-- In a string. -/
  | inside
  /-- In a string, behind a backslash. -/
  | escaped

/-- The most brackets that are open at once in the rest of a text, given how many are open so far.
Those in strings do not count. -/
def openFrom : Place → Nat → List Char → Nat
  | _, n, [] => n
  | .outside, n, c :: rest =>
    if c = '"' then openFrom .inside n rest
    else if c = '\x7b' ∨ c = '[' then max n (openFrom .outside (n + 1) rest)
    else if c = '\x7d' ∨ c = ']' then max n (openFrom .outside (n - 1) rest)
    else openFrom .outside n rest
  | .inside, n, c :: rest =>
    if c = '"' then openFrom .outside n rest
    else if c = '\\' then openFrom .escaped n rest
    else openFrom .inside n rest
  | .escaped, n, _ :: rest => openFrom .inside n rest

/-- **The most brackets that are open at once** in a text. -/
def openAtOnce (text : String) : Nat :=
  openFrom .outside 0 text.toList

theorem le_openFrom (place : Place) (n : Nat) (text : List Char) : n ≤ openFrom place n text := by
  induction text generalizing place n with
  | nil => cases place <;> exact Nat.le_refl n
  | cons c rest ih =>
    cases place with
    | outside =>
      rw [openFrom]
      split
      · exact ih _ _
      split
      · exact Nat.le_max_left _ _
      split
      · exact Nat.le_max_left _ _
      · exact ih _ _
    | inside =>
      rw [openFrom]
      split
      · exact ih _ _
      split <;> exact ih _ _
    | escaped => exact ih _ _

theorem digitChar_plain : ∀ n < 16, Nat.digitChar n ≠ '"' ∧ Nat.digitChar n ≠ '\\' := by decide

/-- An escaped character opens nothing and does not end the string. -/
theorem openFrom_escapeChar (n : Nat) (c : Char) (rest : List Char) :
    openFrom .inside n (escapeChar c ++ rest) = openFrom .inside n rest := by
  unfold escapeChar
  split
  case h_8 =>
    split
    · have hd := digitChar_plain (c.toNat / 16) (by omega)
      have he := digitChar_plain (c.toNat % 16) (by omega)
      simp [openFrom, hd, he]
    · simp_all [openFrom]
  all_goals rfl

theorem openFrom_quote (n : Nat) (s : String) (rest : List Char) :
    openFrom .outside n (quote s ++ rest) = openFrom .outside n rest := by
  have hs (text : List Char) : openFrom .inside n (text.flatMap escapeChar ++ '"' :: rest) =
      openFrom .outside n rest := by
    induction text with
    | nil => rfl
    | cons c text ih => rw [List.flatMap_cons, List.append_assoc, openFrom_escapeChar, ih]
  rw [quote, List.append_assoc]
  exact hs s.toList

/-- **A text that opens brackets**, so many at once, and closes them all. -/
def Opens (text : List Char) (k : Nat) : Prop :=
  ∀ n rest, openFrom .outside n (text ++ rest) = max (n + k) (openFrom .outside n rest)

namespace Opens

variable {text text' : List Char} {j k : Nat}

theorem append (h : Opens text j) (h' : Opens text' k) : Opens (text ++ text') (max j k) := by
  intro n rest
  rw [List.append_assoc, h, h']
  omega

/-- A text that is passed over opens nothing. -/
theorem of_passed (h : ∀ n rest, openFrom .outside n (text ++ rest) = openFrom .outside n rest) :
    Opens text 0 := by
  intro n rest
  rw [h]
  have := le_openFrom .outside n rest
  omega

theorem quote (s : String) : Opens (quote s) 0 :=
  of_passed fun n rest => openFrom_quote n s rest

theorem newline (level : Nat) : Opens (newline level) 0 := by
  have hr (k n : Nat) (rest : List Char) :
      openFrom .outside n (List.replicate k ' ' ++ rest) = openFrom .outside n rest := by
    induction k with
    | zero => rfl
    | succ k ih => exact ih
  exact of_passed fun n rest => hr (2 * level) n rest

/-- Braces open one more than what is between them. -/
theorem braces (h : Opens text k) : Opens ('\x7b' :: text ++ ['\x7d']) (k + 1) := by
  intro n rest
  have ho : openFrom .outside n ('\x7b' :: (text ++ '\x7d' :: rest)) =
      max n (openFrom .outside (n + 1) (text ++ '\x7d' :: rest)) := rfl
  have hc : openFrom .outside (n + 1) ('\x7d' :: rest) = max (n + 1) (openFrom .outside n rest) :=
    rfl
  simp only [List.cons_append, List.append_assoc, List.nil_append]
  rw [ho, h, hc]
  omega

end Opens

mutual

/-- The indented form of a value opens as many brackets as stand inside one another. -/
theorem opens_prettyChars : ∀ (v : Value) (level : Nat), v.Textual →
    Opens (prettyChars level v) v.nesting
  | .string s, _, _ => .quote s
  | .object [], _, _ =>
    have hb : Opens [] 0 := .of_passed fun _ _ => rfl
    hb.braces
  | .object (field :: rest), level, h => by
    have hf := opens_prettyFields (field :: rest) (level + 1) h
    have hb := (((Opens.newline (level + 1)).append hf).append (.newline level)).braces
    simpa [prettyChars, prettyFields, block, Value.nesting] using hb
  | .null, _, h => h.elim
  | .bool _, _, h => h.elim
  | .number _, _, h => h.elim
  | .array _, _, h => h.elim
termination_by structural v => v

theorem opens_prettyFields : ∀ (fields : List (String × Value)) (level : Nat),
    Value.AllTextual fields →
    Opens ((',' :: newline level).intercalate (prettyFields level fields))
      (Value.nestingFields fields)
  | [], _, _ => .of_passed fun _ _ => rfl
  | (name, v) :: rest, level, h => by
    have hc : Opens [':', ' '] 0 := .of_passed fun _ _ => rfl
    have hs : Opens [','] 0 := .of_passed fun _ _ => rfl
    have hv := ((Opens.quote name).append hc).append (opens_prettyChars v level h.1)
    cases rest with
    | nil => simpa [prettyFields, Value.nestingFields] using hv
    | cons field rest =>
      have hr := opens_prettyFields (field :: rest) level h.2
      have hj := (hv.append (hs.append (.newline level))).append hr
      simpa [prettyFields, Value.nestingFields, List.intercalate_cons_cons] using hj
termination_by structural fields => fields

end

/-- As many brackets are open at once in the indented form as stand inside one another. -/
theorem openAtOnce_pretty {v : Value} (h : v.Textual) : openAtOnce (pretty v) = v.nesting := by
  have ho := opens_prettyChars v 0 h 0 []
  rw [List.append_nil] at ho
  rw [openAtOnce, pretty, String.toList_ofList, ho, openFrom]
  omega

/-! ### Values from tokens -/

/-- Behind a name and its colon the value of the field comes, inside the object. -/
theorem foldlM_step_name (before : List (String × Value)) (first : Bool) (frames : List Frame)
    (name : String) (rest : List Token) :
    (Token.string name :: .colon :: rest).foldlM Builder.step (.name before first frames) =
      rest.foldlM Builder.step (.value (.object before name :: frames)) := by
  cases first <;> rfl

/-- What comes behind a field is read with the value of the field complete, if its value is put
together. -/
theorem foldlM_step_field {before : List (String × Value)} {frames : List Frame} {name : String}
    {v : Value}
    (hv : (tokens v).foldlM Builder.step (.value (.object before name :: frames)) =
      if frames.length + 1 + v.nesting ≤ nestingLimit then
        some (.complete v (.object before name :: frames)) else none)
    (first : Bool) (rest : List Token) :
    (Token.string name :: .colon :: tokens v ++ rest).foldlM Builder.step
        (.name before first frames) =
      if frames.length + 1 + v.nesting ≤ nestingLimit then
        rest.foldlM Builder.step (.complete v (.object before name :: frames)) else none := by
  rw [List.cons_append, List.cons_append, foldlM_step_name, List.foldlM_append, hv]
  split <;> rfl

mutual

/-- **The tokens of a value are put together as the value** if no more objects are open at once than
the limit allows; otherwise they are refused. -/
theorem foldlM_step_tokens : ∀ (v : Value) (frames : List Frame), v.Textual →
    frames.length ≤ nestingLimit →
    (tokens v).foldlM Builder.step (.value frames) =
      if frames.length + v.nesting ≤ nestingLimit then some (.complete v frames) else none
  | .string s, frames, _, hf => (if_pos hf).symm
  | .object fields, frames, h, _ => by
    rw [tokens, List.cons_append, List.foldlM_cons, Value.nesting]
    by_cases ho : frames.length < nestingLimit
    · have hs : Builder.step (.value frames) .beginObject = some (.name [] true frames) := if_pos ho
      rw [hs, Option.bind_eq_bind, Option.bind_some]
      cases fields with
      | nil => exact (if_pos ho).symm
      | cons field rest =>
        exact foldlM_step_fieldTokens (field :: rest) [] true frames (List.cons_ne_nil _ _) h ho
    · -- The object itself is one too many.
      have hs : Builder.step (.value frames) .beginObject = none := if_neg ho
      rw [hs, if_neg (by omega)]
      rfl
  | .null, _, h, _ => h.elim
  | .bool _, _, h, _ => h.elim
  | .number _, _, h, _ => h.elim
  | .array _, _, h, _ => h.elim
termination_by structural v => v

/-- The names and values of an object are put together as its fields, and its end completes it. -/
theorem foldlM_step_fieldTokens : ∀ (fields before : List (String × Value)) (first : Bool)
    (frames : List Frame), fields ≠ [] → Value.AllTextual fields → frames.length < nestingLimit →
    ([Token.comma].intercalate (fieldTokens fields) ++ [Token.endObject]).foldlM Builder.step
        (.name before first frames) =
      if frames.length + (Value.nestingFields fields + 1) ≤ nestingLimit then
        some (.complete (.object (before.reverse ++ fields)) frames)
      else none
  | [], _, _, _, hne, _, _ => absurd rfl hne
  | (name, v) :: rest, before, first, frames, _, h, hf => by
    have hv := foldlM_step_tokens v (.object before name :: frames) h.1 hf
    have hn : Value.nestingFields ((name, v) :: rest) = max v.nesting (Value.nestingFields rest) :=
      rfl
    rw [fieldTokens, hn]
    cases rest with
    | nil =>
      have hr : Value.nestingFields [] = 0 := rfl
      rw [fieldTokens, List.intercalate_singleton, foldlM_step_field hv]
      refine if_congr (by omega) ?_ rfl
      simp [Builder.step, Builder.continueValue]
    | cons field rest =>
      have hr := foldlM_step_fieldTokens (field :: rest) ((name, v) :: before) false frames
        (List.cons_ne_nil _ _) h.2 hf
      -- The comma behind the value leads to the next name.
      have hc (rest : List Token) : (Token.comma :: rest).foldlM Builder.step
          (.complete v (.object before name :: frames)) =
          rest.foldlM Builder.step (.name ((name, v) :: before) false frames) := rfl
      rw [fieldTokens] at hr ⊢
      rw [List.intercalate_cons_cons, List.append_assoc, List.append_assoc, foldlM_step_field hv,
        List.singleton_append, hc, hr, List.reverse_cons, List.append_assoc, List.singleton_append,
        ← ite_and]
      exact if_congr (by omega) rfl rfl
termination_by structural fields => fields

end

/-- **The indented form is read back** if no more objects stand inside one another than the limit
allows; otherwise it is refused. -/
theorem read?_pretty {v : Value} (h : v.Textual) :
    read? (pretty v) = if v.nesting ≤ nestingLimit then some v else none := by
  have hs : tokens? (prettyChars 0 v) = some (tokens v) := (scans_prettyChars v 0 h).tokens?_eq
  have hb := foldlM_step_tokens v [] h (Nat.zero_le _)
  rw [List.length_nil, Nat.zero_add] at hb
  rw [read?, pretty, String.toList_ofList, hs, Option.bind_some, ofTokens?, hb]
  split <;> rfl

end Json

end Reshape
