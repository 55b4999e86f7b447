import Mathlib.Data.List.Forall2
import Reshape.Json.Quoting

/-!
# The tokens of indented texts

The indented form of a value of strings and objects is scanned as the tokens that spell the value:
the line ends and the spaces between them are passed over, and the strings come back with their
escapes resolved.

## Main definitions

* `Value.Textual`: the values of strings and objects
* `Json.tokens`: the tokens that spell a value
* `Json.Scans`: a text that is scanned as some tokens

## Main results

* `Json.Scans.append`: texts one after another are scanned one after another
* `Json.scans_prettyChars`: the indented form is scanned as the tokens of the value
-/

namespace Reshape

namespace Value

mutual

/-- **A value of strings and objects**. -/
def Textual : Value → Prop
  | string _ => True
  | object fields => AllTextual fields
  | _ => False
termination_by structural v => v

/-- Fields with values of strings and objects. -/
def AllTextual : List (String × Value) → Prop
  | [] => True
  | (_, v) :: rest => v.Textual ∧ AllTextual rest
termination_by structural fields => fields

end

end Value

namespace Json

mutual

/-- **The tokens that spell a value**. -/
def tokens : Value → List Token
  | .string s => [.string s]
  | .array items => .beginArray :: [Token.comma].intercalate (itemTokens items) ++ [.endArray]
  | .object fields => .beginObject :: [Token.comma].intercalate (fieldTokens fields) ++ [.endObject]
  | v => [.scalar v]
termination_by structural v => v

/-- The tokens that spell the items of an array. -/
def itemTokens : List Value → List (List Token)
  | [] => []
  | item :: rest => tokens item :: itemTokens rest
termination_by structural items => items

/-- The tokens that spell the fields of an object. -/
def fieldTokens : List (String × Value) → List (List Token)
  | [] => []
  | (name, v) :: rest => (.string name :: .colon :: tokens v) :: fieldTokens rest
termination_by structural fields => fields

end

/-! ### Scanning -/

/-- **A text that is scanned as some tokens**, wherever it stands between others. -/
def Scans (text : List Char) (tokens : List Token) : Prop :=
  ∀ found, text.foldlM Scanner.step ⟨.between, found⟩ = some ⟨.between, tokens.reverse ++ found⟩

namespace Scans

variable {text text' : List Char} {spelt spelt' : List Token}

theorem nil : Scans [] [] := fun _ => rfl

theorem append (h : Scans text spelt) (h' : Scans text' spelt') :
    Scans (text ++ text') (spelt ++ spelt') := by
  intro found
  rw [List.foldlM_append, h found, Option.bind_eq_bind, Option.bind_some, h', List.reverse_append,
    List.append_assoc]

/-- The tokens of a whole text. -/
theorem tokens?_eq (h : Scans text spelt) : tokens? text = some spelt := by
  rw [tokens?, Scanner.start, h []]
  simp [Scanner.finish?]

/-- A space is passed over. -/
theorem space {c : Char} (hc : isSpace c = true) : Scans [c] [] := by
  intro found
  simp [Scanner.step, startToken, hc]

/-- A structural character is a token. -/
theorem structural {c : Char} {token : Token} (hc : structural? c = some token) :
    Scans [c] [token] := by
  intro found
  have hs : startToken found c = some ⟨.between, token :: found⟩ := by
    unfold structural? at hc
    split at hc <;> cases hc <;> rfl
  simp [Scanner.step, hs]

/-- A string between quotes is a token. -/
theorem quote (s : String) : Scans (quote s) [.string s] :=
  fun found => foldlM_step_quote found s

theorem newline (level : Nat) : Scans (newline level) [] := by
  have hr (n : Nat) : Scans (List.replicate n ' ') [] := by
    induction n with
    | zero => exact nil
    | succ n ih => exact (space (by rfl)).append ih
  exact (space (c := '\n') (by rfl)).append (hr (2 * level))

/-- Parts with a separator between them are scanned part by part. -/
theorem intercalate {separator : List Char} {token : Token} (hs : Scans separator [token])
    {parts : List (List Char)} {spelt : List (List Token)} (h : List.Forall₂ Scans parts spelt) :
    Scans (separator.intercalate parts) ([token].intercalate spelt) := by
  induction h with
  | nil => exact nil
  | @cons part spelt parts rest hp ht ih =>
    cases ht with
    | nil => simpa using hp
    | cons hq ht =>
      rw [List.intercalate_cons_cons, List.intercalate_cons_cons]
      exact (hp.append hs).append ih

theorem block {level : Nat} {left right : Char} {opening closing : Token}
    (hl : structural? left = some opening) (hr : structural? right = some closing)
    {parts : List (List Char)} {spelt : List (List Token)} (h : List.Forall₂ Scans parts spelt) :
    Scans (block level left right parts)
      (opening :: [Token.comma].intercalate spelt ++ [closing]) := by
  have hl := structural hl
  have hr := structural hr
  cases h with
  | nil => exact hl.append hr
  | cons hp ht =>
    have hc : Scans (',' :: Json.newline (level + 1)) [.comma] :=
      (structural (c := ',') rfl).append (newline (level + 1))
    have hi := intercalate hc (.cons hp ht)
    have h := (((hl.append (newline (level + 1))).append hi).append (newline level)).append hr
    simpa [Json.block] using h

end Scans

mutual

/-- **The indented form of a value is scanned as its tokens.** -/
theorem scans_prettyChars : ∀ (v : Value) (level : Nat), v.Textual →
    Scans (prettyChars level v) (tokens v)
  | .string s, _, _ => .quote s
  | .object fields, level, h => .block rfl rfl (scans_prettyFields fields (level + 1) h)
  | .null, _, h => h.elim
  | .bool _, _, h => h.elim
  | .number _, _, h => h.elim
  | .array _, _, h => h.elim
termination_by structural v => v

theorem scans_prettyFields : ∀ (fields : List (String × Value)) (level : Nat),
    Value.AllTextual fields →
    List.Forall₂ Scans (prettyFields level fields) (fieldTokens fields)
  | [], _, _ => .nil
  | (name, v) :: rest, level, h => by
    have hc : Scans [':', ' '] [.colon] := (Scans.structural (c := ':') rfl).append (.space rfl)
    have hv := scans_prettyChars v level h.1
    exact .cons (((Scans.quote name).append hc).append hv) (scans_prettyFields rest level h.2)
termination_by structural fields => fields

end

end Json

end Reshape
