import Reshape.Json.Printer
import Reshape.Json.Token

/-!
# Quoted strings are read back

The printer escapes some characters of a string; the scanner resolves the escapes. Taken together
they are the identity, whatever the characters.

## Main results

* `foldlM_step_escapeChar`: an escaped character is scanned as that character
* `foldlM_step_quote`: a string between quotes is scanned as that string
-/

namespace Reshape.Json

theorem hexDigit?_digitChar : ∀ n < 16, Text.hexDigit? (Nat.digitChar n) = some n := by decide

/-- An escaped character is scanned as that character. -/
theorem foldlM_step_escapeChar (found : List Token) (taken : List Char) (c : Char) :
    (escapeChar c).foldlM Scanner.step ⟨.quoted taken none, found⟩ =
      some ⟨.quoted (c :: taken) none, found⟩ := by
  unfold escapeChar
  split
  case h_8 =>
    split
    · rename_i h
      have hc : c.toNat / 16 < 16 := by omega
      have hd : c.toNat % 16 < 16 := by omega
      have h0 : Text.hexDigit? '0' = some 0 := by decide
      have he : (c.toNat / 16) * 16 + c.toNat % 16 = c.toNat := by omega
      simp [Scanner.step, readQuoted, readEscaped, readCoded, takeUnit, h0,
        hexDigit?_digitChar _ hc, hexDigit?_digitChar _ hd, he, Char.ofNat_toNat]
      rw [if_neg (by omega), if_neg (by omega)]
    · simp_all [Scanner.step, readQuoted]
  all_goals rfl

theorem foldlM_step_escapeChars (found : List Token) (taken text : List Char) :
    (text.flatMap escapeChar).foldlM Scanner.step ⟨.quoted taken none, found⟩ =
      some ⟨.quoted (text.reverse ++ taken) none, found⟩ := by
  induction text generalizing taken with
  | nil => rfl
  | cons c rest ih =>
    rw [List.flatMap_cons, List.foldlM_append, foldlM_step_escapeChar]
    simpa using ih (c :: taken)

/-- A string between quotes is scanned as that string. -/
theorem foldlM_step_quote (found : List Token) (s : String) :
    (quote s).foldlM Scanner.step ⟨.between, found⟩ = some ⟨.between, .string s :: found⟩ := by
  have h : Scanner.step ⟨.between, found⟩ '"' = some ⟨.quoted [] none, found⟩ := rfl
  simp only [quote, List.cons_append, List.foldlM_cons, h, Option.bind_eq_bind, Option.bind_some,
    List.foldlM_append, foldlM_step_escapeChars]
  simp [Scanner.step, readQuoted]

end Reshape.Json
