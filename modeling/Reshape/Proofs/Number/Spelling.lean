import Reshape.Builtins
import Reshape.Proofs.Number.Rounding
import Reshape.Proofs.Walk
import Mathlib.Data.List.TakeWhile

/-!
# Integers spelt out and read back

The text of an integer is a minus sign, if it is negative, and its decimal digits. Read back, with
or without blanks around it, it is the integer if that fits 64 bits with a sign; the text of an
integer beyond those is read as the nearest binary64 number. So a field that is written as a string
and read in reverse keeps the integers with a sign, and no others.

## Main definitions

* `Text.Blank`: strings of blanks
* `Numeral.ofInt`: the numeral of an integer
* `Number.ReadAs`: what the text of an integer is read as

## Main results

* `Text.trim_surround`: blanks around a text are trimmed
* `Numeral.read?_integerText`: the text of an integer has the shape of its numeral
* `Builtin.parseNumber_asString`: integers as strings and back
-/

namespace Reshape

/-! ### Blanks around a text -/

namespace Text

/-- Whether all characters of a string are blank. -/
def Blank (s : String) : Prop :=
  ∀ c ∈ s.toList, isBlank c = true

instance (s : String) : Decidable (Blank s) :=
  List.decidableBAll _ _

theorem dropWhile_isBlank {text : List Char} (h : ∀ c ∈ text, isBlank c = false) :
    text.dropWhile isBlank = text := by
  cases text with
  | nil => rfl
  | cons c rest => exact List.dropWhile_cons_of_neg (by simp [h c List.mem_cons_self])

/-- Blanks around a text without blanks are trimmed. -/
theorem trim_surround {before text after : List Char} (hb : ∀ c ∈ before, isBlank c = true)
    (ht : ∀ c ∈ text, isBlank c = false) (ha : ∀ c ∈ after, isBlank c = true) :
    trim (before ++ text ++ after) = text := by
  have hstart :
      (before ++ text ++ after).dropWhile isBlank = (text ++ after).dropWhile isBlank := by
    rw [List.append_assoc, List.dropWhile_append_of_pos hb]
  rw [trim, hstart, trimEnd]
  cases text with
  | nil => simp [List.dropWhile_eq_nil_iff.mpr ha]
  | cons c rest =>
    have hc : isBlank c = false := ht c List.mem_cons_self
    rw [List.cons_append, List.dropWhile_cons_of_neg (by simp [hc]), ← List.cons_append,
      List.reverse_append, List.dropWhile_append_of_pos fun d hd => ha d (List.mem_reverse.mp hd),
      dropWhile_isBlank fun d hd => ht d (List.mem_reverse.mp hd), List.reverse_reverse]

theorem isBlank_of_isDigit {c : Char} (h : c.isDigit = true) : isBlank c = false := by
  have hc : 48 ≤ c.toNat ∧ c.toNat ≤ 57 := by
    simpa [Char.isDigit, UInt32.le_iff_toNat_le] using h
  simp only [isBlank, Bool.or_eq_false_iff, Bool.and_eq_false_iff, decide_eq_false_iff_not,
    beq_eq_false_iff_ne, ne_eq]
  omega

end Text

/-! ### The numeral of an integer -/

namespace Decimal

theorem isDigit_of_mem_digitsOf {n : Nat} {c : Char} (h : c ∈ digitsOf n) : c.isDigit = true :=
  Nat.isDigit_of_mem_toDigits (by decide) (by decide) h

theorem ofDigits_digitsOf (n : Nat) : ofDigits (digitsOf n) = n :=
  Nat.ofDigitChars_toDigits (by decide) (by decide)

end Decimal

namespace Number

theorem not_isBlank_of_mem_integerText {n : Int} {c : Char} (h : c ∈ integerText n) :
    Text.isBlank c = false := by
  have hd (h : c ∈ Decimal.digitsOf n.natAbs) : Text.isBlank c = false :=
    Text.isBlank_of_isDigit (Decimal.isDigit_of_mem_digitsOf h)
  unfold integerText at h
  split at h
  · rcases List.mem_cons.mp h with rfl | h
    · rfl
    · exact hd h
  · exact hd h

/-- The text of an integer in records is the decimal one. -/
theorem ofList_integerText (n : Int) : String.ofList (integerText n) = toString n := by
  rw [Int.toString_eq_repr]
  cases n with
  | ofNat n => exact Nat.repr_eq_ofList_toDigits.symm
  | negSucc n =>
    rw [integerText, if_pos (Int.negSucc_lt_zero n), ← List.singleton_append, String.ofList_append]
    rfl

end Number

namespace Numeral

/-- The numeral of an integer: a sign if it is negative, and digits. -/
def ofInt (n : Int) : Numeral where
  sign := if n < 0 then some .minus else none
  whole := Decimal.digitsOf n.natAbs
  fraction := none
  power := none

theorem take_digits {text : List Char} (h : ∀ c ∈ text, c.isDigit = true) :
    Sign.take text = (none, text) := by
  unfold Sign.take
  split
  · exact absurd (h '+' List.mem_cons_self) (by decide)
  · exact absurd (h '-' List.mem_cons_self) (by decide)
  · rfl

/-- **The text of an integer has the shape of its numeral.** -/
theorem read?_integerText (n : Int) : read? (Number.integerText n) = some (ofInt n) := by
  have hdigit : ∀ c ∈ Decimal.digitsOf n.natAbs, c.isDigit = true :=
    fun c hc => Decimal.isDigit_of_mem_digitsOf hc
  have ht : Sign.take (Number.integerText n) =
      (if n < 0 then some .minus else none, Decimal.digitsOf n.natAbs) := by
    unfold Number.integerText
    split
    · rfl
    · exact take_digits hdigit
  rw [read?, ht]
  simp only [List.takeWhile_eq_self_iff.mpr hdigit, List.dropWhile_eq_nil_iff.mpr hdigit]
  rfl

theorem hasDigit_ofInt (n : Int) : (ofInt n).hasDigit = true := by
  have hne : Decimal.digitsOf n.natAbs ≠ [] := Nat.toDigits_ne_nil
  simp [hasDigit, ofInt, hne]

theorem integer_ofInt (n : Int) : (ofInt n).integer = n := by
  rw [integer, ofInt, Decimal.ofDigits_digitsOf]
  by_cases h : n < 0
  · simp only [if_pos h, Sign.applyTo, if_true]
    omega
  · simp only [if_neg h, Sign.applyTo, reduceCtorEq, if_false]
    omega

theorem decimal_ofInt (n : Int) : (ofInt n).decimal = ⟨n < 0, n.natAbs, 0⟩ := by
  have hd : Decimal.ofDigits ((ofInt n).whole ++ (ofInt n).fraction.getD []) = n.natAbs := by
    rw [ofInt, Option.getD_none, List.append_nil, Decimal.ofDigits_digitsOf]
  rw [decimal, hd]
  by_cases h : n < 0 <;> simp [ofInt, tens, h]

end Numeral

/-! ### Reading back -/

/-- An integer that fits 64 bits is small enough for its decimal quantity to be rounded as it is. -/
theorem Decimal.nearest?_int {n : Int} (h : Number.InRange n) :
    Decimal.nearest? ⟨n < 0, n.natAbs, 0⟩ = Double.ofInt? n := by
  have hlen : (digitsOf n.natAbs).length ≤ 20 := by
    refine (Nat.length_toDigits_le_iff (by decide) (by decide)).mpr ?_
    have hn := h.1
    have hn' := h.2
    omega
  unfold nearest? Double.ofInt?
  split
  case isTrue h0 =>
    have hn : n = 0 := Int.natAbs_eq_zero.mp h0
    subst hn
    rfl
  case isFalse =>
    dsimp only
    rw [if_neg (by omega), if_neg (by omega)]
    simp [magnitude]

/-- **What the text of an integer is read as**: the integer, if it fits 64 bits with a sign, and the
nearest binary64 number otherwise. -/
inductive Number.ReadAs (n : Int) : Number → Prop
  | exact (signed : Number.IsSigned n) : ReadAs n (.int n signed.inRange)
  | rounded (unsigned : ¬ Number.IsSigned n) {x : Double} (nearest : x.Nearest n) :
      ReadAs n (.double x)

theorem Number.ReadAs.eq_int_iff {n : Int} {number : Number} (hr : Number.ReadAs n number)
    (h : Number.InRange n) : number = .int n h ↔ Number.IsSigned n := by
  cases hr with
  | exact hs => exact ⟨fun _ => hs, fun _ => rfl⟩
  | rounded hs hx => exact ⟨nofun, fun h => absurd h hs⟩

namespace Builtin

variable {n : Int}

theorem numberOfText?_of_read? {text : List Char} {numeral : Numeral}
    (h : Numeral.read? text = some numeral) (hd : numeral.hasDigit = true) :
    numberOfText? text =
      if hs : numeral.isWhole ∧ Number.IsSigned numeral.integer then
        some (.ofSigned numeral.integer hs.2)
      else numeral.decimal.nearest?.map .double := by
  rw [numberOfText?, h]
  exact if_neg (not_not.mpr hd)

/-- The text of an integer of records spells what it is read as. -/
theorem exists_numberOfText? (h : Number.InRange n) :
    ∃ number, numberOfText? (Number.integerText n) = some number ∧ Number.ReadAs n number := by
  rw [numberOfText?_of_read? (Numeral.read?_integerText n) (Numeral.hasDigit_ofInt n)]
  simp only [Numeral.integer_ofInt, Numeral.decimal_ofInt, Decimal.nearest?_int h]
  by_cases hs : Number.IsSigned n
  · exact ⟨_, dif_pos ⟨rfl, hs⟩, .exact hs⟩
  · obtain ⟨x, hx⟩ := Double.exists_ofInt?_of_inRange h
    refine ⟨.double x, ?_, .rounded hs (Double.ofInt?_nearest hx)⟩
    rw [dif_neg fun hw => hs hw.2, hx]
    rfl

theorem asString_int (h : Number.InRange n) :
    asString (.number (.int n h)) = pure (.string (toString n)) := by
  rw [← Number.ofList_integerText]
  rfl

/-- The text of an integer is read as the number that it spells, blanks around it aside. -/
theorem parseNumber_toString {before after : String} {number : Number} (hb : Text.Blank before)
    (ha : Text.Blank after) (hn : numberOfText? (Number.integerText n) = some number) :
    parseNumber (.string (before ++ toString n ++ after)) = pure (.number number) := by
  have ht : Text.trim (before ++ toString n ++ after).toList = Number.integerText n := by
    rw [String.toList_append, String.toList_append, ← Number.ofList_integerText,
      String.toList_ofList]
    exact Text.trim_surround hb (fun c hc => Number.not_isBlank_of_mem_integerText hc) ha
  simp only [parseNumber, ht, hn]

end Builtin

/-! ### A field written as a string -/

namespace Mapper

/-- A spec that writes one field as a string, and reads the string in reverse. -/
def spelling (field target : String) : Spec :=
  [(field, .convert .whole target Builtin.asString Builtin.parseNumber)]

theorem apply_spelling (direction : Direction) (field target : String) {record : Fields Value}
    {v : Value} (hv : Fields.get? record (direction.pick field target) = some v) :
    (Compiled.ofMapping (spelling field target)).apply direction (.object record) =
      Run.onElements (direction.pick Builtin.asString Builtin.parseNumber) v >>= fun w =>
        pure (.object [(direction.reversed.pick field target, w)]) := by
  have hd : ((spelling field target).map (Mapping.name direction)).Nodup :=
    List.nodup_singleton _
  rw [Compiled.apply_eq_walk hd]
  change Value.object <$> Mapping.walk direction _ [_] record [] = _
  rw [Mapping.walk, Mapping.name, Rule.target, hv]
  simp only [map_eq_pure_bind]
  rw [Run.bind_assoc]
  rfl

end Mapper

namespace Builtin

variable {n : Int}

/-- **Integers as strings and back.** Each integer of records is written in decimal, and its text is
read, with any blanks around it, as the integer itself just if that fits 64 bits with a sign, and as
the nearest binary64 number if not. The same goes for a field that is written as a string and read
in reverse. -/
theorem parseNumber_asString (h : Number.InRange n) :
    asString (.number (.int n h)) = pure (.string (toString n)) ∧
      ∃ number, Number.ReadAs n number ∧ (number = .int n h ↔ Number.IsSigned n) ∧
        (∀ before after, Text.Blank before → Text.Blank after →
          parseNumber (.string (before ++ toString n ++ after)) = pure (.number number)) ∧
        ∀ field target record, Fields.get? record field = some (.number (.int n h)) →
          (Mapper.ofSpec (Mapper.spelling field target)).value.map (.object record) =
              pure (.object [(target, .string (toString n))]) ∧
            (Mapper.ofSpec (Mapper.spelling field target)).value.mapReverse
                (.object [(target, .string (toString n))]) =
              pure (.object [(field, .number number)]) := by
  obtain ⟨number, hn, hr⟩ := exists_numberOfText? h
  refine ⟨asString_int h, number, hr, hr.eq_int_iff h, fun before after hb ha =>
    parseNumber_toString hb ha hn, fun field target record hv => ⟨?_, ?_⟩⟩
  · have he : Run.onElements (Direction.forward.pick asString parseNumber) (.number (.int n h)) =
        pure (.string (toString n)) := asString_int h
    refine (Mapper.apply_spelling .forward field target hv).trans ?_
    rw [he, Run.pure_bind]
    rfl
  · have hv' : Fields.get? [(target, Value.string (toString n))]
        (Direction.reverse.pick field target) = some (.string (toString n)) := if_pos rfl
    have hp := @parseNumber_toString n "" "" number nofun nofun hn
    rw [String.empty_append, String.append_empty] at hp
    have he : Run.onElements (Direction.reverse.pick asString parseNumber)
        (.string (toString n)) = pure (.number number) := hp
    refine (Mapper.apply_spelling .reverse field target hv').trans ?_
    rw [he, Run.pure_bind]
    rfl

/-- The least integer of records comes back, also from a text with blanks around it, and the text of
the least integer without a sign is read as another number. -/
theorem parseNumber_extremes :
    Number.InRange (-0x8000000000000000) ∧ Number.InRange 0x8000000000000000 ∧
      parseNumber (.string "\t-9223372036854775808 ") =
        pure (.number (.int (-0x8000000000000000) (by decide))) ∧
      ∃ number, parseNumber (.string "9223372036854775808") = pure (.number number) ∧
        number ≠ .int 0x8000000000000000 (by decide) := by
  refine ⟨by decide, by decide, ?_, ?_⟩
  · obtain ⟨-, number, -, hiff, hread, -⟩ :=
      parseNumber_asString (n := -0x8000000000000000) (by decide)
    have hb := hread "\t" " " (by decide) (by decide)
    rw [hiff.mpr (by decide)] at hb
    exact hb
  · obtain ⟨-, number, -, hiff, hread, -⟩ :=
      parseNumber_asString (n := 0x8000000000000000) (by decide)
    refine ⟨number, ?_, fun h => absurd (hiff.mp h) (by decide)⟩
    exact hread "" "" nofun nofun

/-- The text of an integer without a sign is not read as the integer. -/
theorem not_parseNumber_toString : ¬ ∀ (n : Int) (h : Number.InRange n),
    parseNumber (.string (toString n)) = pure (.number (.int n h)) := by
  intro h
  obtain ⟨number, hn, hr⟩ := exists_numberOfText? (n := 0x8000000000000000) (by decide)
  have hp := @parseNumber_toString 0x8000000000000000 "" "" number nofun nofun hn
  rw [String.empty_append, String.append_empty, h _ (by decide)] at hp
  cases hr with
  | exact hs => exact absurd hs (by decide)
  | rounded _ hx => exact nomatch hp

end Builtin

end Reshape
