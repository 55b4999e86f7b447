import Reshape.Proofs.Number.Range
import Reshape.Proofs.Number.Spelling

/-!
# Number literals

Which texts are numbers, told by a grammar: an integer literal is an optional sign and digits, a
literal of a real number may have a point among its digits and a power of ten behind them. A string
is read as an integer just if it is the literal of one that fits 64 bits with a sign, blanks around
it aside; otherwise as the nearest binary64 number just if it is a literal and that number is finite;
and refused in every other case.

## Main definitions

* `Digits`: digits and the number that they denote
* `IntegerLiteral`, `RealLiteral`: the literals and what they denote
* `SpecialWord`: the words for infinities and for what is no number

## Main results

* `Numeral.integerLiteral_iff`, `Numeral.realLiteral_iff`: the literals are the numerals that are
  read
* `Builtin.parseNumber_string`: what a string is read as
-/

namespace Reshape

/-! ### The grammar -/

/-- The text of an optional sign. -/
def Sign.text : Option Sign → List Char
  | none => []
  | some plus => ['+']
  | some minus => ['-']

/-- **Digits and the number that they denote.** One more digit at the end counts the ones, and what
stands before it the tens. -/
inductive Digits : List Char → Nat → Prop
  | nil : Digits [] 0
  | concat {digits : List Char} {n : Nat} {c : Char} (h : Digits digits n)
      (hc : c.isDigit = true) : Digits (digits ++ [c]) (10 * n + (c.toNat - '0'.toNat))

/-- **A literal of an integer**: an optional sign and at least one digit. A minus sign negates what
the digits denote. -/
inductive IntegerLiteral : List Char → Int → Prop
  | unsigned {digits : List Char} {n : Nat} (h : Digits digits n) (ne : digits ≠ []) :
      IntegerLiteral digits n
  | plus {digits : List Char} {n : Nat} (h : Digits digits n) (ne : digits ≠ []) :
      IntegerLiteral ('+' :: digits) n
  | minus {digits : List Char} {n : Nat} (h : Digits digits n) (ne : digits ≠ []) :
      IntegerLiteral ('-' :: digits) (-n)

/-- Digits among which there is at most one point, at least one digit, and the number of digits
behind the point. -/
inductive PointedDigits : List Char → List Char → Nat → Prop
  | whole {digits : List Char} (ne : digits ≠ []) (all : ∀ c ∈ digits, c.isDigit = true) :
      PointedDigits digits digits 0
  | point {whole fraction : List Char} (ne : whole ++ fraction ≠ [])
      (all : ∀ c ∈ whole ++ fraction, c.isDigit = true) :
      PointedDigits (whole ++ '.' :: fraction) (whole ++ fraction) fraction.length

/-- An optional power of ten: a mark and the literal of an integer. -/
inductive PowerLiteral : List Char → Int → Prop
  | absent : PowerLiteral [] 0
  | present {mark : Char} (hm : mark = 'e' ∨ mark = 'E') {text : List Char} {n : Int}
      (h : IntegerLiteral text n) : PowerLiteral (mark :: text) n

/-- **A literal of a real number** and the decimal quantity that it denotes: an optional sign,
digits with at most one point among them, and an optional power of ten. -/
inductive RealLiteral : List Char → Decimal → Prop
  | mk (sign : Option Sign) {body digits power : List Char} {n places : Nat} {tens : Int}
      (hb : PointedDigits body digits places) (hd : Digits digits n)
      (hp : PowerLiteral power tens) :
      RealLiteral (Sign.text sign ++ body ++ power) ⟨sign = some .minus, n, tens - places⟩

/-! ### Reading signs, digits and powers -/

theorem Digits.isDigit {digits : List Char} {n : Nat} (h : Digits digits n) :
    ∀ c ∈ digits, c.isDigit = true := by
  induction h with
  | nil => exact fun c hc => absurd hc List.not_mem_nil
  | concat _ hc ih => exact List.forall_mem_append.mpr ⟨ih, List.forall_mem_singleton.2 hc⟩

/-- The digits of a run are read as the number that they denote. -/
theorem Digits.ofDigits_eq {digits : List Char} {n : Nat} (h : Digits digits n) :
    Decimal.ofDigits digits = n := by
  induction h with
  | nil => rfl
  | concat _ _ ih =>
    rw [Decimal.ofDigits] at ih ⊢
    rw [Nat.ofDigitChars_append, ih, Nat.ofDigitChars_cons, Nat.ofDigitChars_nil]

theorem digits_ofDigits {digits : List Char} (h : ∀ c ∈ digits, c.isDigit = true) :
    Digits digits (Decimal.ofDigits digits) := by
  induction digits using List.reverseRecOn with
  | nil => exact .nil
  | append_singleton digits c ih =>
    obtain ⟨hd, hc⟩ := List.forall_mem_append.mp h
    have hn := (ih hd).concat (hc c (List.mem_singleton_self c))
    rwa [← hn.ofDigits_eq] at hn

theorem digits_of_all {digits : List Char} (h : digits.all Char.isDigit = true) :
    Digits digits (Decimal.ofDigits digits) :=
  digits_ofDigits (List.all_eq_true.mp h)

theorem Sign.text_append_of_take {text rest : List Char} {sign : Option Sign}
    (h : Sign.take text = (sign, rest)) : text = Sign.text sign ++ rest := by
  unfold Sign.take at h
  split at h <;> obtain ⟨rfl, rfl⟩ := Prod.mk.inj h <;> rfl

/-- A sign is taken off a text that does not itself start with one. -/
theorem Sign.take_text (sign : Option Sign) {c : Char} (rest : List Char)
    (h : c ≠ '+' ∧ c ≠ '-') : Sign.take (Sign.text sign ++ c :: rest) = (sign, c :: rest) := by
  rcases sign with _ | _ | _
  · unfold Sign.take
    split
    · simp_all [Sign.text]
    · simp_all [Sign.text]
    · rfl
  · rfl
  · rfl

theorem ne_sign_of_isDigit {c : Char} (h : c.isDigit = true ∨ c = '.') : c ≠ '+' ∧ c ≠ '-' := by
  constructor <;> rintro rfl <;> exact absurd h (by decide)

/-- Digits in front of a text that does not start with one. -/
theorem span_digits {digits rest : List Char} (hd : ∀ c ∈ digits, c.isDigit = true)
    (hr : ∀ c ∈ rest.head?, c.isDigit = false) :
    (digits ++ rest).takeWhile Char.isDigit = digits ∧
      (digits ++ rest).dropWhile Char.isDigit = rest := by
  rw [List.takeWhile_append_of_pos hd, List.dropWhile_append_of_pos hd]
  cases rest with
  | nil => simp
  | cons c rest => simp [hr c rfl]

namespace Numeral

/-- An integer literal is what remains of digits behind its sign. -/
theorem integerLiteral_iff_take {text : List Char} {n : Int} :
    IntegerLiteral text n ↔ ∃ sign digits, Sign.take text = (sign, digits) ∧ digits ≠ [] ∧
      (∀ c ∈ digits, c.isDigit = true) ∧ Sign.applyTo sign (Decimal.ofDigits digits) = n := by
  constructor
  · intro h
    cases h with
    | unsigned h ne =>
      obtain ⟨c, rest, rfl⟩ := List.exists_cons_of_ne_nil ne
      have hc := ne_sign_of_isDigit (.inl (h.isDigit c List.mem_cons_self))
      exact ⟨none, c :: rest, Sign.take_text none rest hc, ne, h.isDigit, by rw [h.ofDigits_eq]; rfl⟩
    | plus h ne => exact ⟨some .plus, _, rfl, ne, h.isDigit, by rw [h.ofDigits_eq]; rfl⟩
    | minus h ne => exact ⟨some .minus, _, rfl, ne, h.isDigit, by rw [h.ofDigits_eq]; rfl⟩
  · rintro ⟨sign, digits, ht, ne, all, rfl⟩
    rw [Sign.text_append_of_take ht]
    have hd := digits_ofDigits all
    rcases sign with _ | _ | _
    · exact .unsigned hd ne
    · exact .plus hd ne
    · exact .minus hd ne

theorem readPower?_cons {mark : Char} {text digits : List Char} {sign : Option Sign}
    (h : Sign.take text = (sign, digits)) (power : Option (Option Sign × List Char)) :
    readPower? (mark :: text) = some power ↔ (mark = 'e' ∨ mark = 'E') ∧ digits ≠ [] ∧
      (∀ c ∈ digits, c.isDigit = true) ∧ power = some (sign, digits) := by
  rw [readPower?, h]
  simp only [List.all_eq_true, Option.ite_none_right_eq_some, Option.some.injEq, and_assoc,
    @eq_comm _ power]

/-- The powers of ten at the end of a numeral are the literals of powers. -/
theorem powerLiteral_iff {text : List Char} {tens : Int} :
    PowerLiteral text tens ↔ ∃ n : Numeral, readPower? text = some n.power ∧ n.tens = tens := by
  constructor
  · rintro (_ | ⟨hm, h⟩)
    · exact ⟨⟨none, [], none, none⟩, rfl, rfl⟩
    · obtain ⟨sign, digits, ht, ne, all, rfl⟩ := integerLiteral_iff_take.mp h
      exact ⟨⟨none, [], none, some (sign, digits)⟩,
        (readPower?_cons ht _).mpr ⟨hm, ne, all, rfl⟩, rfl⟩
  · rintro ⟨n, hr, rfl⟩
    cases text with
    | nil =>
      have hp : n.power = none := (Option.some.inj hr).symm
      rw [tens, hp]
      exact .absent
    | cons mark text =>
      obtain ⟨hm, ne, all, hp⟩ := (readPower?_cons rfl _).mp hr
      rw [tens, hp]
      exact .present hm (integerLiteral_iff_take.mpr ⟨_, _, rfl, ne, all, rfl⟩)

/-- Pointed digits start with a digit or the point. -/
theorem exists_cons_of_pointedDigits {body digits : List Char} {places : Nat}
    (h : PointedDigits body digits places) :
    ∃ c rest, body = c :: rest ∧ (c.isDigit = true ∨ c = '.') := by
  cases h with
  | whole ne all =>
    obtain ⟨c, rest, rfl⟩ := List.exists_cons_of_ne_nil ne
    exact ⟨c, rest, rfl, .inl (all c List.mem_cons_self)⟩
  | @point whole fraction ne all =>
    cases whole with
    | nil => exact ⟨'.', fraction, rfl, .inr rfl⟩
    | cons c rest => exact ⟨c, rest ++ '.' :: fraction, rfl, .inl (all c List.mem_cons_self)⟩

theorem isDigit_of_pointedDigits {body digits : List Char} {places : Nat}
    (h : PointedDigits body digits places) : ∀ c ∈ digits, c.isDigit = true := by
  cases h with
  | whole _ all => exact all
  | point _ all => exact all

theorem ne_nil_of_pointedDigits {body digits : List Char} {places : Nat}
    (h : PointedDigits body digits places) : digits ≠ [] := by
  cases h with
  | whole ne _ => exact ne
  | point ne _ => exact ne

/-- A power of ten starts with its mark, which is neither a digit nor the point. -/
theorem head?_of_readPower? {text : List Char} {power : Option (Option Sign × List Char)}
    (h : readPower? text = some power) : ∀ c ∈ text.head?, c.isDigit = false ∧ c ≠ '.' := by
  intro c hc
  obtain ⟨rest, rfl⟩ := List.head?_eq_some_iff.mp hc
  obtain ⟨rfl | rfl, -⟩ := (readPower?_cons rfl power).mp h
  · decide
  · decide

/-- How pointed digits in front of a power are taken apart. -/
theorem takeFraction_pointedDigits {body digits power : List Char} {places : Nat}
    (h : PointedDigits body digits places)
    (hp : ∀ c ∈ power.head?, c.isDigit = false ∧ c ≠ '.') :
    ∃ fraction, takeFraction ((body ++ power).dropWhile Char.isDigit) = (fraction, power) ∧
      (body ++ power).takeWhile Char.isDigit ++ fraction.getD [] = digits ∧
      (fraction.getD []).length = places := by
  cases h with
  | whole ne all =>
    obtain ⟨ht, hd⟩ := span_digits all fun c hc => (hp c hc).1
    refine ⟨none, ?_, ?_, rfl⟩
    · rw [hd]
      unfold takeFraction
      split
      · exact absurd rfl (hp '.' rfl).2
      · rfl
    · rw [ht]
      exact List.append_nil _
  | @point whole fraction ne all =>
    have hw : ∀ c ∈ whole, c.isDigit = true := fun c hc => all c (List.mem_append_left _ hc)
    have hf : ∀ c ∈ fraction, c.isDigit = true := fun c hc => all c (List.mem_append_right _ hc)
    obtain ⟨ht, hd⟩ := @span_digits whole ('.' :: (fraction ++ power)) hw (by simp)
    obtain ⟨ht', hd'⟩ := span_digits hf fun c hc => (hp c hc).1
    refine ⟨some fraction, ?_, ?_, rfl⟩
    · rw [List.append_assoc, List.cons_append, hd, takeFraction, ht', hd']
    · rw [List.append_assoc, List.cons_append, ht]
      rfl

/-- What is taken apart so was pointed digits, if there was a digit among them. -/
theorem exists_pointedDigits {text rest : List Char} {fraction : Option (List Char)}
    (h : takeFraction (text.dropWhile Char.isDigit) = (fraction, rest))
    (ne : text.takeWhile Char.isDigit ++ fraction.getD [] ≠ []) :
    ∃ body, text = body ++ rest ∧
      PointedDigits body (text.takeWhile Char.isDigit ++ fraction.getD [])
        (fraction.getD []).length := by
  have hall : ∀ c ∈ text.takeWhile Char.isDigit, c.isDigit = true :=
    fun c hc => List.mem_takeWhile_imp hc
  have htext := (List.takeWhile_append_dropWhile (p := Char.isDigit) (l := text)).symm
  generalize text.takeWhile Char.isDigit = whole at *
  unfold takeFraction at h
  split at h
  case h_1 hd =>
    obtain ⟨rfl, rfl⟩ := Prod.mk.inj h
    rw [hd] at htext
    refine ⟨_, ?_, .point ne ?_⟩
    · rw [List.append_assoc, List.cons_append, Option.getD_some, List.takeWhile_append_dropWhile]
      exact htext
    · intro c hc
      rcases List.mem_append.mp hc with hc | hc
      · exact hall c hc
      · exact List.mem_takeWhile_imp hc
  case h_2 =>
    obtain ⟨rfl, rfl⟩ := Prod.mk.inj h
    rw [Option.getD_none, List.append_nil] at ne ⊢
    exact ⟨whole, htext, .whole ne hall⟩

theorem read?_eq_some_iff {text : List Char} {n : Numeral} :
    read? text = some n ↔ ∃ unsigned rest, Sign.take text = (n.sign, unsigned) ∧
      unsigned.takeWhile Char.isDigit = n.whole ∧
      takeFraction (unsigned.dropWhile Char.isDigit) = (n.fraction, rest) ∧
      readPower? rest = some n.power := by
  obtain ⟨sign, whole, fraction, power⟩ := n
  rw [read?]
  generalize Sign.take text = taken
  obtain ⟨sign', unsigned⟩ := taken
  generalize htf : takeFraction (unsigned.dropWhile Char.isDigit) = fractionTaken
  obtain ⟨fraction', rest⟩ := fractionTaken
  simp only [htf, Option.map_eq_some_iff, Numeral.mk.injEq, Prod.mk.injEq]
  constructor
  · rintro ⟨power', hp, rfl, rfl, rfl, rfl⟩
    exact ⟨unsigned, rest, ⟨rfl, rfl⟩, rfl, htf, hp⟩
  · rintro ⟨_, rest', ⟨rfl, rfl⟩, rfl, htf', hp⟩
    obtain ⟨rfl, rfl⟩ := Prod.mk.inj (htf.symm.trans htf')
    exact ⟨power, hp, rfl, rfl, rfl, rfl⟩

theorem hasDigit_iff {n : Numeral} : n.hasDigit = true ↔ n.whole ++ n.fraction.getD [] ≠ [] := by
  rw [hasDigit, Bool.not_eq_true', List.isEmpty_eq_false_iff]

theorem isWhole_iff {n : Numeral} : n.isWhole = true ↔ n.fraction = none ∧ n.power = none := by
  rw [isWhole, Bool.and_eq_true, Option.isNone_iff_eq_none, Option.isNone_iff_eq_none]

/-- **Literals of real numbers** are the numerals with a digit, and denote what these do. -/
theorem realLiteral_iff {text : List Char} {d : Decimal} :
    RealLiteral text d ↔ ∃ n, read? text = some n ∧ n.hasDigit = true ∧ n.decimal = d := by
  constructor
  · rintro ⟨sign, hb, hv, hp⟩
    obtain rfl := hv.ofDigits_eq
    obtain ⟨n, hr, rfl⟩ := powerLiteral_iff.mp hp
    obtain ⟨c, rest, rfl, hc⟩ := exists_cons_of_pointedDigits hb
    have ne := ne_nil_of_pointedDigits hb
    obtain ⟨fraction, htf, rfl, rfl⟩ := takeFraction_pointedDigits hb (head?_of_readPower? hr)
    refine ⟨⟨sign, _, fraction, n.power⟩, ?_, hasDigit_iff.mpr ne, rfl⟩
    rw [List.append_assoc, List.cons_append]
    exact read?_eq_some_iff.mpr
      ⟨_, _, Sign.take_text sign _ (ne_sign_of_isDigit hc), rfl, htf, hr⟩
  · rintro ⟨n, hr, hd, rfl⟩
    obtain ⟨unsigned, rest, ht, hw, htf, hp⟩ := read?_eq_some_iff.mp hr
    obtain ⟨body, rfl, hb⟩ := exists_pointedDigits htf (by rw [hw]; exact hasDigit_iff.mp hd)
    rw [hw] at hb
    rw [Sign.text_append_of_take ht, ← List.append_assoc]
    exact .mk n.sign hb (digits_ofDigits (isDigit_of_pointedDigits hb)) (powerLiteral_iff.mpr ⟨n, hp, rfl⟩)

/-- **Literals of integers** are the numerals with a digit and without point and power. -/
theorem integerLiteral_iff {text : List Char} {k : Int} :
    IntegerLiteral text k ↔
      ∃ n, read? text = some n ∧ n.hasDigit = true ∧ n.isWhole = true ∧ n.integer = k := by
  rw [integerLiteral_iff_take]
  constructor
  · rintro ⟨sign, digits, ht, ne, all, rfl⟩
    refine ⟨⟨sign, digits, none, none⟩, read?_eq_some_iff.mpr ⟨digits, [], ht, ?_, ?_, rfl⟩,
      hasDigit_iff.mpr (by simpa using ne), rfl, rfl⟩
    · exact List.takeWhile_eq_self_iff.mpr all
    · rw [List.dropWhile_eq_nil_iff.mpr all]
      rfl
  · rintro ⟨n, hr, hd, hwhole, rfl⟩
    obtain ⟨unsigned, rest, ht, hw, htf, hp⟩ := read?_eq_some_iff.mp hr
    obtain ⟨hf, hpower⟩ := isWhole_iff.mp hwhole
    have hrest : rest = [] := by
      cases rest with
      | nil => rfl
      | cons mark rest =>
        obtain ⟨-, -, -, hsome⟩ := (readPower?_cons rfl _).mp hp
        exact nomatch hpower.symm.trans hsome
    -- Without point and power nothing follows the digits.
    have hall : ∀ c ∈ unsigned, c.isDigit = true := by
      rw [hf, hrest] at htf
      unfold takeFraction at htf
      split at htf
      · exact nomatch htf
      · exact List.dropWhile_eq_nil_iff.mp (Prod.mk.inj htf).2
    rw [List.takeWhile_eq_self_iff.mpr hall] at hw
    have ne : n.whole ≠ [] := by simpa [hf] using hasDigit_iff.mp hd
    exact ⟨n.sign, unsigned, ht, hw ▸ ne, hall, by rw [hw, integer]⟩

theorem realLiteral_of_integerLiteral {text : List Char} {k : Int} (h : IntegerLiteral text k) :
    ∃ d, RealLiteral text d := by
  obtain ⟨n, hr, hd, -⟩ := integerLiteral_iff.mp h
  exact ⟨n.decimal, realLiteral_iff.mpr ⟨n, hr, hd, rfl⟩⟩

/-- In the literal of an integer there are only digits and signs. -/
theorem not_integerLiteral_of_mem {text : List Char} {c : Char} (hc : c ∈ text)
    (hn : ¬ (c.isDigit = true ∨ c = '+' ∨ c = '-')) (k : Int) : ¬ IntegerLiteral text k := by
  intro h
  have hall : ∀ c ∈ text, c.isDigit = true ∨ c = '+' ∨ c = '-' := by
    cases h with
    | unsigned h _ => exact fun c hc => .inl (h.isDigit c hc)
    | plus h _ =>
      exact List.forall_mem_cons.mpr ⟨.inr (.inl rfl), fun c hc => .inl (h.isDigit c hc)⟩
    | minus h _ =>
      exact List.forall_mem_cons.mpr ⟨.inr (.inr rfl), fun c hc => .inl (h.isDigit c hc)⟩
  exact hn (hall c hc)

/-- A text is the literal of one integer at most, and of one decimal quantity. -/
theorem integerLiteral_unique {text : List Char} {k k' : Int} (h : IntegerLiteral text k)
    (h' : IntegerLiteral text k') : k = k' := by
  obtain ⟨n, hr, -, -, rfl⟩ := integerLiteral_iff.mp h
  obtain ⟨n', hr', -, -, rfl⟩ := integerLiteral_iff.mp h'
  rw [Option.some.inj (hr.symm.trans hr')]

theorem realLiteral_unique {text : List Char} {d d' : Decimal} (h : RealLiteral text d)
    (h' : RealLiteral text d') : d = d' := by
  obtain ⟨n, hr, -, rfl⟩ := realLiteral_iff.mp h
  obtain ⟨n', hr', -, rfl⟩ := realLiteral_iff.mp h'
  rw [Option.some.inj (hr.symm.trans hr')]

/-- Behind its sign a literal starts with a digit or the point. -/
theorem take_of_realLiteral {text : List Char} {d : Decimal} (h : RealLiteral text d) :
    ∃ sign c rest, Sign.take text = (sign, c :: rest) ∧ (c.isDigit = true ∨ c = '.') := by
  obtain ⟨sign, hb, -⟩ := h
  obtain ⟨c, rest, rfl, hc⟩ := exists_cons_of_pointedDigits hb
  rw [List.append_assoc, List.cons_append, Sign.take_text sign _ (ne_sign_of_isDigit hc)]
  exact ⟨sign, c, _, rfl, hc⟩

end Numeral

/-! ### Words that are no literals -/

/-- The words for infinities and for what is no number, in any case of ASCII letters, with or
without a sign. -/
def SpecialWord (text : List Char) : Prop :=
  ∃ sign word, text = Sign.text sign ++ word ∧
    word.map Char.toLower ∈ [['i', 'n', 'f'], ['i', 'n', 'f', 'i', 'n', 'i', 't', 'y'], ['n', 'a', 'n']]

theorem toLower_of_isDigit {c : Char} (h : c.isDigit = true) : c.toLower = c := by
  refine dif_neg ?_
  have hd : 48 ≤ c.toNat ∧ c.toNat ≤ 57 := by
    simpa [Char.isDigit, UInt32.le_iff_toNat_le] using h
  rintro ⟨hl, -⟩
  have hl : 65 ≤ c.toNat := UInt32.le_iff_toNat_le.mp hl
  omega

/-- Such a word is no literal. -/
theorem SpecialWord.not_realLiteral {text : List Char} (h : SpecialWord text) (d : Decimal) :
    ¬ RealLiteral text d := by
  intro hl
  obtain ⟨sign', c', rest', ht, hc'⟩ := Numeral.take_of_realLiteral hl
  obtain ⟨sign, word, rfl, hw⟩ := h
  obtain ⟨c, rest, rfl, hc⟩ : ∃ c rest, word = c :: rest ∧ (c.toLower = 'i' ∨ c.toLower = 'n') := by
    cases word with
    | nil => simp at hw
    | cons c rest =>
      refine ⟨c, rest, rfl, ?_⟩
      simp only [List.map_cons, List.mem_cons, List.cons.injEq, List.not_mem_nil, or_false] at hw
      tauto
  have hne (other : Char) (ho : other.toLower ≠ 'i' ∧ other.toLower ≠ 'n') : c ≠ other := by
    rintro rfl
    tauto
  rw [Sign.take_text sign rest ⟨hne '+' (by decide), hne '-' (by decide)⟩] at ht
  obtain ⟨-, rfl, -⟩ : sign = sign' ∧ c = c' ∧ rest = rest' := by simpa using ht
  rcases hc' with hd | rfl
  · rw [toLower_of_isDigit hd] at hc
    rcases hc with rfl | rfl <;> exact absurd hd (by decide)
  · exact hne '.' (by decide) rfl

/-! ### What is read -/

namespace Builtin

/-- **What a text is read as**: an integer, the nearest binary64 number, or nothing. -/
inductive ReadAs (text : List Char) : Option Number → Prop
  | integer {n : Int} (h : IntegerLiteral text n) (hs : Number.IsSigned n) :
      ReadAs text (some (.ofSigned n hs))
  | real {d : Decimal} {x : Double} (hn : ∀ n, IntegerLiteral text n → ¬ Number.IsSigned n)
      (h : RealLiteral text d) (hlt : d.size < Double.overflow) (hx : x.Nearest d.toRat)
      (hsign : x.negative = d.negative) : ReadAs text (some (.double x))
  | refused (hn : ∀ n, IntegerLiteral text n → ¬ Number.IsSigned n)
      (h : ∀ d, RealLiteral text d → Double.overflow ≤ d.size) : ReadAs text none

variable {text : List Char}

/-- What is read of a text that is a literal: the parts that are read are the only ones. -/
theorem readAs_of_read? {n : Numeral} (hr : Numeral.read? text = some n) (hd : n.hasDigit = true) :
    ReadAs text (numberOfText? text) := by
  have hreal : RealLiteral text n.decimal := Numeral.realLiteral_iff.mpr ⟨n, hr, hd, rfl⟩
  rw [numberOfText?_of_read? hr hd]
  split
  case isTrue hw =>
    exact .integer (Numeral.integerLiteral_iff.mpr ⟨n, hr, hd, hw.1, rfl⟩) hw.2
  case isFalse hw =>
    have hn : ∀ k, IntegerLiteral text k → ¬ Number.IsSigned k := by
      intro k hk hs
      obtain ⟨n', hr', -, hw', rfl⟩ := Numeral.integerLiteral_iff.mp hk
      obtain rfl := Option.some.inj (hr.symm.trans hr')
      exact hw ⟨hw', hs⟩
    cases hx : n.decimal.nearest? with
    | some x =>
      obtain ⟨hnear, hsign⟩ := Decimal.nearest?_nearest hx
      exact .real hn hreal ((Decimal.exists_nearest?_iff _).mp ⟨x, hx⟩) hnear hsign
    | none =>
      refine .refused hn fun d hd' => ?_
      obtain ⟨n', hr', -, rfl⟩ := Numeral.realLiteral_iff.mp hd'
      obtain rfl := Option.some.inj (hr.symm.trans hr')
      refine not_lt.mp fun hlt => ?_
      obtain ⟨x, hx'⟩ := (Decimal.exists_nearest?_iff _).mpr hlt
      cases hx.symm.trans hx'

theorem numberOfText?_of_not_read?
    (h : ¬ ∃ n, Numeral.read? text = some n ∧ n.hasDigit = true) : numberOfText? text = none := by
  rw [numberOfText?]
  cases hr : Numeral.read? text with
  | none => rfl
  | some n =>
    have hd : ¬ n.hasDigit = true := fun hd => h ⟨n, hr, hd⟩
    exact if_pos hd

theorem readAs_numberOfText? (text : List Char) : ReadAs text (numberOfText? text) := by
  by_cases hl : ∃ n, Numeral.read? text = some n ∧ n.hasDigit = true
  · obtain ⟨n, hr, hd⟩ := hl
    exact readAs_of_read? hr hd
  · have hreal (d : Decimal) : ¬ RealLiteral text d := by
      intro h
      obtain ⟨n, hr, hd, -⟩ := Numeral.realLiteral_iff.mp h
      exact hl ⟨n, hr, hd⟩
    rw [numberOfText?_of_not_read? hl]
    refine .refused (fun k hk => ?_) fun d hd => absurd hd (hreal d)
    obtain ⟨d, hd⟩ := Numeral.realLiteral_of_integerLiteral hk
    exact absurd hd (hreal d)

theorem numberOfText?_eq_int_iff {n : Int} (h : Number.InRange n) :
    numberOfText? text = some (.int n h) ↔ IntegerLiteral text n ∧ Number.IsSigned n := by
  have hr := readAs_numberOfText? text
  generalize numberOfText? text = outcome at hr
  cases hr with
  | integer hl hs =>
    constructor
    · rintro ⟨⟩
      exact ⟨hl, hs⟩
    · rintro ⟨hl', -⟩
      obtain rfl := Numeral.integerLiteral_unique hl hl'
      rfl
  | real hn => exact iff_of_false nofun fun ⟨hl, hs⟩ => hn n hl hs
  | refused hn => exact iff_of_false nofun fun ⟨hl, hs⟩ => hn n hl hs

theorem exists_numberOfText?_eq_double_iff :
    (∃ x, numberOfText? text = some (.double x)) ↔
      (∀ n, IntegerLiteral text n → ¬ Number.IsSigned n) ∧
        ∃ d, RealLiteral text d ∧ d.size < Double.overflow := by
  have hr := readAs_numberOfText? text
  generalize numberOfText? text = outcome at hr
  cases hr with
  | integer hl hs => exact iff_of_false (fun ⟨_, hx⟩ => nomatch hx) fun h => h.1 _ hl hs
  | real hn hl hlt => exact iff_of_true ⟨_, rfl⟩ ⟨hn, _, hl, hlt⟩
  | refused hn hover =>
    exact iff_of_false (fun ⟨_, hx⟩ => nomatch hx) fun ⟨_, d, hl, hlt⟩ =>
      absurd hlt (not_lt.mpr (hover d hl))

/-- The number that a literal is read as is the nearest one, with the sign that is written. -/
theorem nearest_of_numberOfText? {x : Double} {d : Decimal}
    (h : numberOfText? text = some (.double x)) (hl : RealLiteral text d) :
    x.Nearest d.toRat ∧ x.negative = d.negative := by
  have hr := readAs_numberOfText? text
  rw [h] at hr
  cases hr with
  | real _ hl' _ hx hsign =>
    obtain rfl := Numeral.realLiteral_unique hl hl'
    exact ⟨hx, hsign⟩

theorem numberOfText?_eq_none (hn : ∀ n, IntegerLiteral text n → ¬ Number.IsSigned n)
    (hd : ∀ d, RealLiteral text d → Double.overflow ≤ d.size) : numberOfText? text = none := by
  have hr := readAs_numberOfText? text
  generalize numberOfText? text = outcome at hr ⊢
  cases hr with
  | integer hl hs => exact absurd hs (hn _ hl)
  | real _ hl hlt => exact absurd hlt (not_lt.mpr (hd _ hl))
  | refused => rfl

theorem parseNumber_string_eq_iff {s : String} {n : Number} :
    parseNumber (.string s) = pure (.number n) ↔
      numberOfText? (Text.trim s.toList) = some n := by
  rw [parseNumber]
  cases numberOfText? (Text.trim s.toList) with
  | none =>
    refine iff_of_false (fun h => ?_) (fun h => ?_)
    · cases congrArg Run.outcome h
    · cases h
  | some n' =>
    constructor
    · intro h
      simpa using congrArg Run.outcome h
    · rintro ⟨⟩
      rfl

/-- A string that is the literal of no number that is read is refused. -/
theorem parseNumber_string_eq_fail {s : String}
    (hn : ∀ n, IntegerLiteral (Text.trim s.toList) n → ¬ Number.IsSigned n)
    (hd : ∀ d, RealLiteral (Text.trim s.toList) d → Double.overflow ≤ d.size) :
    parseNumber (.string s) =
      Run.fail (.transform ("parse_number cannot parse '" ++ s ++ "'")) := by
  rw [parseNumber, numberOfText?_eq_none hn hd]
  rfl

/-- **What a string is read as.** With the blanks around it trimmed, it is read as an integer just if
it is the literal of one that fits 64 bits with a sign. Otherwise it is read as a binary64 number
just if it is the literal of a real number short of the overflow, and then as the nearest one, with
the sign that is written. In every other case it is refused, and quoted as it was; so are the empty
string and the words for infinities and for what is no number. -/
theorem parseNumber_string (s : String) :
    (∀ (n : Int) (h : Number.InRange n), parseNumber (.string s) = pure (.number (.int n h)) ↔
      IntegerLiteral (Text.trim s.toList) n ∧ Number.IsSigned n) ∧
    ((∃ x, parseNumber (.string s) = pure (.number (.double x))) ↔
      (∀ n, IntegerLiteral (Text.trim s.toList) n → ¬ Number.IsSigned n) ∧
        ∃ d, RealLiteral (Text.trim s.toList) d ∧ d.size < Double.overflow) ∧
    (∀ x d, parseNumber (.string s) = pure (.number (.double x)) →
      RealLiteral (Text.trim s.toList) d → x.Nearest d.toRat ∧ x.negative = d.negative) ∧
    ((∀ n, IntegerLiteral (Text.trim s.toList) n → ¬ Number.IsSigned n) →
      (∀ d, RealLiteral (Text.trim s.toList) d → Double.overflow ≤ d.size) →
        parseNumber (.string s) =
          Run.fail (.transform ("parse_number cannot parse '" ++ s ++ "'"))) ∧
    (Text.trim s.toList = [] ∨ SpecialWord (Text.trim s.toList) →
      parseNumber (.string s) =
        Run.fail (.transform ("parse_number cannot parse '" ++ s ++ "'"))) := by
  simp only [parseNumber_string_eq_iff]
  refine ⟨fun n h => numberOfText?_eq_int_iff h, exists_numberOfText?_eq_double_iff,
    fun x d hx hl => nearest_of_numberOfText? hx hl, parseNumber_string_eq_fail, fun h => ?_⟩
  have hreal (d : Decimal) : ¬ RealLiteral (Text.trim s.toList) d := by
    intro hd
    rcases h with hnil | hword
    · -- A literal is not empty.
      obtain ⟨sign, c, rest, ht, -⟩ := Numeral.take_of_realLiteral hd
      rw [hnil] at ht
      exact nomatch (Prod.mk.inj ht).2
    · exact hword.not_realLiteral d hd
  refine parseNumber_string_eq_fail (fun n hn => ?_) fun d hd => absurd hd (hreal d)
  obtain ⟨d, hd⟩ := Numeral.realLiteral_of_integerLiteral hn
  exact absurd hd (hreal d)

/-- Signs and leading zeros, a point without digits before it, a power of ten below one, an integer
past those of 64 bits with a sign, a number past the largest, and a signed infinity. -/
theorem parseNumber_edges :
    parseNumber (.string " +005\n") = pure (.number (.int 5 (by decide))) ∧
      parseNumber (.string "-12") = pure (.number (.int (-12) (by decide))) ∧
      (∃ x, parseNumber (.string "-.5e1") = pure (.number (.double x)) ∧ x.Nearest (-5)) ∧
      (∃ x, parseNumber (.string "25E-1") = pure (.number (.double x)) ∧ x.Nearest (5 / 2)) ∧
      (∃ x, parseNumber (.string "9223372036854775808") = pure (.number (.double x)) ∧
        x.Nearest 9223372036854775808) ∧
      parseNumber (.string "1e999") = Run.fail (.transform "parse_number cannot parse '1e999'") ∧
      parseNumber (.string "-Inf ") = Run.fail (.transform "parse_number cannot parse '-Inf '") := by
  have hreal {s : String} {d : Decimal}
      (hn : ∀ n, IntegerLiteral (Text.trim s.toList) n → ¬ Number.IsSigned n)
      (hl : RealLiteral (Text.trim s.toList) d) (hlt : d.size < 2 ^ (64 : ℤ)) :
      ∃ x, parseNumber (.string s) = pure (.number (.double x)) ∧ x.Nearest d.toRat := by
    obtain ⟨-, hdouble, hnear, -⟩ := parseNumber_string s
    obtain ⟨x, hx⟩ := hdouble.mpr ⟨hn, d, hl, Double.lt_overflow_of_lt (by decide) hlt⟩
    exact ⟨x, hx, (hnear x d hx hl).1⟩
  have hone : Digits ['1'] 1 := digits_of_all rfl
  refine ⟨?plus, ?minus, ?point, ?power, ?unsigned, ?overflow, ?infinity⟩
  case plus =>
    have hl : IntegerLiteral (Text.trim " +005\n".toList) 5 :=
      .plus (n := 5) (digits_of_all rfl) (List.cons_ne_nil _ _)
    exact ((parseNumber_string " +005\n").1 5 _).mpr ⟨hl, by decide⟩
  case minus =>
    have hl : IntegerLiteral (Text.trim "-12".toList) (-12) :=
      .minus (n := 12) (digits_of_all rfl) (List.cons_ne_nil _ _)
    exact ((parseNumber_string "-12").1 (-12) _).mpr ⟨hl, by decide⟩
  case point =>
    have hfive : Digits ['5'] 5 := digits_of_all rfl
    have hl : RealLiteral (Text.trim "-.5e1".toList) ⟨true, 5, 0⟩ :=
      .mk (some .minus) (@PointedDigits.point [] ['5'] (by simp) (by simp)) hfive
        (.present (.inl rfl) (.unsigned hone (List.cons_ne_nil _ _)))
    have hn (n : Int) (h : IntegerLiteral (Text.trim "-.5e1".toList) n) : ¬ Number.IsSigned n :=
      absurd h (Numeral.not_integerLiteral_of_mem (c := '.') (by decide) (by decide) n)
    obtain ⟨x, hx, hnear⟩ := hreal hn hl (by norm_num [Decimal.size])
    exact ⟨x, hx, by simpa [Decimal.toRat, Decimal.size] using hnear⟩
  case power =>
    have hd : Digits ['2', '5'] 25 := digits_of_all rfl
    have hl : RealLiteral (Text.trim "25E-1".toList) ⟨false, 25, -1⟩ :=
      .mk none (.whole (List.cons_ne_nil _ _) hd.isDigit) hd
        (.present (.inr rfl) (.minus hone (List.cons_ne_nil _ _)))
    have hn (n : Int) (h : IntegerLiteral (Text.trim "25E-1".toList) n) : ¬ Number.IsSigned n :=
      absurd h (Numeral.not_integerLiteral_of_mem (c := 'E') (by decide) (by decide) n)
    have hq : Decimal.toRat ⟨false, 25, -1⟩ = 5 / 2 := by norm_num [Decimal.toRat, Decimal.size]
    obtain ⟨x, hx, hnear⟩ := hreal hn hl (by norm_num [Decimal.size])
    exact ⟨x, hx, hq ▸ hnear⟩
  case unsigned =>
    have hd : Digits (Text.trim "9223372036854775808".toList) 9223372036854775808 :=
      digits_of_all rfl
    have hl : RealLiteral (Text.trim "9223372036854775808".toList) ⟨false, 9223372036854775808, 0⟩ :=
      .mk none (.whole (by decide) hd.isDigit) hd .absent
    have hn (n : Int) (h : IntegerLiteral (Text.trim "9223372036854775808".toList) n) :
        ¬ Number.IsSigned n := by
      obtain rfl := Numeral.integerLiteral_unique h (.unsigned hd (by decide))
      decide
    obtain ⟨x, hx, hnear⟩ := hreal hn hl (by norm_num [Decimal.size])
    exact ⟨x, hx, by simpa [Decimal.toRat, Decimal.size] using hnear⟩
  case overflow =>
    have hl : RealLiteral (Text.trim "1e999".toList) ⟨false, 1, 999⟩ :=
      .mk none (.whole (List.cons_ne_nil _ _) hone.isDigit) hone
        (.present (.inl rfl) (.unsigned (digits_of_all rfl) (List.cons_ne_nil _ _)))
    have hn (n : Int) (h : IntegerLiteral (Text.trim "1e999".toList) n) : ¬ Number.IsSigned n :=
      absurd h (Numeral.not_integerLiteral_of_mem (c := 'e') (by decide) (by decide) n)
    refine (parseNumber_string "1e999").2.2.2.1 hn fun d hd => ?_
    obtain rfl := Numeral.realLiteral_unique hd hl
    -- Three binary places are less than a decimal one.
    have hp : (2 : ℚ) ^ (3 * 999) ≤ 10 ^ 999 := by
      rw [pow_mul]
      exact pow_le_pow_left₀ (by norm_num) (by norm_num) 999
    refine Double.overflow_le_of_le (e := (3 * 999 : ℕ)) (by decide) ?_
    rw [zpow_natCast, Decimal.size, Nat.cast_one, one_mul, zpow_ofNat]
    exact hp
  case infinity =>
    exact (parseNumber_string "-Inf ").2.2.2.2 (.inr ⟨some .minus, ['I', 'n', 'f'], rfl, by decide⟩)

end Builtin

end Reshape
