import Reshape.Builtins
import Reshape.Proofs.Number.Rounding

/-!
# Arithmetic on integers

The builtins that compute with numbers are exact on the integers of 64 bits with a sign, and refuse
those whose result has none. The integers of 64 bits beyond them are taken for binary64 numbers:
they are rounded first, and then one more or less makes no difference.

## Main definitions

* `Arithmetic`: the builtins that compute with numbers
* `Arithmetic.Right`: the exact result, or a refusal
* `Arithmetic.Answers`: what is answered on an integer

## Main results

* `Arithmetic.answers_int`: the answer on each integer of a record, and when it is right
-/

namespace Reshape

/-- The builtins that compute with numbers. -/
inductive Arithmetic where
  | negate
  | increment
  | decrement
  deriving DecidableEq

namespace Arithmetic

/-- The name of a builtin. -/
def name : Arithmetic → String
  | negate => "negate"
  | increment => "increment"
  | decrement => "decrement"

/-- The builtin itself. -/
def transform : Arithmetic → Transform
  | negate => Builtin.negate
  | increment => Builtin.increment
  | decrement => Builtin.decrement

/-- The builtins are registered under their names. -/
theorem get?_builtin (op : Arithmetic) : Registry.builtin.get? op.name = some op.transform := by
  cases op <;> rfl

/-- **The exact result** on an integer. -/
def exact : Arithmetic → Int → Int
  | negate, n => -n
  | increment, n => n + 1
  | decrement, n => n - 1

/-- A binary64 number with the other sign, if the builtin changes signs. -/
def signed : Arithmetic → Double → Double
  | negate, x => x.neg
  | increment, x => x
  | decrement, x => x

/-- **No wrong number**: the exact result as an integer, or a refusal. -/
inductive Right (op : Arithmetic) (n : Int) : Run Value → Prop
  | exact (h : Number.InRange (op.exact n)) : Right op n (pure (.number (.int (op.exact n) h)))
  | refused (reason : String) : Right op n (Run.fail (.transform reason))

/-- **What is answered on an integer**. -/
inductive Answers (op : Arithmetic) (n : Int) : Run Value → Prop
  /-- An integer with a sign has an exact result. -/
  | exact (signed : Number.IsSigned n) (h : Number.IsSigned (op.exact n)) :
      Answers op n (pure (.number (.int (op.exact n) h.inRange)))
  /-- The exact result is out of range. -/
  | overflow (signed : Number.IsSigned n) (h : ¬ Number.IsSigned (op.exact n)) :
      Answers op n (Run.fail (.transform s!"{op.name} overflowed on {n}"))
  /-- An integer beyond those with a sign is rounded to a binary64 number. -/
  | rounded (unsigned : ¬ Number.IsSigned n) {x : Double} (nearest : x.Nearest n) :
      Answers op n (pure (.number (.double (op.signed x))))

variable {n : Int}

/-! ### Integers with a sign -/

theorem onNumber_of_isSigned {name : String} {onInt : Int → Int}
    {onDouble : Double → Option Double} (h : Number.InRange n) (hs : Number.IsSigned n) :
    Builtin.onNumber name onInt onDouble (.number (.int n h)) =
      if hr : Number.IsSigned (onInt n) then pure (.number (.int (onInt n) hr.inRange))
      else Run.fail (.transform s!"{name} overflowed on {n}") := by
  simp only [Builtin.onNumber, Number.toSigned?, if_pos hs]
  rfl

theorem answers_of_isSigned (op : Arithmetic) (h : Number.InRange n) (hs : Number.IsSigned n) :
    op.Answers n (op.transform (.number (.int n h))) := by
  have ho : op.transform (.number (.int n h)) =
      if hr : Number.IsSigned (op.exact n) then pure (.number (.int (op.exact n) hr.inRange))
      else Run.fail (.transform s!"{op.name} overflowed on {n}") := by
    cases op <;> exact onNumber_of_isSigned h hs
  rw [ho]
  split
  case isTrue hr => exact .exact hs hr
  case isFalse hr => exact .overflow hs hr

/-! ### Integers beyond them -/

theorem onNumber_of_not_isSigned {name : String} {onInt : Int → Int}
    {onDouble : Double → Option Double} (h : Number.InRange n) (hs : ¬ Number.IsSigned n)
    {x y : Double} (hx : Double.ofInt? n = some x) (hy : onDouble x = some y) :
    Builtin.onNumber name onInt onDouble (.number (.int n h)) = pure (.number (.double y)) := by
  simp only [Builtin.onNumber, Number.toSigned?, if_neg hs, Number.toDouble?, hx, Option.bind_some,
    hy]

/-- The least integer of 64 bits that has none with a sign, as a binary64 number. -/
def leastUnsigned : Double :=
  ⟨false, 2 ^ 52, 11, by decide⟩

/-- The binary64 number after all integers of 64 bits. -/
def beyondUnsigned : Double :=
  ⟨false, 2 ^ 52, 12, by decide⟩

theorem toRat_leastUnsigned : leastUnsigned.toRat = 2 ^ 63 := by
  norm_num [leastUnsigned, Double.toRat, Double.size]

theorem toRat_beyondUnsigned : beyondUnsigned.toRat = 2 ^ 64 := by
  norm_num [beyondUnsigned, Double.toRat, Double.size]

/-- An integer beyond those with a sign is rounded within the powers of two around it. -/
theorem exists_rounded (h : Number.InRange n) (hs : ¬ Number.IsSigned n) :
    ∃ x, Double.ofInt? n = some x ∧ x.Nearest n ∧ 2 ^ 63 ≤ x.toRat ∧ x.toRat ≤ 2 ^ 64 := by
  have hlow : (2 : ℚ) ^ 63 ≤ n := by
    have hn : (2 : ℤ) ^ 63 ≤ n := by
      have h0 := h.1
      simp only [Number.IsSigned, not_and, not_lt] at hs
      exact hs h0
    exact_mod_cast hn
  have hhigh : (n : ℚ) ≤ 2 ^ 64 := by
    have hn : n ≤ (2 : ℤ) ^ 64 := h.2.le
    exact_mod_cast hn
  obtain ⟨x, hx⟩ := Double.exists_ofInt?_of_inRange h
  have hr := Double.ofInt?_nearest hx
  refine ⟨x, hx, hr, ?_, ?_⟩
  · rw [← toRat_leastUnsigned] at hlow ⊢
    exact hr.le_toRat hlow
  · rw [← toRat_beyondUnsigned] at hhigh ⊢
    exact hr.toRat_le hhigh

/-- One more or less makes no difference to a rounded integer beyond those with a sign. -/
theorem addInt?_rounded {x : Double} (hlow : 2 ^ 63 ≤ x.toRat) (hhigh : x.toRat ≤ 2 ^ 64) {k : Int}
    (hk : |k| ≤ 1) : x.addInt? k = some x := by
  have hk : |(k : ℚ)| ≤ 1 := by exact_mod_cast hk
  have hsum : |x.toRat + k| ≤ 2 ^ 65 := by
    have htri := abs_add_le x.toRat k
    rw [abs_of_nonneg (show 0 ≤ x.toRat by linarith)] at htri
    linarith
  exact Double.addInt?_eq_self 10 hlow (by linarith)
    (hsum.trans_lt (pow_lt_pow_right₀ one_lt_two (by decide)))

theorem answers_of_not_isSigned (op : Arithmetic) (h : Number.InRange n)
    (hs : ¬ Number.IsSigned n) : op.Answers n (op.transform (.number (.int n h))) := by
  obtain ⟨x, hx, hr, hlow, hhigh⟩ := exists_rounded h hs
  have ho : op.transform (.number (.int n h)) = pure (.number (.double (op.signed x))) := by
    cases op with
    | negate => exact onNumber_of_not_isSigned h hs hx rfl
    | increment => exact onNumber_of_not_isSigned h hs hx (addInt?_rounded hlow hhigh (by decide))
    | decrement => exact onNumber_of_not_isSigned h hs hx (addInt?_rounded hlow hhigh (by decide))
  rw [ho]
  exact .rounded hs hr

/-! ### All integers of records -/

theorem Answers.right_iff {op : Arithmetic} {run : Run Value} (h : op.Answers n run) :
    op.Right n run ↔ Number.IsSigned n := by
  cases h with
  | exact hs hr => exact ⟨fun _ => hs, fun _ => .exact hr.inRange⟩
  | overflow hs hr => exact ⟨fun _ => hs, fun _ => .refused _⟩
  | rounded hs hx => exact ⟨nofun, fun h => absurd h hs⟩

/-- **Arithmetic on the integers of records**: exact on those of 64 bits with a sign, or refused if
the result is out of their range; an integer beyond them is rounded to the nearest binary64 number.
So a wrong number is answered just for the integers without a sign. -/
theorem answers_int (op : Arithmetic) (h : Number.InRange n) :
    op.Answers n (op.transform (.number (.int n h))) ∧
      (op.Right n (op.transform (.number (.int n h))) ↔ Number.IsSigned n) := by
  have ha : op.Answers n (op.transform (.number (.int n h))) := by
    by_cases hs : Number.IsSigned n
    · exact op.answers_of_isSigned h hs
    · exact op.answers_of_not_isSigned h hs
  exact ⟨ha, ha.right_iff⟩

/-- The greatest integer with a sign has no successor of its kind, so it is refused; the integer
after it is taken for a binary64 number. -/
theorem right_greatest : Number.InRange 0x7fffffffffffffff ∧ Number.InRange 0x8000000000000000 ∧
    increment.Right 0x7fffffffffffffff
      (increment.transform (.number (.int 0x7fffffffffffffff (by decide)))) ∧
    ¬ negate.Right 0x8000000000000000
      (negate.transform (.number (.int 0x8000000000000000 (by decide)))) :=
  ⟨by decide, by decide, (answers_int increment (by decide)).2.mpr (by decide),
    fun h => absurd ((answers_int negate (by decide)).2.mp h) (by decide)⟩

/-- One less than the least integer without a sign has a sign, but a binary64 number is answered. -/
theorem not_right_decrement : ¬ ∀ (op : Arithmetic) (n : Int) (h : Number.InRange n),
    op.Right n (op.transform (.number (.int n h))) := by
  intro h
  have hr : decrement.transform (.number (.int 0x8000000000000000 (by decide))) =
      pure (.number (.double leastUnsigned)) := rfl
  have hd := h decrement 0x8000000000000000 (by decide)
  rw [hr] at hd
  exact nomatch hd

end Arithmetic

end Reshape
