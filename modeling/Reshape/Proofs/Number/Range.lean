import Reshape.Number.Decimal
import Reshape.Proofs.Number.Rounding

/-!
# The range of binary64 numbers

A quotient has a nearest finite number just as long as it lies below the middle between the greatest
binary64 number and the power of two that would come after it. The same is so of decimal quantities,
also of those whose first digit alone decides that they are too large, or so small that the nearest
number is zero.

## Main definitions

* `Double.overflow`: the least magnitude that is not rounded to a finite number
* `Decimal.size`, `Decimal.toRat`: the rational number that a decimal quantity stands for

## Main results

* `Double.exists_nearest?_iff`: which quotients are rounded to a finite number
* `Decimal.nearest?_nearest`: a decimal quantity is rounded to the nearest number, and keeps its sign
* `Decimal.exists_nearest?_iff`: which decimal quantities are rounded to a finite number
-/

namespace Reshape

namespace Double

/-! ### Quotients -/

/-- **The least magnitude that is not rounded to a finite number**: halfway between the greatest
binary64 number and the power of two after it. -/
def overflow : ℚ :=
  2 ^ 1024 - 2 ^ 970

/-- In units of the greatest last place, it is halfway before the power of two of 53 places. -/
theorem overflow_eq : overflow = (2 ^ 53 - 1 / 2) * 2 ^ (971 : ℤ) := by
  have h : (2 : ℚ) ^ 1024 = 2 ^ 53 * 2 ^ 971 := by rw [← pow_add]
  have h' : (2 : ℚ) ^ 971 = 2 * 2 ^ 970 := by rw [← pow_succ']
  rw [overflow, zpow_ofNat, h, h']
  generalize (2 : ℚ) ^ 970 = unit
  ring

theorem lt_overflow_of_lt {q : ℚ} {e : ℤ} (he : e ≤ 1023) (hq : q < 2 ^ e) : q < overflow := by
  have hp : (2 : ℚ) ^ e ≤ 2 ^ (1023 : ℤ) := zpow_le_zpow_right₀ one_le_two he
  have ho : (2 : ℚ) ^ (1023 : ℤ) ≤ overflow := by
    have h : (2 : ℚ) ^ 1024 = 2 * 2 ^ 1023 := by rw [← pow_succ']
    have h' : (2 : ℚ) ^ 970 ≤ 2 ^ 1023 := pow_le_pow_right₀ one_le_two (by decide)
    rw [overflow, zpow_ofNat, h, two_mul, le_sub_iff_add_le]
    exact add_le_add_right h' _
  exact hq.trans_le (hp.trans ho)

theorem overflow_le_of_le {q : ℚ} {e : ℤ} (he : 1024 ≤ e) (hq : 2 ^ e ≤ q) : overflow ≤ q := by
  have hp : (2 : ℚ) ^ (1024 : ℤ) ≤ 2 ^ e := zpow_le_zpow_right₀ one_le_two he
  have ho : overflow ≤ (2 : ℚ) ^ (1024 : ℤ) := by
    rw [overflow, zpow_ofNat, sub_le_self_iff]
    positivity
  exact ho.trans (hp.trans hq)

/-- A rational number is rounded to less than an odd number and one if it lies less than a half
above the odd number. -/
theorem Rounds.lt_succ_iff {m k : ℕ} {t : ℚ} (h : Rounds m t) (hk : k % 2 = 1) :
    m < k + 1 ↔ t < k + 1 / 2 := by
  have hn := abs_le.mp (show |(m : ℚ) - t| ≤ 1 / 2 by linarith [h.near])
  constructor
  · intro hm
    have hm' : (m : ℚ) ≤ k := by exact_mod_cast Nat.lt_succ_iff.mp hm
    by_contra ht
    -- The number would lie at the half above the odd number, and ties go to even ones.
    have he : (m : ℚ) = k := by linarith
    have heven := h.even (by rw [abs_of_nonpos] <;> linarith)
    rw [Nat.cast_injective he] at heven
    omega
  · intro ht
    have hm : (m : ℚ) < (k + 1 : ℕ) := by push_cast; linarith
    exact_mod_cast hm

/-- What a magnitude is rounded to at its last place has an exponent in range just below the
overflow. -/
theorem Place.exponent_le_iff {q : ℚ} {e : ℤ} {m : ℕ} (h : Place q e)
    (hm : Rounds m (q / 2 ^ e)) : (if m = 2 ^ 53 then e + 1 else e) ≤ 971 ↔ q < overflow := by
  have hle := h.rounded_le hm
  rcases lt_trichotomy e 971 with he | rfl | he
  · -- Even the power of two after the 53 places is in range.
    exact iff_of_true (by split <;> omega) (lt_overflow_of_lt (by omega) h.lt)
  · have hlt := hm.lt_succ_iff (k := 2 ^ 53 - 1) (by decide)
    have hq : q / 2 ^ (971 : ℤ) < ((2 ^ 53 - 1 : ℕ) : ℚ) + 1 / 2 ↔ q < overflow := by
      rw [div_lt_iff₀ (Place.unit_pos 971), overflow_eq]
      norm_num
    rw [← hq, ← hlt]
    split <;> omega
  · have hq := h.le.resolve_left (by omega)
    exact iff_of_false (by split <;> omega) (not_lt.mpr (overflow_le_of_le (by omega) hq))

theorem exists_ofParts?_iff {negative : Bool} {mantissa : ℕ} {exponent : ℤ} :
    (∃ x, ofParts? negative mantissa exponent = some x) ↔ Canonical mantissa exponent := by
  unfold ofParts?
  split
  case isTrue h => exact iff_of_true ⟨_, rfl⟩ h
  case isFalse h =>
    refine iff_of_false ?_ h
    rintro ⟨x, hx⟩
    cases hx

/-- **Which quotients are rounded to a finite number.** -/
theorem exists_nearest?_iff (negative : Bool) (num : ℕ) {den : ℕ} (hd : 0 < den) :
    (∃ x, nearest? negative num den = some x) ↔ (num : ℚ) / den < overflow := by
  rcases num.eq_zero_or_pos with rfl | hn
  · refine iff_of_true ⟨zero negative, rfl⟩ ?_
    rw [Nat.cast_zero, zero_div, overflow, sub_pos]
    exact pow_lt_pow_right₀ one_lt_two (by decide)
  · obtain ⟨e, m, hp, hm, he⟩ := nearest?_eq_ofParts? hn hd negative
    have hle := hp.rounded_le hm
    have hplace := hp.le_rounded hm
    have hleast := hp.least
    rw [he, ← hp.exponent_le_iff hm]
    split
    -- The mantissa and the least exponent are in range as they are.
    all_goals
      rw [exists_ofParts?_iff, Canonical]
      omega

/-- A number other than zero is no smaller than the least positive one. -/
theorem le_size {x : Double} (h : x.toRat ≠ 0) : 2 ^ (-1074 : ℤ) ≤ x.size := by
  have hm : x.mantissa ≠ 0 := by
    intro h0
    refine h ?_
    simp [toRat, size, h0]
  have hm' : (1 : ℚ) ≤ x.mantissa := by exact_mod_cast Nat.one_le_iff_ne_zero.mpr hm
  calc (2 : ℚ) ^ (-1074 : ℤ) ≤ 2 ^ x.exponent :=
        zpow_le_zpow_right₀ one_le_two x.canonical.2.1
    _ ≤ x.size := le_mul_of_one_le_left (by positivity) hm'

theorem abs_toRat (x : Double) : |x.toRat| = x.size := by
  unfold toRat
  split <;> simp [abs_of_nonneg x.size_nonneg]

/-- Zero is nearest to what is at most half of the least positive number. -/
theorem zero_nearest (negative : Bool) {q : ℚ} (hq : 2 * |q| ≤ 2 ^ (-1074 : ℤ)) :
    (zero negative).Nearest q := by
  have hz : (zero negative).toRat = 0 := by cases negative <;> simp [toRat, size, zero]
  refine ⟨fun y => ?_, fun _ _ _ => rfl⟩
  rw [hz, zero_sub, abs_neg]
  by_cases hy : y.toRat = 0
  · rw [hy, zero_sub, abs_neg]
  · have hle := le_size hy
    have htri := abs_sub_abs_le_abs_sub y.toRat q
    rw [abs_toRat] at htri
    linarith

end Double

/-! ### Decimal quantities -/

namespace Decimal

/-- The magnitude of a decimal quantity. -/
def size (d : Decimal) : ℚ :=
  d.digits * 10 ^ d.exponent

/-- **The rational number** that a decimal quantity stands for. -/
def toRat (d : Decimal) : ℚ :=
  if d.negative then -d.size else d.size

theorem size_nonneg (d : Decimal) : 0 ≤ d.size := by
  unfold size
  positivity

theorem abs_toRat (d : Decimal) : |d.toRat| = d.size := by
  unfold toRat
  split <;> simp [abs_of_nonneg d.size_nonneg]

theorem magnitude_snd_pos (d : Decimal) : 0 < d.magnitude.2 := by
  unfold magnitude
  split
  · exact one_pos
  · exact Nat.pow_pos (by decide)

/-- The quotient of whole numbers is the magnitude. -/
theorem magnitude_eq (d : Decimal) : (d.magnitude.1 : ℚ) / d.magnitude.2 = d.size := by
  unfold magnitude size
  split
  case isTrue he =>
    obtain ⟨k, hk⟩ := Int.eq_ofNat_of_zero_le he
    simp [hk]
  case isFalse he =>
    obtain ⟨k, hk⟩ := Int.eq_ofNat_of_zero_le (show 0 ≤ -d.exponent by omega)
    obtain hk' : d.exponent = -k := by omega
    simp [hk', div_eq_mul_inv]

/-- A number of `k + 1` digits lies between two powers of ten. -/
theorem pow_le_of_length {n k : ℕ} (hn : n ≠ 0) (hk : (digitsOf n).length = k + 1) :
    10 ^ k ≤ n ∧ n < 10 ^ (k + 1) := by
  have hiff {j : ℕ} (hj : 0 < j) : (digitsOf n).length ≤ j ↔ n < 10 ^ j :=
    Nat.length_toDigits_le_iff (by decide) hj
  refine ⟨?_, (hiff k.succ_pos).mp hk.le⟩
  rcases k.eq_zero_or_pos with rfl | hpos
  · exact Nat.one_le_iff_ne_zero.mpr hn
  · -- It has more than `k` digits.
    refine not_lt.mp fun hlt => ?_
    have hle := (hiff hpos).mpr hlt
    omega

/-- The place of the first digit tells the magnitude up to a factor of ten. -/
theorem size_bounds {d : Decimal} (h : d.digits ≠ 0) :
    (10 : ℚ) ^ ((digitsOf d.digits).length + d.exponent - 1) ≤ d.size ∧
      d.size < 10 ^ ((digitsOf d.digits).length + d.exponent) := by
  obtain ⟨k, hk⟩ := Nat.exists_eq_succ_of_ne_zero
    (show (digitsOf d.digits).length ≠ 0 by simp [digitsOf, Nat.toDigits_ne_nil])
  obtain ⟨hlow, hhigh⟩ := pow_le_of_length h hk
  have hlow' : (10 : ℚ) ^ k ≤ d.digits := by exact_mod_cast hlow
  have hhigh' : (d.digits : ℚ) < 10 ^ (k + 1) := by exact_mod_cast hhigh
  have hten : (0 : ℚ) < 10 ^ d.exponent := by positivity
  rw [size, hk]
  constructor
  · rw [show ((k.succ : ℕ) : ℤ) + d.exponent - 1 = k + d.exponent by push_cast; ring,
      zpow_add₀ (by norm_num), zpow_natCast]
    exact mul_le_mul_of_nonneg_right hlow' hten.le
  · rw [zpow_add₀ (by norm_num), zpow_natCast]
    exact mul_lt_mul_of_pos_right hhigh' hten

/-! ### Rounding a decimal quantity -/

theorem two_pow_mul_le {a b : ℕ} (h : (2 : ℚ) ^ a ≤ 10 ^ b) (k : ℕ) :
    (2 : ℚ) ^ (a * k) ≤ 10 ^ (b * k) := by
  rw [pow_mul, pow_mul]
  exact pow_le_pow_left₀ (by positivity) h k

/-- How a decimal quantity is rounded: as zero, not at all, or as a quotient. The first two are told
by the place of its first digit, if it has one. -/
inductive Rounding (d : Decimal) : Option Double → Prop
  | zero (h : 2 * d.size ≤ 2 ^ (-1074 : ℤ)) : Rounding d (some (Double.zero d.negative))
  | beyond (h : Double.overflow ≤ d.size) : Rounding d none
  | quotient : Rounding d (Double.nearest? d.negative d.magnitude.1 d.magnitude.2)

theorem rounding_nearest? (d : Decimal) : d.Rounding d.nearest? := by
  unfold nearest?
  split
  case isTrue h =>
    refine .zero ?_
    rw [size, h, Nat.cast_zero, zero_mul, mul_zero]
    positivity
  case isFalse h =>
    obtain ⟨hlow, hhigh⟩ := size_bounds h
    dsimp only
    split_ifs with hl hs
    · -- Ten to the 310 is more than two to the 1024.
      refine .beyond (Double.overflow_le_of_le le_rfl ?_)
      have hp : (10 : ℚ) ^ (310 : ℤ) ≤ 10 ^ ((digitsOf d.digits).length + d.exponent - 1) :=
        zpow_le_zpow_right₀ (by norm_num) (by omega)
      refine le_trans ?_ (hp.trans hlow)
      have hb := two_pow_mul_le (show (2 : ℚ) ^ 205 ≤ 10 ^ 62 by norm_num) 5
      rw [zpow_ofNat, zpow_ofNat]
      exact (pow_le_pow_right₀ one_le_two (by decide)).trans hb
    · -- Ten to the 330 is more than two to the 1075.
      refine .zero ?_
      have hp : (10 : ℚ) ^ ((digitsOf d.digits).length + d.exponent) ≤ 10 ^ (-330 : ℤ) :=
        zpow_le_zpow_right₀ (by norm_num) (by omega)
      refine le_trans (mul_le_mul_of_nonneg_left (hhigh.le.trans hp) zero_le_two) ?_
      rw [zpow_neg, zpow_neg, zpow_ofNat, zpow_ofNat, mul_inv_le_iff₀ (by positivity),
        ← div_eq_inv_mul, le_div_iff₀ (by positivity), ← pow_succ']
      have hb := two_pow_mul_le (show (2 : ℚ) ^ 215 ≤ 10 ^ 66 by norm_num) 5
      exact (pow_le_pow_right₀ one_le_two (by decide)).trans hb
    · exact .quotient

/-- **A decimal quantity is rounded to the nearest number**, and keeps its sign. -/
theorem nearest?_nearest {d : Decimal} {x : Double} (h : d.nearest? = some x) :
    x.Nearest d.toRat ∧ x.negative = d.negative := by
  have hr := rounding_nearest? d
  rw [h] at hr
  generalize ho : some x = outcome at hr
  cases hr with
  | zero hz =>
    obtain rfl := Option.some.inj ho
    exact ⟨Double.zero_nearest _ (by rwa [abs_toRat]), rfl⟩
  | beyond => exact nomatch ho
  | quotient =>
    have hx := Double.nearest?_nearest d.magnitude_snd_pos ho.symm
    rw [magnitude_eq] at hx
    exact ⟨hx, Double.negative_of_nearest? d.magnitude_snd_pos ho.symm⟩

/-- **Which decimal quantities are rounded to a finite number.** -/
theorem exists_nearest?_iff (d : Decimal) :
    (∃ x, d.nearest? = some x) ↔ d.size < Double.overflow := by
  generalize ho : d.nearest? = outcome
  have hr := rounding_nearest? d
  rw [ho] at hr
  cases hr with
  | zero hz =>
    refine iff_of_true ⟨_, rfl⟩ (Double.lt_overflow_of_lt (e := -1074) (by decide) ?_)
    have hp : (0 : ℚ) < 2 ^ (-1074 : ℤ) := by positivity
    linarith [d.size_nonneg]
  | beyond hb => exact iff_of_false (fun ⟨_, hx⟩ => nomatch hx) (not_lt.mpr hb)
  | quotient =>
    rw [Double.exists_nearest?_iff _ _ d.magnitude_snd_pos, magnitude_eq]

end Decimal

end Reshape
