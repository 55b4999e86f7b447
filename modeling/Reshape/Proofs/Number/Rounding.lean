import Reshape.Number.Basic
import Mathlib.Algebra.Order.Field.Power
import Mathlib.Data.Rat.Cast.Order
import Mathlib.Tactic.FieldSimp
import Mathlib.Tactic.Linarith
import Mathlib.Tactic.Positivity
import Mathlib.Tactic.Ring

/-!
# Rounding to binary64 numbers

A binary64 number stands for a rational number, and the rounding of a quotient answers with the
nearest of those that there are, of two equally near the one with the even mantissa. The mantissa is
the whole number nearest to the quotient in units of the last binary place, and that place is chosen
so that no number with more places below is any nearer.

## Main definitions

* `Double.toRat`: the rational number that a binary64 number stands for
* `Double.Nearest`: the nearest binary64 number to a rational one

## Main results

* `Double.nearest?_nearest`: a quotient is rounded to the nearest number
* `Double.exists_nearest?`: a quotient that is not too large is rounded to some number
* `Double.addInt?_eq_self`: adding too little to a large number changes nothing
-/

namespace Reshape.Double

/-! ### Numbers that binary64 numbers stand for -/

/-- The magnitude of a binary64 number. -/
def size (x : Double) : ℚ :=
  x.mantissa * 2 ^ x.exponent

/-- **The rational number** that a binary64 number stands for. -/
def toRat (x : Double) : ℚ :=
  if x.negative then -x.size else x.size

/-- **The nearest binary64 number** to a rational one: none is nearer, and if another is as near,
its own mantissa is even. -/
structure Nearest (x : Double) (q : ℚ) : Prop where
  closest : ∀ y : Double, |x.toRat - q| ≤ |y.toRat - q|
  even : ∀ y : Double, y.toRat ≠ x.toRat → |y.toRat - q| = |x.toRat - q| → x.mantissa % 2 = 0

theorem size_nonneg (x : Double) : 0 ≤ x.size := by
  unfold size
  positivity

theorem size_lt (x : Double) : x.size < 2 ^ (x.exponent + 53) := by
  have hm : (x.mantissa : ℚ) < 2 ^ (53 : ℤ) := by exact_mod_cast x.canonical.1
  rw [size, add_comm, zpow_add₀ two_ne_zero]
  gcongr

theorem toRat_neg (x : Double) : x.neg.toRat = -x.toRat := by
  unfold toRat
  cases h : x.negative <;> simp [neg, h, size]

/-- From a positive number, a number of the other sign is further away than its size. -/
theorem toRat_eq_size_or_lt (x : Double) {q : ℚ} (hq : 0 < q) :
    x.toRat = x.size ∨ |x.size - q| < |x.toRat - q| := by
  rcases x.size_nonneg.eq_or_lt with h0 | h0
  · left
    unfold toRat
    split <;> linarith
  · unfold toRat
    split
    · right
      rw [abs_of_nonpos (show -x.size - q ≤ 0 by linarith), abs_lt]
      constructor <;> linarith
    · exact .inl rfl

theorem Nearest.neg {x : Double} {q : ℚ} (h : x.Nearest q) : x.neg.Nearest (-q) := by
  -- What is nearest to the one is nearest to the other with the other sign.
  have hs (y : Double) : |y.toRat - -q| = |y.neg.toRat - q| := by
    rw [toRat_neg, ← abs_neg]
    congr 1
    ring
  refine ⟨fun y => ?_, fun y hne he => ?_⟩
  · rw [hs, hs, neg_neg]
    exact h.closest y.neg
  · rw [hs, hs, neg_neg] at he
    refine h.even y.neg (fun e => hne ?_) he
    rw [toRat_neg] at e ⊢
    linarith

/-- What is nearest does not lie beyond another binary64 number, seen from the rational one. -/
theorem Nearest.le_toRat {x y : Double} {q : ℚ} (h : x.Nearest q) (hy : y.toRat ≤ q) :
    y.toRat ≤ x.toRat := by
  have hc := (neg_le_abs _).trans (h.closest y)
  rw [abs_of_nonpos (sub_nonpos.mpr hy)] at hc
  linarith

theorem Nearest.toRat_le {x y : Double} {q : ℚ} (h : x.Nearest q) (hy : q ≤ y.toRat) :
    x.toRat ≤ y.toRat := by
  have hc := (le_abs_self _).trans (h.closest y)
  rw [abs_of_nonneg (sub_nonneg.mpr hy)] at hc
  linarith

/-! ### Whole numbers nearest to a quotient -/

/-- A whole number nearest to a rational one, the even one of two. -/
structure Rounds (m : ℕ) (t : ℚ) : Prop where
  near : 2 * |(m : ℚ) - t| ≤ 1
  even : 2 * |(m : ℚ) - t| = 1 → m % 2 = 0

/-- A rounded division is off by half a unit at most. -/
theorem rounds_roundDiv (num : ℕ) {den : ℕ} (hd : 0 < den) :
    Rounds (roundDiv num den) (num / den) := by
  have hd' : (0 : ℚ) < den := by exact_mod_cast hd
  -- The part of a unit that a division without rounding leaves.
  obtain ⟨part, hp⟩ : ∃ part : ℚ, part = (num % den : ℕ) / den := ⟨_, rfl⟩
  have ht : (num : ℚ) / den = (num / den : ℕ) + part := by
    rw [hp]
    field_simp
    exact_mod_cast (Nat.div_add_mod' num den).symm.trans (by ring)
  have h0 : 0 ≤ part := by rw [hp]; positivity
  have h1 : part ≤ 1 := by
    rw [hp, div_le_one hd']
    exact_mod_cast (Nat.mod_lt num hd).le
  have hlt : 2 * part < 1 ↔ 2 * (num % den) < den := by
    rw [hp, ← mul_div_assoc, div_lt_one hd']
    exact_mod_cast Iff.rfl
  have hgt : 1 < 2 * part ↔ den < 2 * (num % den) := by
    rw [hp, ← mul_div_assoc, one_lt_div hd']
    exact_mod_cast Iff.rfl
  have hdown : |((num / den : ℕ) : ℚ) - num / den| = part := by
    rw [ht, sub_add_cancel_left, abs_neg, abs_of_nonneg h0]
  have hup : |((num / den + 1 : ℕ) : ℚ) - num / den| = 1 - part := by
    rw [ht, abs_of_nonneg (by push_cast; linarith)]
    push_cast
    ring
  simp only [roundDiv, ← hlt, ← hgt]
  split_ifs with hl hg he
  · exact ⟨by rw [hdown]; linarith, fun h => by rw [hdown] at h; linarith⟩
  · exact ⟨by rw [hup]; linarith, fun h => by rw [hup] at h; linarith⟩
  · exact ⟨by rw [hdown]; linarith, fun _ => he⟩
  · exact ⟨by rw [hup]; linarith, fun _ => by omega⟩

/-- No whole number is nearer than a rounded one. -/
theorem Rounds.le {m : ℕ} {t : ℚ} (h : Rounds m t) (k : ℤ) : |(m : ℚ) - t| ≤ |(k : ℚ) - t| := by
  by_cases hk : k = m
  · rw [hk]
    simp
  · have hone : (1 : ℚ) ≤ |(k : ℚ) - m| := by exact_mod_cast Int.one_le_abs (sub_ne_zero.mpr hk)
    have htri := abs_sub_le (k : ℚ) t m
    rw [abs_sub_comm t] at htri
    have hn := h.near
    linarith

/-- Another whole number that is as near is a tie, which goes to the even one. -/
theorem Rounds.even_of_eq {m : ℕ} {t : ℚ} (h : Rounds m t) {k : ℤ} (hk : k ≠ m)
    (he : |(k : ℚ) - t| = |(m : ℚ) - t|) : m % 2 = 0 := by
  have hone : (1 : ℚ) ≤ |(k : ℚ) - m| := by exact_mod_cast Int.one_le_abs (sub_ne_zero.mpr hk)
  have htri := abs_sub_le (k : ℚ) t m
  rw [abs_sub_comm t] at htri
  have hn := h.near
  exact h.even (by linarith)

/-! ### The last binary place -/

/-- **A last place for a magnitude**: in its units the magnitude has 53 binary places, or fewer if
it is the least place that there is. -/
structure Place (q : ℚ) (e : ℤ) : Prop where
  least : -1074 ≤ e
  lt : q < 2 ^ (e + 53)
  le : e = -1074 ∨ 2 ^ (e + 52) ≤ q

theorem scale_snd_pos {num den : ℕ} (hd : 0 < den) (e : ℤ) : 0 < (scale num den e).2 := by
  unfold scale
  split
  · exact Nat.mul_pos hd (Nat.two_pow_pos _)
  · exact hd

/-- Scaling divides by a power of two. -/
theorem scale_eq (num den : ℕ) (e : ℤ) :
    ((scale num den e).1 : ℚ) / (scale num den e).2 = num / den / 2 ^ e := by
  unfold scale
  split
  case isTrue he =>
    obtain ⟨k, rfl⟩ := Int.eq_ofNat_of_zero_le he
    simp [div_div]
  case isFalse he =>
    obtain ⟨k, hk⟩ := Int.eq_ofNat_of_zero_le (show 0 ≤ -e by omega)
    obtain rfl : e = -k := by omega
    simp [div_eq_mul_inv, mul_right_comm]

theorem two_zpow_log2_le {n : ℕ} (hn : 0 < n) : (2 : ℚ) ^ (n.log2 : ℤ) ≤ n := by
  rw [zpow_natCast]
  exact_mod_cast Nat.log2_self_le hn.ne'

theorem lt_two_zpow_log2 (n : ℕ) : (n : ℚ) < 2 ^ (n.log2 + 1 : ℤ) := by
  rw [← Nat.cast_succ, zpow_natCast]
  exact_mod_cast Nat.lt_log2_self

/-- A power of two lies below a quotient, and the next one above it. -/
theorem floorLog2_spec {num den : ℕ} (hn : 0 < num) (hd : 0 < den) :
    (2 : ℚ) ^ floorLog2 num den ≤ num / den ∧ (num : ℚ) / den < 2 ^ (floorLog2 num den + 1) := by
  have hd' : (0 : ℚ) < den := by exact_mod_cast hd
  have htwo : (2 : ℚ) ≠ 0 := by norm_num
  obtain ⟨guess, hg⟩ : ∃ guess : ℤ, guess = num.log2 - den.log2 := ⟨_, rfl⟩
  -- The logarithms of the two numbers place the quotient between powers two apart.
  have hlow : (2 : ℚ) ^ (guess - 1) ≤ num / den := by
    rw [le_div_iff₀ hd']
    calc (2 : ℚ) ^ (guess - 1) * den
        ≤ 2 ^ (guess - 1) * 2 ^ (den.log2 + 1 : ℤ) := by gcongr; exact (lt_two_zpow_log2 den).le
      _ = 2 ^ (num.log2 : ℤ) := by rw [← zpow_add₀ htwo]; congr 1; omega
      _ ≤ num := two_zpow_log2_le hn
  have hhigh : (num : ℚ) / den < 2 ^ (guess + 1) := by
    rw [div_lt_iff₀ hd']
    calc (num : ℚ) < 2 ^ (num.log2 + 1 : ℤ) := lt_two_zpow_log2 num
      _ = 2 ^ (guess + 1) * 2 ^ (den.log2 : ℤ) := by rw [← zpow_add₀ htwo]; congr 1; omega
      _ ≤ 2 ^ (guess + 1) * den := by gcongr; exact two_zpow_log2_le hd
  -- The power between them decides.
  have hscale : (scale num den guess).2 ≤ (scale num den guess).1 ↔
      (2 : ℚ) ^ guess ≤ num / den := by
    have hs : (0 : ℚ) < (scale num den guess).2 := by exact_mod_cast scale_snd_pos hd guess
    have hp : (0 : ℚ) < 2 ^ guess := by positivity
    rw [← one_le_div hp, ← scale_eq, one_le_div hs]
    exact_mod_cast Iff.rfl
  simp only [floorLog2, ← hg, hscale]
  split_ifs with h
  · exact ⟨h, hhigh⟩
  · rw [sub_add_cancel]
    exact ⟨hlow, lt_of_not_ge h⟩

/-- The place that a quotient is rounded at. -/
theorem place_max {num den : ℕ} (hn : 0 < num) (hd : 0 < den) :
    Place (num / den) (max (-1074) (floorLog2 num den - 52)) := by
  obtain ⟨hle, hlt⟩ := floorLog2_spec hn hd
  refine ⟨le_max_left _ _, hlt.trans_le ?_, ?_⟩
  · exact zpow_le_zpow_right₀ one_le_two (by omega)
  · rcases le_total (floorLog2 num den - 52) (-1074) with h | h
    · exact .inl (max_eq_left h)
    · right
      rw [max_eq_right h, sub_add_cancel]
      exact hle

/-! ### Rounding at a place -/

namespace Place

variable {q : ℚ} {e : ℤ} {m : ℕ}

theorem unit_pos (e : ℤ) : (0 : ℚ) < 2 ^ e := by
  positivity

/-- In units of the last place a magnitude is rounded to 53 binary places, or to the power of two
after them. -/
theorem rounded_le (h : Place q e) (hm : Rounds m (q / 2 ^ e)) : m ≤ 2 ^ 53 := by
  have hlt : q / 2 ^ e < 2 ^ 53 := by
    rw [div_lt_iff₀ (unit_pos e), ← zpow_natCast, ← zpow_add₀ two_ne_zero, add_comm]
    exact h.lt
  have hn := (le_abs_self _).trans (show |(m : ℚ) - q / 2 ^ e| ≤ 1 / 2 by linarith [hm.near])
  have hm' : (m : ℚ) < (2 ^ 53 + 1 : ℕ) := by push_cast; linarith
  exact Nat.lt_succ_iff.mp (by exact_mod_cast hm')

/-- It takes all 53 places, unless the last place is the least that there is. -/
theorem le_rounded (h : Place q e) (hm : Rounds m (q / 2 ^ e)) : e = -1074 ∨ 2 ^ 52 ≤ m := by
  refine h.le.imp_right fun hle => ?_
  have hle : (2 : ℚ) ^ 52 ≤ q / 2 ^ e := by
    rw [le_div_iff₀ (unit_pos e), ← zpow_natCast, ← zpow_add₀ two_ne_zero, add_comm]
    exact hle
  have hn := (neg_le_abs _).trans (show |(m : ℚ) - q / 2 ^ e| ≤ 1 / 2 by linarith [hm.near])
  have hm' : ((2 ^ 52 : ℕ) : ℚ) < (m + 1 : ℕ) := by push_cast; linarith
  exact Nat.lt_succ_iff.mp (by exact_mod_cast hm')

/-- A binary64 number is a multiple of the last place, or a multiple is nearer. -/
theorem exists_multiple (h : Place q e) (y : Double) :
    ∃ k : ℤ, y.size = k * 2 ^ e ∨ |k * 2 ^ e - q| < |y.size - q| := by
  rcases le_or_gt e y.exponent with he | he
  · obtain ⟨places, hp⟩ := Int.eq_ofNat_of_zero_le (Int.sub_nonneg.mpr he)
    refine ⟨y.mantissa * 2 ^ places, .inl ?_⟩
    rw [size, eq_add_of_sub_eq hp, zpow_add₀ two_ne_zero, zpow_natCast, ← mul_assoc]
    push_cast
    rfl
  · -- The number has more places, so it is less than the least power of two with these.
    refine ⟨2 ^ 52, .inr ?_⟩
    have hpow : ((2 ^ 52 : ℤ) : ℚ) * 2 ^ e = 2 ^ (e + 52) := by
      rw [add_comm, zpow_add₀ two_ne_zero]
      norm_num
    have hq : (2 : ℚ) ^ (e + 52) ≤ q := by
      refine h.le.resolve_left fun hl => ?_
      have hy := y.canonical.2.1
      omega
    have hy : y.size < 2 ^ (e + 52) :=
      y.size_lt.trans_le (zpow_le_zpow_right₀ one_le_two (by omega))
    rw [hpow, abs_of_nonpos (by linarith), abs_of_nonpos (by linarith)]
    linarith

/-- The rounded multiple of the last place is at least as near as any binary64 number, and in a tie
it is an even multiple. -/
theorem near (h : Place q e) (hm : Rounds m (q / 2 ^ e)) (y : Double) :
    |m * 2 ^ e - q| ≤ |y.size - q| ∧
      (y.size ≠ m * 2 ^ e → |y.size - q| = |m * 2 ^ e - q| → m % 2 = 0) := by
  have hu := unit_pos e
  -- Distances in units of the last place.
  have hd (a : ℚ) : |a * 2 ^ e - q| = |a - q / 2 ^ e| * 2 ^ e := by
    rw [← abs_of_pos hu, ← abs_mul, abs_of_pos hu, sub_mul, div_mul_cancel₀ _ hu.ne']
  obtain ⟨k, hk⟩ := h.exists_multiple y
  have hle : |m * 2 ^ e - q| ≤ |(k : ℚ) * 2 ^ e - q| := by
    rw [hd, hd]
    exact mul_le_mul_of_nonneg_right (hm.le k) hu.le
  rcases hk with hk | hk
  · rw [hk]
    refine ⟨hle, fun hne he => ?_⟩
    rw [hd, hd] at he
    refine hm.even_of_eq (fun hkm => hne ?_) (mul_right_cancel₀ hu.ne' he)
    rw [hkm, Int.cast_natCast]
  · exact ⟨hle.trans hk.le, fun _ he => absurd he (hle.trans_lt hk).ne'⟩

/-- **The rounded multiple of the last place is nearest**, if it is a binary64 number. -/
theorem nearest (h : Place q e) (hm : Rounds m (q / 2 ^ e)) (hq : 0 < q) {x : Double}
    (hx : x.toRat = m * 2 ^ e) (he : m % 2 = 0 → x.mantissa % 2 = 0) : x.Nearest q := by
  refine ⟨fun y => ?_, fun y hne heq => he ?_⟩
  · rw [hx]
    rcases y.toRat_eq_size_or_lt hq with hy | hy
    · rw [hy]
      exact (h.near hm y).1
    · exact (h.near hm y).1.trans hy.le
  · rw [hx] at hne heq
    rcases y.toRat_eq_size_or_lt hq with hy | hy
    · rw [hy] at hne heq
      exact (h.near hm y).2 hne heq
    · exact absurd heq ((h.near hm y).1.trans_lt hy).ne'

end Place

/-! ### Rounding a quotient -/

theorem ofParts?_eq_some_iff {negative : Bool} {mantissa : ℕ} {exponent : ℤ} {x : Double} :
    ofParts? negative mantissa exponent = some x ↔
      x.negative = negative ∧ x.mantissa = mantissa ∧ x.exponent = exponent := by
  obtain ⟨negative', mantissa', exponent', hc⟩ := x
  unfold ofParts?
  split
  · simp [eq_comm]
  case isFalse h =>
    refine ⟨fun hs => absurd hs.symm (Option.some_ne_none _), ?_⟩
    rintro ⟨-, rfl, rfl⟩
    exact absurd hc h

/-- A positive quotient is rounded at its last place, and the power of two after the 53 binary
places is moved to the next place. -/
theorem nearest?_eq_ofParts? {num den : ℕ} (hn : 0 < num) (hd : 0 < den) (negative : Bool) :
    ∃ e m, Place (num / den) e ∧ Rounds m (num / den / 2 ^ e) ∧ nearest? negative num den =
      if m = 2 ^ 53 then ofParts? negative (2 ^ 52) (e + 1) else ofParts? negative m e := by
  refine ⟨_, _, place_max hn hd, ?_, if_neg hn.ne'⟩
  rw [← scale_eq]
  exact rounds_roundDiv _ (scale_snd_pos hd _)

/-- A quotient is rounded to a number of the sign asked for. -/
theorem negative_of_nearest? {negative : Bool} {num den : ℕ} (hd : 0 < den) {x : Double}
    (h : nearest? negative num den = some x) : x.negative = negative := by
  rcases num.eq_zero_or_pos with rfl | hn
  · obtain rfl := Option.some.inj h
    rfl
  · obtain ⟨e, m, -, -, he⟩ := nearest?_eq_ofParts? hn hd negative
    rw [he] at h
    split at h <;> exact (ofParts?_eq_some_iff.mp h).1

/-- **A quotient is rounded to the nearest number.** -/
theorem nearest?_nearest {negative : Bool} {num den : ℕ} (hd : 0 < den) {x : Double}
    (h : nearest? negative num den = some x) :
    x.Nearest (if negative then -(num / den) else num / den) := by
  rcases num.eq_zero_or_pos with rfl | hn
  · -- No other number is as near to zero as zero itself.
    obtain rfl := Option.some.inj h
    have hz : (zero negative).toRat = 0 := by cases negative <;> simp [toRat, size, zero]
    have hq : (if negative then -(((0 : ℕ) : ℚ) / den) else (0 : ℕ) / den) = 0 := by simp
    rw [hq]
    exact ⟨fun y => by simp [hz], fun y hne he => absurd he (by simpa [hz] using hne)⟩
  · obtain ⟨e, m, hp, hm, he⟩ := nearest?_eq_ofParts? hn hd negative
    rw [he] at h
    have hq : (0 : ℚ) < num / den := by positivity
    have hs : x.size = m * 2 ^ e ∧ (m % 2 = 0 → x.mantissa % 2 = 0) := by
      split at h
      case isTrue hm =>
        obtain ⟨-, hmx, hex⟩ := ofParts?_eq_some_iff.mp h
        rw [size, hmx, hex, hm, zpow_add₀ two_ne_zero]
        norm_num
        ring
      case isFalse =>
        obtain ⟨-, hmx, hex⟩ := ofParts?_eq_some_iff.mp h
        rw [size, hmx, hex]
        exact ⟨rfl, id⟩
    have hx := negative_of_nearest? hd (he ▸ h)
    cases negative with
    | false =>
      have ht : x.toRat = m * 2 ^ e := by rw [toRat, hx, ← hs.1]; rfl
      exact hp.nearest hm hq ht hs.2
    | true =>
      -- The number of the other sign is the nearest to the positive quotient.
      have ht : x.neg.toRat = m * 2 ^ e := by rw [toRat_neg, toRat, hx, ← hs.1]; simp
      simpa using (hp.nearest hm hq ht hs.2).neg

/-- A quotient that is not too large is rounded to some number. -/
theorem exists_nearest? (negative : Bool) {num den : ℕ} (hd : 0 < den)
    (hlt : (num : ℚ) / den < 2 ^ 1023) : ∃ x, nearest? negative num den = some x := by
  rcases num.eq_zero_or_pos with rfl | hn
  · exact ⟨zero negative, rfl⟩
  · obtain ⟨e, m, hp, hm, he⟩ := nearest?_eq_ofParts? hn hd negative
    have hle := hp.rounded_le hm
    have hplace := hp.le_rounded hm
    have hleast := hp.least
    have hgreatest : e ≤ 970 := by
      rcases hp.le with rfl | hl
      · decide
      · have hpow : (2 : ℚ) ^ (e + 52) < 2 ^ (1023 : ℤ) := hl.trans_lt hlt
        have := (zpow_lt_zpow_iff_right₀ one_lt_two).mp hpow
        omega
    rw [he]
    split
    case isTrue => exact ⟨_, ofParts?_eq_some ⟨by decide, by omega, by omega, .inr (by decide)⟩⟩
    case isFalse hne => exact ⟨_, ofParts?_eq_some ⟨by omega, by omega, by omega, by omega⟩⟩

/-! ### Integers and sums -/

/-- A quotient with a sign is rounded to the nearest number. -/
theorem nearest?_nearest_int {num : ℤ} {den : ℕ} (hd : 0 < den) {x : Double}
    (h : nearest? (num < 0) num.natAbs den = some x) : x.Nearest (num / den) := by
  have hx := nearest?_nearest hd h
  rcases lt_or_ge num 0 with hn | hn
  · rw [Nat.cast_natAbs, abs_of_neg hn] at hx
    simpa [hn, neg_div] using hx
  · rw [Nat.cast_natAbs, abs_of_nonneg hn] at hx
    simpa [not_lt.mpr hn] using hx

/-- An integer is rounded to the nearest number. -/
theorem ofInt?_nearest {n : ℤ} {x : Double} (h : ofInt? n = some x) : x.Nearest n := by
  simpa using nearest?_nearest_int one_pos h

/-- An integer that is not too large is rounded to some number. -/
theorem exists_ofInt? {n : ℤ} (hn : |(n : ℚ)| < 2 ^ 1023) : ∃ x, ofInt? n = some x := by
  refine exists_nearest? _ one_pos ?_
  simpa [Nat.cast_natAbs] using hn

/-- An integer of records is rounded to some number. -/
theorem exists_ofInt?_of_inRange {n : ℤ} (h : Number.InRange n) : ∃ x, ofInt? n = some x := by
  have hn : |n| ≤ 2 ^ 64 := abs_le.mpr ⟨by linarith [h.1], h.2.le⟩
  have hle : |(n : ℚ)| ≤ 2 ^ 64 := by exact_mod_cast hn
  exact exists_ofInt? (hle.trans_lt (pow_lt_pow_right₀ one_lt_two (by decide)))

/-- A sum with an integer is a quotient. -/
theorem exists_addInt?_eq (x : Double) (k : ℤ) :
    ∃ (num : ℤ) (den : ℕ), 0 < den ∧ (num : ℚ) / den = x.toRat + k ∧
      x.addInt? k = nearest? (num < 0) num.natAbs den := by
  have hd : 0 < x.magnitude.2 := scale_snd_pos one_pos _
  have hd' : (x.magnitude.2 : ℚ) ≠ 0 := by exact_mod_cast hd.ne'
  have hs : (x.magnitude.1 : ℚ) / x.magnitude.2 = x.size := by
    rw [magnitude, scale_eq, zpow_neg, div_inv_eq_mul, Nat.cast_one, div_one, size]
  refine ⟨(if x.negative then -(x.magnitude.1 : ℤ) else x.magnitude.1) + k * x.magnitude.2,
    x.magnitude.2, hd, ?_, rfl⟩
  push_cast
  rw [add_div, mul_div_cancel_right₀ _ hd', toRat, ← hs]
  cases x.negative <;> simp [neg_div]

/-- The sum with an integer is rounded to the nearest number. -/
theorem addInt?_nearest {x y : Double} {k : ℤ} (h : x.addInt? k = some y) :
    y.Nearest (x.toRat + k) := by
  obtain ⟨num, den, hd, hq, he⟩ := exists_addInt?_eq x k
  rw [← hq]
  exact nearest?_nearest_int hd (he.symm.trans h)

/-- A sum that is not too large is rounded to some number. -/
theorem exists_addInt? {x : Double} {k : ℤ} (h : |x.toRat + k| < 2 ^ 1023) :
    ∃ y, x.addInt? k = some y := by
  obtain ⟨num, den, hd, hq, he⟩ := exists_addInt?_eq x k
  rw [he]
  refine exists_nearest? _ hd ?_
  rwa [← hq, abs_div, Nat.abs_cast, ← Int.cast_abs, ← Nat.cast_natAbs] at h

/-! ### Large numbers -/

/-- Of two numbers of one size none has more places. -/
theorem exponent_le_of_size_eq {x y : Double} (h : x.size = y.size) : y.exponent ≤ x.exponent := by
  by_contra hlt
  have hle : (2 : ℚ) ^ (x.exponent + 53) ≤ y.size := by
    have hm : (2 : ℚ) ^ (52 : ℤ) ≤ y.mantissa := by
      have hl := x.canonical.2.1
      have hy : 2 ^ 52 ≤ y.mantissa := y.canonical.2.2.2.resolve_left (by omega)
      exact_mod_cast hy
    calc (2 : ℚ) ^ (x.exponent + 53) ≤ 2 ^ (52 + y.exponent) :=
          zpow_le_zpow_right₀ one_le_two (by omega)
      _ = 2 ^ (52 : ℤ) * 2 ^ y.exponent := zpow_add₀ two_ne_zero _ _
      _ ≤ y.size := by unfold size; gcongr
  exact absurd (h ▸ x.size_lt) (not_lt.mpr hle)

/-- Numbers that stand for one rational number, other than zero, are the same. -/
theorem eq_of_toRat_eq {x y : Double} (h : x.toRat = y.toRat) (h0 : x.toRat ≠ 0) : x = y := by
  have hx := x.size_nonneg
  have hy := y.size_nonneg
  have hs : x.size = y.size ∧ x.negative = y.negative := by
    unfold toRat at h h0
    cases hnx : x.negative <;> cases hny : y.negative <;> simp [hnx, hny] at h h0 ⊢
    · exact h
    · exact h0 (by linarith)
    · exact h0 (by linarith)
    · exact h
  have he : x.exponent = y.exponent :=
    le_antisymm (exponent_le_of_size_eq hs.1.symm) (exponent_le_of_size_eq hs.1)
  have hm : x.mantissa = y.mantissa := by
    have hu : (2 : ℚ) ^ y.exponent ≠ 0 := by positivity
    have hm := hs.1
    rw [size, size, he] at hm
    exact_mod_cast mul_right_cancel₀ hu hm
  obtain ⟨negative, mantissa, exponent, hc⟩ := x
  obtain ⟨negative', mantissa', exponent', hc'⟩ := y
  simp only at hs he hm
  obtain ⟨-, rfl⟩ := hs
  subst he hm
  rfl

/-- A number that is large enough is a multiple of a power of two. -/
theorem exists_multiple_of_le {x : Double} (places : ℕ) (h : 2 ^ (places + 52) ≤ x.toRat) :
    ∃ k : ℤ, x.toRat = k * 2 ^ places := by
  have hs : x.toRat = x.size := by
    have h0 := x.size_nonneg
    have hp : (0 : ℚ) < 2 ^ (places + 52) := by positivity
    unfold toRat at h ⊢
    split at h
    · linarith
    · exact if_neg ‹_›
  have he : (places : ℤ) ≤ x.exponent := by
    have hlt : (2 : ℚ) ^ (places + 52 : ℤ) < 2 ^ (x.exponent + 53) := by
      have hx := x.size_lt
      rw [hs] at h
      exact_mod_cast h.trans_lt hx
    have := (zpow_lt_zpow_iff_right₀ one_lt_two).mp hlt
    omega
  obtain ⟨more, hm⟩ := Int.eq_ofNat_of_zero_le (Int.sub_nonneg.mpr he)
  refine ⟨x.mantissa * 2 ^ more, ?_⟩
  rw [hs, size, eq_add_of_sub_eq hm, zpow_add₀ two_ne_zero, zpow_natCast, zpow_natCast, ← mul_assoc]
  push_cast
  rfl

/-- **A large number swallows a small one**: a sum with an integer that is less than half of its
last places is the number itself. -/
theorem addInt?_eq_self {x : Double} {k : ℤ} (places : ℕ) (hx : 2 ^ (places + 53) ≤ x.toRat)
    (hk : 2 * |(k : ℚ)| < 2 ^ places) (hlt : |x.toRat + k| < 2 ^ 1023) :
    x.addInt? k = some x := by
  obtain ⟨y, hy⟩ := exists_addInt? hlt
  have hd : |y.toRat - x.toRat| < 2 ^ places := by
    have hc := (addInt?_nearest hy).closest x
    have htri := abs_sub_le y.toRat (x.toRat + k) x.toRat
    simp only [sub_add_cancel_left, add_sub_cancel_left, abs_neg] at hc htri
    linarith
  have hp : (0 : ℚ) < 2 ^ places := by positivity
  have hpow : (2 : ℚ) ^ (places + 53) = 2 ^ 53 * 2 ^ places := by ring
  have hpow' : (2 : ℚ) ^ (places + 52) = 2 ^ 52 * 2 ^ places := by ring
  have hyl := (abs_lt.mp hd).1
  obtain ⟨a, ha⟩ := exists_multiple_of_le (x := x) places (by linarith)
  obtain ⟨b, hb⟩ := exists_multiple_of_le (x := y) places (by linarith)
  -- Both are multiples of one power of two, and less than that apart.
  have hab : b = a := by
    rw [ha, hb, ← sub_mul, abs_mul, abs_of_pos hp] at hd
    have hone : |(b : ℚ) - a| < 1 := by nlinarith
    have hone' : |b - a| < 1 := by exact_mod_cast hone
    exact sub_eq_zero.mp (Int.abs_lt_one_iff.mp hone')
  have hxy : x = y := eq_of_toRat_eq (by rw [ha, hb, hab]) (by linarith)
  rw [hy, hxy]

end Reshape.Double
