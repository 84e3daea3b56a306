-- SUMMARY: A decimal is in range exactly if its value is below the bound at which doubles overflow.
import Mathlib.Algebra.Order.Field.Rat
import Mathlib.Algebra.Order.Field.Power
import Mathlib.Tactic.NormNum
import Switchboard.Decimal.Binary64

/-!
# Decimals in range

The nearest double to a number is finite if the number is below `overflowBound` in
magnitude. `Decimal.inRange` decides that without the value where the number of
digits and the exponent tell already, which `magnitude_bounds` justifies.
-/

namespace Switchboard

namespace Binary64

variable {n : Nat}

theorem lt_pow_digitCount (n : Nat) : n < 10 ^ digitCount n := by
  by_cases hn : n = 0
  · simp [hn, digitCount]
  · rw [digitCount, if_neg hn]
    exact (Nat.length_toDigits_le_iff (by decide) Nat.length_toDigits_pos).mp le_rfl

theorem pow_le_of_digitCount (hn : n ≠ 0) {k : Nat} (hk : k < digitCount n) : 10 ^ k ≤ n := by
  rw [digitCount, if_neg hn] at hk
  by_contra hlt
  rcases Nat.eq_zero_or_pos k with rfl | hpos
  · omega
  · have hle := (Nat.length_toDigits_le_iff (by decide) hpos).mpr (Nat.lt_of_not_le hlt)
    omega

theorem digitCount_pos (hn : n ≠ 0) : 0 < digitCount n := by
  rw [digitCount, if_neg hn]
  exact Nat.length_toDigits_pos

end Binary64

namespace Decimal

open Binary64

/-- The value without its sign. -/
def magnitude (d : Decimal) : ℚ := d.digits * 10 ^ d.exponent

/-- The number that the decimal writes. -/
def value (d : Decimal) : ℚ := if d.negative then -d.magnitude else d.magnitude

variable {d : Decimal}

theorem magnitude_nonneg (d : Decimal) : 0 ≤ d.magnitude := by
  unfold magnitude
  positivity

theorem abs_value (d : Decimal) : |d.value| = d.magnitude := by
  unfold value
  split
  · rw [abs_neg, abs_of_nonneg d.magnitude_nonneg]
  · rw [abs_of_nonneg d.magnitude_nonneg]

/-- The number of digits and the exponent tell the value up to a factor of ten. -/
theorem magnitude_bounds (hd : d.digits ≠ 0) :
    (10 : ℚ) ^ ((digitCount d.digits : Int) + d.exponent - 1) ≤ d.magnitude ∧
      d.magnitude < (10 : ℚ) ^ ((digitCount d.digits : Int) + d.exponent) := by
  have hpos := digitCount_pos hd
  have hlow : ((10 : ℚ) ^ (digitCount d.digits - 1)) ≤ d.digits := by
    exact_mod_cast pow_le_of_digitCount hd (k := digitCount d.digits - 1) (by omega)
  have hhigh : (d.digits : ℚ) < 10 ^ digitCount d.digits := by
    exact_mod_cast lt_pow_digitCount d.digits
  have hscale : (0 : ℚ) < 10 ^ d.exponent := by positivity
  constructor
  · calc (10 : ℚ) ^ ((digitCount d.digits : Int) + d.exponent - 1)
        = 10 ^ (digitCount d.digits - 1) * 10 ^ d.exponent := by
          rw [← zpow_natCast, ← zpow_add₀ (by norm_num)]
          congr 1
          omega
      _ ≤ d.digits * 10 ^ d.exponent := mul_le_mul_of_nonneg_right hlow hscale.le
  · calc (d.digits : ℚ) * 10 ^ d.exponent
        < 10 ^ digitCount d.digits * 10 ^ d.exponent := mul_lt_mul_of_pos_right hhigh hscale
      _ = 10 ^ ((digitCount d.digits : Int) + d.exponent) := by
          rw [← zpow_natCast, ← zpow_add₀ (by norm_num)]

theorem overflowBound_lt : (overflowBound : ℚ) < 10 ^ (400 : Int) := by
  have h : overflowBound < 10 ^ 400 := by decide +kernel
  exact_mod_cast h

theorem one_lt_overflowBound : (1 : ℚ) < overflowBound := by
  have h : 1 < overflowBound := by decide +kernel
  exact_mod_cast h

theorem magnitude_lt_iff_of_nonneg (he : 0 ≤ d.exponent) :
    d.magnitude < overflowBound ↔ d.digits * Nat.pow 10 d.exponent.toNat < overflowBound := by
  have hvalue : d.magnitude = ((d.digits * Nat.pow 10 d.exponent.toNat : Nat) : ℚ) := by
    rw [magnitude, ← Int.toNat_of_nonneg he, zpow_natCast, Int.toNat_natCast, Nat.pow_eq]
    push_cast
    rfl
  rw [hvalue, Nat.cast_lt]

theorem magnitude_lt_iff_of_neg (he : d.exponent < 0) :
    d.magnitude < overflowBound ↔ d.digits < overflowBound * Nat.pow 10 (-d.exponent).toNat := by
  have hpos : (0 : ℚ) < 10 ^ (-d.exponent).toNat := by positivity
  have hvalue : d.magnitude = d.digits / 10 ^ (-d.exponent).toNat := by
    have hexponent : d.exponent = -((-d.exponent).toNat : Int) := by omega
    rw [magnitude, hexponent, zpow_neg, zpow_natCast, ← hexponent, div_eq_mul_inv]
  rw [hvalue, div_lt_iff₀ hpos, Nat.pow_eq]
  exact_mod_cast Iff.rfl

/-- A decimal is in range exactly if doubles do not overflow at its value. -/
theorem inRange_iff (d : Decimal) : d.inRange ↔ |d.value| < overflowBound := by
  rw [abs_value]
  by_cases hd : d.digits = 0
  · have hsize : d.size = .zero := by simp only [size, hd, if_true]
    have hzero : d.magnitude = 0 := by rw [magnitude, hd, Nat.cast_zero, zero_mul]
    refine iff_of_true (by simp only [inRange, hsize]) ?_
    rw [hzero]
    exact zero_lt_one.trans one_lt_overflowBound
  obtain ⟨hlow, hhigh⟩ := magnitude_bounds hd
  by_cases hhuge : 400 < (digitCount d.digits : Int) + d.exponent
  · have hsize : d.size = .huge := by simp only [size, hd, hhuge, if_false, if_true]
    have hscale : (10 : ℚ) ^ (400 : Int) ≤ d.magnitude :=
      (zpow_le_zpow_right₀ (by norm_num) (by omega)).trans hlow
    refine iff_of_false (by simp only [inRange, hsize, Bool.false_eq_true, not_false_eq_true]) ?_
    exact not_lt.mpr (overflowBound_lt.le.trans hscale)
  by_cases htiny : (digitCount d.digits : Int) + d.exponent < -400
  · have hsize : d.size = .tiny := by simp only [size, hd, hhuge, htiny, if_false, if_true]
    have hscale : (10 : ℚ) ^ ((digitCount d.digits : Int) + d.exponent) ≤ 1 :=
      zpow_le_one_of_nonpos₀ (by norm_num) (by omega)
    refine iff_of_true (by simp only [inRange, hsize]) ?_
    exact (hhigh.trans_le hscale).trans one_lt_overflowBound
  have hsize : d.size = .moderate := by simp only [size, hd, hhuge, htiny, if_false]
  by_cases he : 0 ≤ d.exponent
  · simp only [inRange, hsize, he, if_true, decide_eq_true_eq]
    exact (magnitude_lt_iff_of_nonneg he).symm
  · simp only [inRange, hsize, he, if_false, decide_eq_true_eq]
    exact (magnitude_lt_iff_of_neg (lt_of_not_ge he)).symm

end Decimal

end Switchboard
