import Mathlib.Data.Nat.Cast.Order.Field
import TieredTerms.Number.Decimal
import TieredTerms.Proofs.Number.PlainDecimal
import TieredTerms.Proofs.Number.Sides

/-!
# Decimal numbers as doubles

What the double is that a decimal number is read as.

* `Decimal.toRat?_toBinary64` is its value, for numbers that are neither too large nor too small.
* `Decimal.IsPlain.within` and `Decimal.IsModerate.within` bound it.
* `Decimal.onSide_toBinary64` is its side of zero, for numbers of any size, and
  `Decimal.beyond_toBinary64` keeps it away from zero.
-/

namespace TieredTerms.Decimal

/-- A magnitude is below the power of ten of its first digit. -/
theorem magnitude_lt (d : Decimal) :
    (d.coefficient : Rat) * 10 ^ d.exponent < 10 ^ (d.exponent + decimalLength d.coefficient) := by
  have hlt := lt_pow_decimalLength d.coefficient
  have hcast : (d.coefficient : Rat) < 10 ^ (decimalLength d.coefficient : Int) := by
    rw [zpow_natCast]
    exact_mod_cast hlt
  rw [add_comm, zpow_add₀ (by norm_num)]
  gcongr

/-- A magnitude that is not zero is at least the power of ten at its first digit. -/
theorem le_magnitude {d : Decimal} (hzero : d.isZero = false) :
    (10 : Rat) ^ (d.exponent + decimalLength d.coefficient - 1) ≤
      d.coefficient * 10 ^ d.exponent := by
  have hlength := decimalLength_pos d.coefficient
  have hlower : 10 ^ (decimalLength d.coefficient - 1) ≤ d.coefficient := by
    rw [isZero, beq_eq_false_iff_ne] at hzero
    exact (lt_decimalLength_iff hzero).mp (by omega)
  calc (10 : Rat) ^ (d.exponent + decimalLength d.coefficient - 1)
      = 10 ^ (decimalLength d.coefficient - 1) * 10 ^ d.exponent := by
        rw [← zpow_natCast, ← zpow_add₀ (by norm_num)]
        congr 1
        omega
    _ ≤ d.coefficient * 10 ^ d.exponent := by
        gcongr
        exact_mod_cast hlower

/-- A magnitude below `10 ^ 300` is far below the largest double. -/
theorem magnitude_lt_two_pow {d : Decimal} (h : d.exponent + decimalLength d.coefficient ≤ 300) :
    (d.coefficient : Rat) * 10 ^ d.exponent < 2 ^ (1000 : Int) := by
  calc (d.coefficient : Rat) * 10 ^ d.exponent
      < 10 ^ (d.exponent + decimalLength d.coefficient) := d.magnitude_lt
    _ ≤ 10 ^ (3 * 100 : Int) := zpow_le_zpow_right₀ (by norm_num) h
    _ = ((10 : Rat) ^ (3 : Int)) ^ (100 : Int) := zpow_mul _ _ _
    _ ≤ ((2 : Rat) ^ (10 : Int)) ^ (100 : Int) := by
      apply zpow_le_zpow_left₀ (by norm_num) (by norm_num) (by norm_num)
    _ = 2 ^ (1000 : Int) := by
      rw [← zpow_mul]
      congr 1

/-- The double nearest to a decimal number that is neither too large nor too small. -/
theorem toRat?_toBinary64 {d : Decimal}
    (hhigh : d.exponent + decimalLength d.coefficient ≤ 300)
    (hlow : -400 ≤ d.exponent + decimalLength d.coefficient) :
    d.toBinary64.toRat? =
      some (if d.negative then -Binary64.roundedMagnitude (d.coefficient * 10 ^ d.exponent)
        else Binary64.roundedMagnitude (d.coefficient * 10 ^ d.exponent)) := by
  by_cases hzero : d.isZero = true
  · have hcoefficient : d.coefficient = 0 := by simpa [isZero] using hzero
    rw [toBinary64, if_pos hzero, hcoefficient]
    simp [Binary64.roundedMagnitude]
  · rw [toBinary64, if_neg hzero, if_neg (by omega), if_neg (by omega)]
    exact Binary64.toRat?_ofMagnitude d.negative (magnitude_lt_two_pow hhigh) (by norm_num)

/-- A natural number that a double holds is read exactly. -/
theorem toRat?_toBinary64_natural {n : Nat} (h : n < 2 ^ 53) :
    (toBinary64 ⟨false, n, 0⟩).toRat? = some (n : Rat) := by
  have hlength : decimalLength n ≤ 16 := (decimalLength_le_iff (by decide)).mpr (by omega)
  rw [toRat?_toBinary64 (by dsimp only; omega) (by dsimp only; omega)]
  simp [Binary64.roundedMagnitude_of_representable (Binary64.representable_natCast h)]

theorem toBinary64_of_isZero {d : Decimal} (h : d.isZero = true) :
    d.toBinary64.toRat? = some 0 := by
  rw [toBinary64, if_pos h, Binary64.toRat?_zero]

/-! ## Bounds -/

/-- Rounding at most doubles the bound of a magnitude. -/
theorem within_toBinary64 {d : Decimal} {k : Int}
    (hlength : d.exponent + decimalLength d.coefficient ≤ 300)
    (hbound : (d.coefficient : Rat) * 10 ^ d.exponent < 2 ^ k) (hlow : -1021 ≤ k)
    (hhigh : k ≤ 1023) : Binary64.Within (k + 1) d.toBinary64 := by
  have hnonneg : (0 : Rat) ≤ d.coefficient * 10 ^ d.exponent := by positivity
  by_cases hsmall : d.exponent + decimalLength d.coefficient < -400
  · refine ⟨0, ?_, by rw [abs_zero]; positivity⟩
    rw [toBinary64]
    split_ifs
    · exact Binary64.toRat?_zero _
    · omega
    · exact Binary64.toRat?_zero _
  · have hround := Binary64.within_ofRat (by rwa [abs_of_nonneg hnonneg]) hlow hhigh
    have hlt := hround.abs_lt (Binary64.toRat?_ofRat (by rwa [abs_of_nonneg hnonneg]) hhigh)
    rw [Binary64.rounded_of_nonneg hnonneg] at hlt
    refine ⟨_, toRat?_toBinary64 hlength (not_lt.mp hsmall), ?_⟩
    split_ifs
    · rwa [abs_neg]
    · exact hlt

/-- A plain number is a finite double. -/
theorem IsPlain.within {d : Decimal} (h : d.IsPlain) : Binary64.Within 95 d.toBinary64 := by
  have hlength := h.digits
  have hexponent := h.exponent_nonpos
  rw [precision] at hlength
  have hbound : (d.coefficient : Rat) * 10 ^ d.exponent < 2 ^ (94 : Int) := by
    calc (d.coefficient : Rat) * 10 ^ d.exponent
        < 10 ^ (d.exponent + decimalLength d.coefficient) := d.magnitude_lt
      _ ≤ 10 ^ (28 : Int) := zpow_le_zpow_right₀ (by norm_num) (by omega)
      _ < 2 ^ (94 : Int) := by norm_num
  exact within_toBinary64 (by omega) hbound (by norm_num) (by norm_num)

/-- A magnitude below `10 ^ 300`. -/
def IsModerate (d : Decimal) : Prop :=
  |d.toRat| < 10 ^ (300 : Int)

theorem abs_toRat (d : Decimal) : |d.toRat| = d.coefficient * 10 ^ d.exponent := by
  have hnonneg : (0 : Rat) ≤ d.coefficient * 10 ^ d.exponent := by positivity
  rw [toRat]
  split_ifs
  · rw [abs_neg, abs_of_nonneg hnonneg]
  · exact abs_of_nonneg hnonneg

/-- Where the first digit of a number of bounded magnitude stands. -/
theorem leading_le_of_abs_lt {d : Decimal} {k : Int} (h : |d.toRat| < 10 ^ k)
    (hzero : d.isZero = false) : d.exponent + decimalLength d.coefficient ≤ k := by
  have hpower : (10 : Rat) ^ (d.exponent + decimalLength d.coefficient - 1) < 10 ^ k := by
    calc (10 : Rat) ^ (d.exponent + decimalLength d.coefficient - 1)
        ≤ d.coefficient * 10 ^ d.exponent := le_magnitude hzero
      _ < 10 ^ k := by
          rw [← abs_toRat]
          exact h
  have hlt := (zpow_lt_zpow_iff_right₀ (by norm_num : (1 : Rat) < 10)).mp hpower
  omega

/-- The first digit of a number of moderate size. -/
theorem IsModerate.leading_le {d : Decimal} (h : d.IsModerate) (hzero : d.isZero = false) :
    d.exponent + decimalLength d.coefficient ≤ 300 :=
  leading_le_of_abs_lt h hzero

/-- Cutting off the fraction does not add to the magnitude. -/
theorem natAbs_truncate_le (d : Decimal) : (d.truncate.natAbs : Rat) ≤ |d.toRat| := by
  have hcut : d.truncate.natAbs = if 0 ≤ d.exponent then d.coefficient * 10 ^ d.exponent.toNat
      else d.coefficient / 10 ^ (-d.exponent).toNat := by
    simp only [truncate, Nat.pow_eq]
    generalize (if 0 ≤ d.exponent then _ else _ : Nat) = magnitude
    split_ifs
    · rw [Int.natAbs_neg, Int.natAbs_natCast]
    · exact Int.natAbs_natCast magnitude
  rw [hcut, abs_toRat]
  split_ifs with hexponent
  · rw [Nat.cast_mul, Nat.cast_pow, ← zpow_natCast, Int.toNat_of_nonneg hexponent]
    rfl
  · refine le_of_le_of_eq Nat.cast_div_le ?_
    rw [Nat.cast_pow, ← zpow_natCast, Int.toNat_of_nonneg (by omega), zpow_neg, div_inv_eq_mul]
    rfl

theorem natAbs_truncate_lt {d : Decimal} {k : Nat} (h : |d.toRat| < 10 ^ (k : Int)) :
    d.truncate.natAbs < 10 ^ k := by
  rw [zpow_natCast] at h
  exact_mod_cast lt_of_le_of_lt d.natAbs_truncate_le h

/-- A number of moderate size is a finite double. -/
theorem IsModerate.within {d : Decimal} (h : d.IsModerate) : Binary64.Within 1001 d.toBinary64 := by
  cases hzero : d.isZero with
  | true => exact ⟨0, toBinary64_of_isZero hzero, by rw [abs_zero]; positivity⟩
  | false =>
    have hlength := h.leading_le hzero
    exact within_toBinary64 hlength (magnitude_lt_two_pow hlength) (by norm_num) (by norm_num)

/-! ## Sides of zero -/

/-- The double nearest to a number lies on the side of its sign. -/
theorem onSide_toBinary64 {d : Decimal} {negative : Bool}
    (h : d.negative = negative ∨ d.isZero = true) : d.toBinary64.OnSide negative := by
  rw [toBinary64]
  split_ifs with hzero
  · exact .inr rfl
  · exact h.resolve_right hzero
  · exact .inr rfl
  · rw [h.resolve_right hzero]
    exact Binary64.onSide_ofMagnitude negative _

/-- The double nearest to a number that has a digit among the first seven places behind the point,
or before the point, is away from zero. -/
theorem beyond_toBinary64 {d : Decimal} (hzero : d.isZero = false)
    (hleading : -7 < d.exponent + decimalLength d.coefficient) :
    d.toBinary64.Beyond d.negative (-24) := by
  have hmagnitude : (2 : Rat) ^ (-24 : Int) ≤ d.coefficient * 10 ^ d.exponent := by
    calc (2 : Rat) ^ (-24 : Int) ≤ 10 ^ (-7 : Int) := by norm_num
      _ ≤ 10 ^ (d.exponent + decimalLength d.coefficient - 1) :=
          zpow_le_zpow_right₀ (by norm_num) (by omega)
      _ ≤ d.coefficient * 10 ^ d.exponent := le_magnitude hzero
  rw [toBinary64, if_neg (by simp [hzero])]
  split_ifs with hhigh hlow
  · rfl
  · omega
  · exact Binary64.beyond_ofMagnitude d.negative hmagnitude (by decide)

end TieredTerms.Decimal
