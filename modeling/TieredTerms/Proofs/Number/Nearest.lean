import TieredTerms.Number.Rounding
import Mathlib.Algebra.Order.Floor.Ring
import Mathlib.Algebra.Order.Field.Power
import Mathlib.Data.Rat.Floor
import Mathlib.Tactic.Linarith

/-!
# Rounding to the nearest integer

What `nearestEven` and `floorLog2` compute, said without their definitions.

* `abs_nearestEven_sub_le`: the result is at most one half away.
* `nearestEven_eq_of_abs_sub_lt`: an integer closer than one half is the result.
* `two_pow_floorLog2_le` and `lt_two_pow_floorLog2_succ` place a positive rational between two
  powers of two.
-/

namespace TieredTerms

/-! ## The nearest integer -/

/-- Rounding moves a rational by at most one half. -/
theorem abs_nearestEven_sub_le (q : Rat) : |(nearestEven q : Rat) - q| ≤ 1 / 2 := by
  have hlow : (q.floor : Rat) ≤ q := Rat.floor_le q
  have hhigh : q < q.floor + 1 := by
    have h := Rat.lt_floor_add_one q
    push_cast at h
    exact h
  unfold nearestEven
  dsimp only
  split_ifs <;> push_cast <;> rw [abs_le] <;> constructor <;> linarith

/-- An integer closer than one half is the one that a rational is rounded to. -/
theorem nearestEven_eq_of_abs_sub_lt {q : Rat} {n : Int} (h : |q - n| < 1 / 2) :
    nearestEven q = n := by
  have hround := abs_le.mp (abs_nearestEven_sub_le q)
  have hn := abs_lt.mp h
  have hlow : ((nearestEven q : Int) : Rat) < (n + 1 : Int) := by
    push_cast
    linarith
  have hhigh : ((n - 1 : Int) : Rat) < (nearestEven q : Int) := by
    push_cast
    linarith
  have hlow' := Int.cast_lt.mp hlow
  have hhigh' := Int.cast_lt.mp hhigh
  omega

/-- Rounding keeps an integer below a rational below it. -/
theorem le_nearestEven {q : Rat} {n : Int} (h : (n : Rat) ≤ q) : n ≤ nearestEven q := by
  have hfloor : n ≤ q.floor := Rat.le_floor_iff.mpr h
  unfold nearestEven
  dsimp only
  split_ifs <;> omega

/-- Rounding keeps an integer above a rational above it. -/
theorem nearestEven_le {q : Rat} {n : Int} (h : q ≤ n) : nearestEven q ≤ n := by
  by_contra hgt
  have hround := abs_le.mp (abs_nearestEven_sub_le q)
  have hstep : ((n + 1 : Int) : Rat) ≤ nearestEven q := Int.cast_le.mpr (by omega)
  push_cast at hstep
  -- A rational half a unit below the next integer is the integer itself.
  have hq : q = n := by linarith
  rw [hq, nearestEven_intCast] at hgt
  exact hgt le_rfl

/-! ## Powers of two around a rational -/

private theorem natCast_num_eq {q : Rat} (hq : 0 < q) : (q.num.natAbs : Rat) = q * q.den := by
  have hnum : 0 ≤ q.num := Rat.num_nonneg.mpr hq.le
  have hcast : (q.num.natAbs : Rat) = (q.num : Rat) := by
    rw [← Int.cast_natCast, Int.natAbs_of_nonneg hnum]
  rw [hcast, Rat.mul_den_eq_num]

private theorem two_pow_log2_bounds {n : Nat} (hn : n ≠ 0) :
    (2 : Rat) ^ (n.log2 : Int) ≤ n ∧ (n : Rat) < 2 ^ ((n.log2 : Int) + 1) := by
  constructor
  · have h := Nat.log2_self_le hn
    rw [zpow_natCast]
    exact_mod_cast h
  · have h : n < 2 ^ (n.log2 + 1) := Nat.lt_log2_self
    rw [show ((n.log2 : Int) + 1) = ((n.log2 + 1 : Nat) : Int) by push_cast; rfl, zpow_natCast]
    exact_mod_cast h

/-- The bit lengths of numerator and denominator leave one power of two on either side. -/
private theorem guess_bounds {q : Rat} (hq : 0 < q) :
    (2 : Rat) ^ ((q.num.natAbs.log2 : Int) - (q.den.log2 : Int) - 1) ≤ q ∧
      q < 2 ^ ((q.num.natAbs.log2 : Int) - (q.den.log2 : Int) + 1) := by
  have hnum : q.num.natAbs ≠ 0 := by
    rw [Int.natAbs_ne_zero]
    exact (Rat.num_pos.mpr hq).ne'
  have hden : q.den ≠ 0 := q.den_nz
  have hdenPos : (0 : Rat) < q.den := by exact_mod_cast q.den_pos
  obtain ⟨hnumLow, hnumHigh⟩ := two_pow_log2_bounds hnum
  obtain ⟨hdenLow, hdenHigh⟩ := two_pow_log2_bounds hden
  rw [natCast_num_eq hq] at hnumLow hnumHigh
  generalize (q.num.natAbs.log2 : Int) = a at *
  generalize (q.den.log2 : Int) = b at *
  constructor
  · have hsplit : (2 : Rat) ^ (a - b - 1) * 2 ^ (b + 1) = 2 ^ a := by
      rw [← zpow_add₀ (by norm_num)]
      congr 1
      omega
    have hprod : (2 : Rat) ^ (a - b - 1) * q.den ≤ q * q.den := by
      calc (2 : Rat) ^ (a - b - 1) * q.den
          ≤ 2 ^ (a - b - 1) * 2 ^ (b + 1) := by gcongr
        _ = 2 ^ a := hsplit
        _ ≤ q * q.den := hnumLow
    exact le_of_mul_le_mul_right hprod hdenPos
  · have hsplit : (2 : Rat) ^ (a - b + 1) * 2 ^ b = 2 ^ (a + 1) := by
      rw [← zpow_add₀ (by norm_num)]
      congr 1
      omega
    have hprod : q * q.den < 2 ^ (a - b + 1) * q.den := by
      calc q * q.den < 2 ^ (a + 1) := hnumHigh
        _ = 2 ^ (a - b + 1) * 2 ^ b := hsplit.symm
        _ ≤ 2 ^ (a - b + 1) * q.den := by gcongr
    exact lt_of_mul_lt_mul_right hprod hdenPos.le

/-- The power of two at `floorLog2` is at most the rational. -/
theorem two_pow_floorLog2_le {q : Rat} (hq : 0 < q) : (2 : Rat) ^ floorLog2 q ≤ q := by
  unfold floorLog2
  dsimp only
  split_ifs with h
  · exact h
  · exact (guess_bounds hq).1

/-- The next power of two is above the rational. -/
theorem lt_two_pow_floorLog2_succ {q : Rat} (hq : 0 < q) : q < 2 ^ (floorLog2 q + 1) := by
  unfold floorLog2
  dsimp only
  split_ifs with h
  · exact (guess_bounds hq).2
  · rw [sub_add_cancel]
    exact not_le.mp h

/-- A positive rational below a power of two has a smaller `floorLog2`. -/
theorem floorLog2_lt {q : Rat} (hq : 0 < q) {k : Int} (h : q < 2 ^ k) : floorLog2 q < k := by
  have hpow : (2 : Rat) ^ floorLog2 q < 2 ^ k := lt_of_le_of_lt (two_pow_floorLog2_le hq) h
  exact (zpow_lt_zpow_iff_right₀ (by norm_num)).mp hpow

end TieredTerms
