import TieredTerms.Proofs.Number.Nearest
import TieredTerms.Proofs.Number.PlainDecimal

/-!
# Numbers cut to the precision

Arithmetic cuts its results to the precision and to the smallest exponent.  What is cut has no
excess, so cutting it once more changes nothing, and its first digit moves up by one place at most.

* `Decimal.kept_le` bounds what is kept of a number by the digits that are left.
* `Decimal.decimalLength_round_le`, `Decimal.excess_round` and `Decimal.leading_round_le` are the
  bounds of a result.
* `Decimal.isInRange_abs` keeps a magnitude within the range of arithmetic.
* `Decimal.zero_sub_eq_round` is a number taken from zero.
* `Decimal.isPlain_abs`: a magnitude that is written without an exponent is a plain number.
-/

namespace TieredTerms.Decimal

/-! ## What is kept -/

/-- A number that is cut keeps at most the power of ten of the digits that are left. -/
theorem kept_le {n cut : Nat} (h : cut ≤ decimalLength n) :
    (nearestEven (mkRat n (10 ^ cut))).toNat ≤ 10 ^ (decimalLength n - cut) := by
  have hlt := lt_pow_decimalLength n
  have hquotient : mkRat n (10 ^ cut) ≤ ((10 ^ (decimalLength n - cut) : Nat) : Int) := by
    rw [Rat.mkRat_eq_div, div_le_iff₀ (by positivity)]
    have hpower : 10 ^ (decimalLength n - cut) * 10 ^ cut = 10 ^ decimalLength n := by
      rw [← pow_add, Nat.sub_add_cancel h]
    have hle : n ≤ 10 ^ (decimalLength n - cut) * 10 ^ cut := by
      rw [hpower]
      exact hlt.le
    exact_mod_cast hle
  exact Int.toNat_le.mpr (nearestEven_le hquotient)

/-- What is left of a number whose digits are more than what is cut off is not nothing. -/
theorem kept_pos {n cut : Nat} (h : cut < decimalLength n) (hpos : n ≠ 0) :
    0 < (nearestEven (mkRat n (10 ^ cut))).toNat := by
  have hle : 10 ^ cut ≤ n := (lt_decimalLength_iff hpos).mp h
  have hone : ((1 : Int) : Rat) ≤ mkRat n (10 ^ cut) := by
    rw [Rat.mkRat_eq_div, le_div_iff₀ (by positivity)]
    exact_mod_cast (by rwa [Nat.one_mul] : 1 * 10 ^ cut ≤ n)
  have hround := le_nearestEven hone
  omega

/-- A number whose digits are not all cut off is what is kept of them, unless this has one digit
more than the precision. -/
theorem round_of_kept {d : Decimal} {kept : Nat} (hcut : d.excess ≠ 0)
    (hlong : d.excess ≤ decimalLength d.coefficient)
    (hkept : (nearestEven (mkRat d.coefficient (10 ^ d.excess))).toNat = kept) :
    d.round = if kept = 10 ^ 28 then ⟨d.negative, 10 ^ 27, d.exponent + d.excess + 1⟩
      else ⟨d.negative, kept, d.exponent + d.excess⟩ := by
  rw [round, if_neg hcut]
  dsimp only
  rw [Nat.pow_eq, Nat.pow_eq, if_neg (not_lt.mpr hlong), hkept, precision]
  split_ifs with hpower
  · rw [hpower]
    rfl
  · rfl

/-- The two forms of a number that is cut: what is kept, or a power of ten with one digit less. -/
theorem round_cases (d : Decimal) :
    (d.excess = 0 ∧ d.round = d) ∨
    (d.excess ≠ 0 ∧ d.round = ⟨d.negative, 10 ^ 27, d.exponent + d.excess + 1⟩ ∧
      28 + d.excess ≤ decimalLength d.coefficient) ∨
    (d.excess ≠ 0 ∧ ∃ kept, d.round = ⟨d.negative, kept, d.exponent + d.excess⟩ ∧
      kept < 10 ^ 28 ∧
      (kept = 0 ∨ d.excess ≤ decimalLength d.coefficient ∧
        kept ≤ 10 ^ (decimalLength d.coefficient - d.excess)) ∧
      (d.excess < decimalLength d.coefficient → d.isZero = false → 0 < kept)) := by
  by_cases hcut : d.excess = 0
  · exact .inl ⟨hcut, by rw [round, if_pos hcut]⟩
  refine .inr ?_
  by_cases hshort : decimalLength d.coefficient < d.excess
  · rw [round, if_neg hcut]
    dsimp only
    rw [if_pos hshort, if_neg (by decide)]
    exact .inr ⟨hcut, 0, rfl, by decide, .inl rfl, fun h => absurd h (by omega)⟩
  · rw [round_of_kept hcut (not_lt.mp hshort) rfl]
    have hle := kept_le (not_lt.mp hshort)
    have hexcess : decimalLength d.coefficient - precision ≤ d.excess := le_max_left _ _
    have hbound : (nearestEven (mkRat d.coefficient (10 ^ d.excess))).toNat ≤ 10 ^ 28 :=
      hle.trans (Nat.pow_le_pow_right (by decide) (by rw [precision] at hexcess; omega))
    split_ifs with hpower
    · refine .inl ⟨hcut, rfl, ?_⟩
      rw [hpower] at hle
      have hdigits := (Nat.pow_le_pow_iff_right (by decide)).mp hle
      omega
    · refine .inr ⟨hcut, _, rfl, by omega, .inr ⟨not_lt.mp hshort, hle⟩, ?_⟩
      intro hlong hzero
      exact kept_pos hlong (by simpa [isZero] using hzero)

theorem negative_round (d : Decimal) : d.round.negative = d.negative := by
  rw [round]
  dsimp only
  split_ifs <;> rfl

theorem isZero_round {d : Decimal} (h : d.isZero = true) : d.round.isZero = true := by
  have hcoefficient : d.coefficient = 0 := by simpa [isZero] using h
  have hkept (cut : Nat) : (nearestEven (mkRat 0 (10 ^ cut))).toNat = 0 := by
    rw [Rat.zero_mkRat]
    exact congrArg Int.toNat (nearestEven_intCast 0)
  rw [round, isZero]
  simp only [hcoefficient, Nat.cast_zero, Nat.pow_eq, hkept, ite_self]
  split_ifs <;> simp_all [precision]

/-- The result of a cut has no more digits than the precision. -/
theorem decimalLength_round_le (d : Decimal) : decimalLength d.round.coefficient ≤ precision := by
  rcases d.round_cases with ⟨hcut, hround⟩ | ⟨-, hround, -⟩ | ⟨-, kept, hround, hkept, -⟩
  · rw [hround]
    simp only [excess, precision] at hcut ⊢
    omega
  · rw [hround]
    exact (decimalLength_le_iff (by decide)).mpr (Nat.pow_lt_pow_right (by decide) (by decide))
  · rw [hround]
    exact (decimalLength_le_iff (by decide)).mpr hkept

/-- The result of a cut has nothing to be cut off. -/
theorem excess_round (d : Decimal) : d.round.excess = 0 := by
  have hlength := d.decimalLength_round_le
  have hexponent : smallestExponent ≤ d.round.exponent := by
    rcases d.round_cases with ⟨hcut, hround⟩ | ⟨-, hround, -⟩ | ⟨-, kept, hround, -⟩
    all_goals
      rw [hround]
      simp only [excess, smallestExponent, largestExponent, precision] at *
      omega
  simp only [excess] at *
  omega

/-- A number without excess is its own magnitude, apart from the sign. -/
theorem abs_of_excess {d : Decimal} (h : d.excess = 0) : d.abs = { d with negative := false } := by
  have hexcess : excess { d with negative := false } = 0 := h
  rw [abs, round, if_pos hexcess]

@[simp] theorem abs_abs (d : Decimal) : d.abs.abs = d.abs := by
  have hexcess : d.abs.excess = 0 := excess_round _
  have hsign : d.abs.negative = false := negative_round _
  rw [abs_of_excess hexcess, ← hsign]

/-! ## The range of arithmetic -/

/-- A cut moves the first digit of a number up by one place at most. -/
theorem leading_round_le (d : Decimal) :
    d.round.isZero = true ∨
      d.round.exponent + decimalLength d.round.coefficient ≤
        d.exponent + decimalLength d.coefficient + 1 := by
  rcases d.round_cases with ⟨-, hround⟩ | ⟨-, hround, hdigits⟩ | ⟨-, kept, hround, hkept, hle, -⟩
  · right
    rw [hround]
    omega
  · right
    rw [hround]
    have hlength : decimalLength (10 ^ 27) = 28 := by decide
    dsimp only
    rw [hlength]
    omega
  · rw [hround]
    rcases hle with rfl | ⟨hlong, hle⟩
    · exact .inl rfl
    · right
      have hlength : decimalLength kept ≤ decimalLength d.coefficient - d.excess + 1 := by
        rw [decimalLength_le_iff (by omega)]
        exact lt_of_le_of_lt hle (Nat.pow_lt_pow_right (by decide) (by omega))
      dsimp only
      omega

/-- A number whose first digit stands below the largest exponent is in range when it is cut. -/
theorem isInRange_round {d : Decimal}
    (h : d.exponent + decimalLength d.coefficient ≤ largestExponent) :
    d.round.isInRange = true := by
  rw [isInRange, Bool.or_eq_true, decide_eq_true_eq]
  rcases d.leading_round_le with hzero | hle
  · exact .inl hzero
  · exact .inr (by omega)

theorem isInRange_abs {d : Decimal}
    (h : d.exponent + decimalLength d.coefficient ≤ largestExponent) : d.abs.isInRange = true :=
  isInRange_round h

/-! ## The other direction -/

/-- Taken from zero, a number without a sign and without zeros behind its digits gets a sign, and is
cut. -/
theorem zero_sub_eq_round {d : Decimal} (h : d.exponent ≤ 0)
    (hsign : d.negative = false ∨ d.isZero = true) :
    ofInt 0 - d = round ⟨!d.isZero, d.coefficient, d.exponent⟩ := by
  have hgrid : min (ofInt 0).exponent d.exponent = d.exponent := min_eq_right h
  have hstart : (ofInt 0).scaledTo d.exponent = 0 := by simp [scaledTo, ofInt]
  have hmagnitude : (0 - (d.coefficient : Int)).natAbs = d.coefficient := by omega
  have hparts : d.scaledTo d.exponent = d.coefficient ∧
      decide (0 - (d.coefficient : Int) < 0) = !d.isZero := by
    cases hzero : d.isZero with
    | true =>
      have hcoefficient : d.coefficient = 0 := by simpa [isZero] using hzero
      simp [scaledTo, hcoefficient]
    | false =>
      have hnonneg : d.negative = false := hsign.resolve_right (by simp [hzero])
      rw [isZero, beq_eq_false_iff_ne] at hzero
      refine ⟨by simp [scaledTo, hnonneg], decide_eq_true (by omega)⟩
  change Decimal.sub (ofInt 0) d = _
  simp only [Decimal.sub, hgrid, hparts.1, hstart, hparts.2, hmagnitude]

/-! ## Magnitudes that are written without an exponent -/

/-- What is left of a number that is not zero is zero only at the smallest exponent, and then it is
written with it. -/
theorem isZero_abs {d : Decimal} (h : 'E' ∉ d.abs.toText.toList) : d.abs.isZero = d.isZero := by
  have hcoefficient (e : Decimal) : e.isZero = true ↔ e.coefficient = 0 := by simp [isZero]
  rw [Bool.eq_iff_iff]
  constructor
  · intro hzero
    by_contra hne
    rw [Bool.not_eq_true] at hne
    rcases round_cases { d with negative := false } with ⟨-, hround⟩ | ⟨-, hround, -⟩ |
      ⟨hcut, kept, hround, -, -, hpos⟩
    · rw [abs, hround] at hzero
      rw [isZero] at hzero hne
      rw [hzero] at hne
      cases hne
    · rw [abs, hround, hcoefficient] at hzero
      exact absurd hzero (by positivity)
    · rw [abs, hround, hcoefficient] at hzero
      dsimp only at hzero
      subst hzero
      by_cases hlong : excess { d with negative := false } < decimalLength d.coefficient
      · exact absurd (hpos hlong hne) (lt_irrefl 0)
      · -- More is cut off than there are digits, so the cut is at the smallest exponent.
        apply h
        rw [abs, hround]
        apply mem_toText_of_scientific
        right
        have hlength := decimalLength_pos d.coefficient
        have hdigits : (Nat.toDigits 10 0).length = 1 := by decide
        simp only [hdigits]
        simp only [excess, smallestExponent, largestExponent, precision] at *
        omega
  · exact fun hzero => isZero_round hzero

/-- A number that is not zero and written without an exponent has a digit among the first seven
places behind the point, or before the point. -/
theorem leading_of_positional {d : Decimal} (h : 'E' ∉ d.abs.toText.toList)
    (hzero : d.isZero = false) : -7 < d.exponent + decimalLength d.coefficient := by
  have hlow : -6 < d.abs.exponent + decimalLength d.abs.coefficient := by
    rw [decimalLength_eq]
    by_contra hle
    exact h (mem_toText_of_scientific (.inr (not_lt.mp hle)))
  rcases leading_round_le { d with negative := false } with hround | hround
  · rw [← isZero_abs h] at hzero
    change d.abs.isZero = true at hround
    rw [hzero] at hround
    cases hround
  · change d.abs.exponent + decimalLength d.abs.coefficient ≤ _ at hround
    dsimp only at hround
    omega

/-- A magnitude that is written without an exponent is a plain number. -/
theorem isPlain_abs {d : Decimal} (h : 'E' ∉ d.abs.toText.toList) : d.abs.IsPlain := by
  have hsign : d.abs.negative = false := negative_round _
  exact ⟨by rw [isNegative, hsign, Bool.false_and], decimalLength_round_le _, h⟩

end TieredTerms.Decimal
