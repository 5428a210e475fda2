import TieredTerms.Number.Decimal
import TieredTerms.Proofs.Number.Digits

/-!
# Plain decimal numbers

A decimal number is plain where it is not negative, has no more digits than arithmetic keeps, and
is written without an exponent.  Cutting it to the precision leaves it alone, and its written form
is a row of digits with at most one point.

* `Decimal.IsPlain` is the property, `Decimal.IsPlain.exponent_nonpos` what it says of the exponent.
* `Decimal.IsPlain.abs_eq`: the magnitude has the same digits.
* `Decimal.IsPlain.abs_toText`: the written form, by its whole part and its fraction.
-/

namespace TieredTerms.Decimal

/-- Not negative, of at most `precision` digits, and written without an exponent. -/
structure IsPlain (d : Decimal) : Prop where
  nonneg : d.isNegative = false
  digits : decimalLength d.coefficient ≤ precision
  positional : 'E' ∉ d.toText.toList

/-- The written form has an exponent where the exponent asks for it. -/
theorem mem_toText_of_scientific {d : Decimal}
    (h : 0 < d.exponent ∨ d.exponent + (Nat.toDigits 10 d.coefficient).length ≤ -6) :
    'E' ∈ d.toText.toList := by
  have hlength : 0 < (Nat.toDigits 10 d.coefficient).length := Nat.length_toDigits_pos
  have hscientific : (decide (0 < d.exponent) ||
      decide (d.exponent + ((Nat.toDigits 10 d.coefficient).length : Int) ≤ -6)) = true := by
    rw [Bool.or_eq_true, decide_eq_true_iff, decide_eq_true_iff]
    exact h
  have hpower : d.exponent + ((Nat.toDigits 10 d.coefficient).length : Int) - 1 ≠ 0 := by omega
  simp only [toText, hscientific, if_true, if_neg hpower, String.toList_append, List.mem_append]
  right
  split_ifs
  · left
    decide
  · left
    decide

namespace IsPlain

variable {d : Decimal}

theorem exponent_nonpos (h : d.IsPlain) : d.exponent ≤ 0 := by
  by_contra hpos
  exact h.positional (mem_toText_of_scientific (Or.inl (by omega)))

theorem leading_gt (h : d.IsPlain) :
    -6 < d.exponent + (Nat.toDigits 10 d.coefficient).length := by
  by_contra hlow
  exact h.positional (mem_toText_of_scientific (Or.inr (by omega)))

/-- The fraction has at most as many places as a plain number has digits, and five zeros. -/
theorem neg_exponent_lt (h : d.IsPlain) : -34 < d.exponent := by
  have hlead := h.leading_gt
  have hdigits := h.digits
  rw [decimalLength_eq, precision] at hdigits
  omega

/-- Nothing is cut off of a plain number, whatever its sign. -/
theorem excess_eq (h : d.IsPlain) (negative : Bool) :
    excess ⟨negative, d.coefficient, d.exponent⟩ = 0 := by
  have hlow := h.neg_exponent_lt
  have hdigits := h.digits
  simp only [excess, smallestExponent, largestExponent, precision] at *
  omega

/-- The magnitude of a plain number has the same digits. -/
theorem abs_eq (h : d.IsPlain) : d.abs = ⟨false, d.coefficient, d.exponent⟩ := by
  rw [abs, round, if_pos (h.excess_eq false)]

/-- A plain number that is not zero has no sign. -/
theorem eq_of_ne_zero (h : d.IsPlain) (hne : d.isZero = false) :
    d = ⟨false, d.coefficient, d.exponent⟩ := by
  have hnonneg := h.nonneg
  rw [isNegative, hne] at hnonneg
  simp only [Bool.not_false, Bool.and_true] at hnonneg
  rw [← hnonneg]

end IsPlain

/-- A row of digits with a point before its fraction, if it has one. -/
def rowText (whole fraction : List Char) : List Char :=
  if fraction = [] then whole else whole ++ '.' :: fraction

/-- The positional form of a number whose exponent is not positive. -/
private theorem toText_positional {n : Nat} {exponent : Int} (hexp : exponent ≤ 0)
    (hlead : -6 < exponent + (Nat.toDigits 10 n).length) :
    ∃ whole fraction, AsciiDigits whole ∧ AsciiDigits fraction ∧ whole ≠ [] ∧
      (toText ⟨false, n, exponent⟩).toList = rowText whole fraction ∧
      digitsValue (whole ++ fraction) = n ∧ exponent = -(fraction.length : Int) := by
  have hdigits := asciiDigits_toDigits n
  have hvalue := digitsValue_toDigits n
  have hne : Nat.toDigits 10 n ≠ [] := Nat.toDigits_ne_nil
  have hscientific : (decide (0 < exponent) ||
      decide (exponent + ((Nat.toDigits 10 n).length : Int) ≤ -6)) = false := by
    rw [Bool.or_eq_false_iff, decide_eq_false_iff_not, decide_eq_false_iff_not]
    omega
  have htext : (toText ⟨false, n, exponent⟩).toList =
      (let digits := Nat.toDigits 10 n
        let point := exponent + digits.length
        if point ≤ 0 then '0' :: '.' :: (List.replicate (-point).toNat '0' ++ digits)
        else if digits.length ≤ point.toNat then
          digits ++ List.replicate (point.toNat - digits.length) '0'
        else digits.take point.toNat ++ '.' :: digits.drop point.toNat) := by
    simp [toText, hscientific]
  rw [htext]
  dsimp only
  generalize Nat.toDigits 10 n = digits at *
  have hlength : 0 < digits.length := List.length_pos_iff.mpr hne
  split_ifs with hpoint hwhole
  · -- All digits are behind the point, with zeros before them.
    refine ⟨['0'], List.replicate (-(exponent + digits.length)).toNat '0' ++ digits, ?_, ?_,
      by simp, ?_, ?_, ?_⟩
    · simp [AsciiDigits, isAsciiDigit]
    · rw [asciiDigits_append]
      refine ⟨fun c hc => ?_, hdigits⟩
      rw [List.eq_of_mem_replicate hc]
      decide
    · simp [rowText, hne]
    · have hzero : digitsValue ['0'] = 0 := by decide
      rw [digitsValue_append, digitsValue_append, digitsValue_replicate_zero, hzero, hvalue]
      omega
    · simp only [List.length_append, List.length_replicate]
      omega
  · -- There is no fraction.
    have hzero : exponent = 0 := by omega
    subst hzero
    refine ⟨digits, [], hdigits, by simp [AsciiDigits], hne, ?_, by simpa using hvalue, rfl⟩
    simp [rowText]
  · -- The point is among the digits.
    have hjoin : digits.take (exponent + digits.length).toNat ++
        digits.drop (exponent + digits.length).toNat = digits := List.take_append_drop _ _
    have hparts := hjoin ▸ hdigits
    rw [asciiDigits_append] at hparts
    refine ⟨_, _, hparts.1, hparts.2, ?_, ?_, by rw [hjoin, hvalue], ?_⟩
    · rw [← List.length_pos_iff, List.length_take]
      omega
    · rw [rowText, if_neg]
      rw [← ne_eq, ← List.length_pos_iff, List.length_drop]
      omega
    · rw [List.length_drop]
      omega

/-- The written form of the magnitude of a plain number, by its whole part and its fraction. -/
theorem IsPlain.abs_toText {d : Decimal} (h : d.IsPlain) :
    ∃ whole fraction, AsciiDigits whole ∧ AsciiDigits fraction ∧ whole ≠ [] ∧
      d.abs.toText.toList = rowText whole fraction ∧
      digitsValue (whole ++ fraction) = d.coefficient ∧
      d.exponent = -(fraction.length : Int) := by
  rw [h.abs_eq]
  exact toText_positional h.exponent_nonpos h.leading_gt

end TieredTerms.Decimal
