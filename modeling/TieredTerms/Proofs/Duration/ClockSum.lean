import TieredTerms.Duration.Clock
import TieredTerms.Proofs.Number.DecimalDoubles

/-!
# Summing clock units

Amounts of clock units are doubles.  Whole amounts are counted exactly, and what the fraction of a
second loses on the way is far less than half a microsecond, so the sum is exact.

* `MicroSum.add_natural` and `MicroSum.add_seconds` say what one step of the sum does.
* `ClockParts.total_eq`: amounts close to a number of microseconds sum up to it.
-/

namespace TieredTerms

/-! ## Steps of the sum -/

@[simp] theorem Binary64.integerPart_intCast (n : Int) : Binary64.integerPart (n : Rat) = n := by
  unfold Binary64.integerPart
  split_ifs
  · exact Rat.ceil_intCast n
  · exact Rat.floor_intCast n

theorem Binary64.integerPart_of_nonneg {q : Rat} (h : 0 ≤ q) :
    (Binary64.integerPart q : Rat) ≤ q ∧ q < Binary64.integerPart q + 1 := by
  rw [Binary64.integerPart, if_neg (not_lt.mpr h)]
  refine ⟨Rat.floor_le q, ?_⟩
  have hlt := Rat.lt_floor_add_one q
  push_cast at hlt
  exact hlt

namespace MicroSum

/-- A double that holds a natural number is counted as it. -/
theorem add_natural (sum : MicroSum) (unit : Nat) {x : Binary64} {n : Nat}
    (h : x.toRat? = some (n : Rat)) :
    sum.add unit (.real x) = .ok { sum with whole := sum.whole + n * unit } := by
  have hfinite : x.finite? = .ok (n : Rat) := Binary64.finite?_eq_ok.mpr h
  have hpart : Binary64.integerPart (n : Rat) = n := Binary64.integerPart_intCast n
  simp only [add, hfinite, bind, Except.bind, hpart]
  simp [pure, Except.pure]

/-- A number of microseconds that goes through doubles in two pieces, the whole ones and the rest,
stays within a small distance of what it was. -/
private theorem pieces_near {q : Rat} (h : 0 ≤ q) (hlt : q < 2 ^ (20 : Int)) :
    ∃ scaled rest, (Binary64.ofRat q).toRat? = some scaled ∧
      (Binary64.zero false + Binary64.ofRat (scaled - Binary64.integerPart scaled)).toRat? =
        some rest ∧
      |(Binary64.integerPart scaled : Rat) + rest - q| ≤ 1 / 1000 := by
  have hbound : |q| < 2 ^ (20 : Int) := by rwa [abs_of_nonneg h]
  have hscaledValue : (Binary64.ofRat q).toRat? = some (Binary64.rounded q) :=
    Binary64.toRat?_ofRat hbound (by norm_num)
  have hscaledNear := Binary64.abs_rounded_sub_le hbound (by norm_num)
  have hscaledNonneg : 0 ≤ Binary64.rounded q := by
    rw [Binary64.rounded_of_nonneg h]
    exact Binary64.roundedMagnitude_nonneg _
  generalize Binary64.rounded q = scaled at *
  obtain ⟨hmicrosLow, hmicrosHigh⟩ := Binary64.integerPart_of_nonneg hscaledNonneg
  have hremains : |scaled - (Binary64.integerPart scaled : Rat)| < 2 ^ (1 : Int) := by
    rw [abs_lt]
    constructor <;> norm_num <;> linarith
  have hrestNear := Binary64.abs_rounded_sub_le hremains (by norm_num)
  have hrestValue : (Binary64.ofRat (scaled - Binary64.integerPart scaled)).toRat? =
      some (Binary64.rounded (scaled - Binary64.integerPart scaled)) :=
    Binary64.toRat?_ofRat hremains (by norm_num)
  generalize Binary64.rounded (scaled - Binary64.integerPart scaled) = rest at *
  have hrestBound : |rest| < 2 ^ (2 : Int) := by
    have hnear := abs_le.mp hrestNear
    have hless := abs_lt.mp hremains
    rw [abs_lt]
    constructor <;> norm_num at * <;> linarith
  have hsumValue := Binary64.toRat?_add (Binary64.toRat?_zero false) hrestValue
  rw [zero_add, Binary64.toRat?_ofRat hrestBound (by norm_num)] at hsumValue
  have hsumNear := Binary64.abs_rounded_sub_le hrestBound (by norm_num)
  refine ⟨scaled, Binary64.rounded rest, hscaledValue, hsumValue, ?_⟩
  have herror1 := abs_le.mp hscaledNear
  have herror2 := abs_le.mp hrestNear
  have herror3 := abs_le.mp hsumNear
  norm_num at herror1 herror2 herror3
  rw [abs_le]
  constructor <;> linarith

/-- A double that holds seconds adds as many microseconds, but for an error that is far below one
half. -/
theorem add_seconds (whole : Int) {x : Binary64} {v : Rat} (h : x.toRat? = some v) (hv : 0 ≤ v) :
    ∃ sum rest, add ⟨whole, Binary64.zero false⟩ microsPerSecond (.real x) = .ok sum ∧
      sum.leftover.toRat? = some rest ∧
      |(sum.whole : Rat) + rest - (whole + 1000000 * v)| ≤ 1 / 1000 := by
  obtain ⟨hpartLow, hpartHigh⟩ := Binary64.integerPart_of_nonneg hv
  have hfinite : x.finite? = .ok v := Binary64.finite?_eq_ok.mpr h
  by_cases hfraction : v - (Binary64.integerPart v : Rat) = 0
  · refine ⟨⟨whole + Binary64.integerPart v * microsPerSecond, Binary64.zero false⟩, 0, ?_,
      Binary64.toRat?_zero false, ?_⟩
    · simp [add, hfinite, bind, Except.bind, pure, Except.pure, hfraction]
    · have hv' : v = Binary64.integerPart v := by linarith
      push_cast [microsPerSecond]
      rw [abs_le]
      constructor <;> linarith
  · have hunit : ((microsPerSecond : Nat) : Rat) = 1000000 := by norm_num [microsPerSecond]
    generalize hfractionEq : v - (Binary64.integerPart v : Rat) = fraction at *
    obtain ⟨scaled, rest, hscaled, hrest, hnear⟩ :=
      pieces_near (q := microsPerSecond * fraction) (by rw [hunit]; linarith)
        (by rw [hunit]; norm_num; linarith)
    refine ⟨⟨whole + Binary64.integerPart v * microsPerSecond + Binary64.integerPart scaled,
      Binary64.zero false + Binary64.ofRat (scaled - Binary64.integerPart scaled)⟩, rest, ?_,
      hrest, ?_⟩
    · simp only [add, hfinite, bind, Except.bind, hfractionEq, if_neg hfraction, hscaled,
        Option.getD_some, pure, Except.pure]
    · rw [hunit] at hnear
      have herror := abs_le.mp hnear
      push_cast [microsPerSecond]
      rw [abs_le]
      constructor <;> linarith

end MicroSum

/-! ## The whole sum -/

/-- Amounts that are close to a number of microseconds sum up to exactly that number. -/
theorem ClockParts.total_eq {seconds minutes hours days weeks : Binary64} {v : Rat}
    {minute hour day week : Nat} {N : Int} (hseconds : seconds.toRat? = some v)
    (hnonneg : 0 ≤ v) (hminutes : minutes.toRat? = some (minute : Rat))
    (hhours : hours.toRat? = some (hour : Rat)) (hdays : days.toRat? = some (day : Rat))
    (hweeks : weeks.toRat? = some (week : Rat))
    (hnear : |1000000 * v + 60000000 * minute + 3600000000 * hour + 86400000000 * day +
      604800000000 * week - N| ≤ 1 / 4) :
    ClockParts.total
      { seconds := .real seconds
        minutes := .real minutes
        hours := .real hours
        days := .real days
        weeks := .real weeks } = .ok N := by
  obtain ⟨sum, rest, hsum, hrest, herror⟩ := MicroSum.add_seconds 0 hseconds hnonneg
  have hwhole (unit : Nat) :
      MicroSum.add MicroSum.zero unit (.whole 0) = .ok MicroSum.zero := by
    simp [MicroSum.add, MicroSum.zero]
  have hstart : MicroSum.zero = ⟨0, Binary64.zero false⟩ := rfl
  simp only [ClockParts.total, List.foldlM_cons, List.foldlM_nil, bind, Except.bind, pure,
    Except.pure, hwhole]
  rw [hstart, hsum]
  simp only [MicroSum.add_natural _ _ hminutes, MicroSum.add_natural _ _ hhours,
    MicroSum.add_natural _ _ hdays, MicroSum.add_natural _ _ hweeks]
  rw [MicroSum.round, hrest, Option.getD_some]
  congr 1
  apply nearestEven_eq_of_abs_sub_lt
  have hnear' := abs_le.mp hnear
  have herror' := abs_le.mp herror
  push_cast [microsPerSecond, microsPerDay] at herror' ⊢
  rw [abs_lt]
  constructor <;> linarith

end TieredTerms
