import TieredTerms.Proofs.Duration.Written
import TieredTerms.Proofs.Outcome

/-!
# The projection of plain durations

A plain duration and what is read back of it have the same projection onto seconds, although one
of them may be a clock duration and the other not.

* `Duration.IsPlain.seconds_reread` is the statement about the exact values,
  `Duration.milliseconds_eq_ok` tells what milliseconds they give.
* `Duration.IsPlain.below_reread`, `Duration.IsPlain.isNegative_reread`,
  `Duration.IsPlain.isZero_reread` and `Duration.IsPlain.milliseconds_reread` are what follows for
  comparisons.
-/

namespace TieredTerms

/-- The projection of a clock duration is a rounded rational within range. -/
theorem Clock.seconds_facts (time : Clock) :
    time.seconds.toRat? = some (Binary64.rounded (time.micros / 1000000)) ∧
      Binary64.Within 48 time.seconds := by
  have hvalue : mkRat time.micros microsPerSecond = (time.micros : Rat) / 1000000 := by
    rw [Rat.mkRat_eq_div, microsPerSecond]
    norm_num
  have hlower : ((1 - 1000000000) * 86400000000 : Rat) ≤ time.micros := by
    have h := time.lower
    simp only [clockDayBound, microsPerDay, microsPerSecond] at h
    exact_mod_cast h
  have hupper : (time.micros : Rat) < 1000000000 * 86400000000 := by
    have h := time.upper
    simp only [clockDayBound, microsPerDay, microsPerSecond] at h
    exact_mod_cast h
  have hbound : |(time.micros : Rat) / 1000000| < 2 ^ (47 : Int) := by
    rw [abs_lt, lt_div_iff₀ (by norm_num), div_lt_iff₀ (by norm_num)]
    norm_num
    constructor <;> linarith
  rw [Clock.seconds, hvalue]
  exact ⟨Binary64.toRat?_ofRat hbound (by norm_num),
    Binary64.within_ofRat hbound (by norm_num) (by norm_num)⟩

namespace Decimal

theorem toBinary64_tidy (d : Decimal) : d.tidy.toBinary64.toRat? = d.toBinary64.toRat? := by
  rw [tidy]
  split_ifs with h
  · rw [toBinary64, toBinary64, if_pos (by decide), if_pos h, Binary64.toRat?_zero,
      Binary64.toRat?_zero]
  · rfl

end Decimal

/-! ## The projection onto seconds -/

open Binary64

namespace Duration

/-- The projection as a function of its parts, with every rounding written out. -/
def projected (years months clock : Rat) : Rat :=
  let days := Binary64.rounded (Binary64.rounded (years * 365) + Binary64.rounded (months * 30))
  Binary64.rounded (Binary64.rounded (days * 86400) + clock)

/-- A unit of the projection is a finite double. -/
theorem unit_facts {n : Nat} (h : n < 2 ^ 17) :
    (Binary64.ofInt n).toRat? = some (n : Rat) ∧ Binary64.Within 17 (Binary64.ofInt n) := by
  have hvalue : (Binary64.ofInt n).toRat? = some (n : Rat) :=
    Binary64.toRat?_ofInt (lt_trans h (by decide))
  refine ⟨hvalue, n, hvalue, ?_⟩
  rw [abs_of_nonneg (by positivity)]
  exact_mod_cast h

/-- The projection of a calendar duration whose parts are of moderate size. -/
theorem seconds_calendar {years months : Decimal} {time : Clock} {a b s : Rat}
    (hyears : Binary64.Within 95 years.toBinary64) (ha : years.toBinary64.toRat? = some a)
    (hmonths : Binary64.Within 95 months.toBinary64) (hb : months.toBinary64.toRat? = some b)
    (hs : time.seconds.toRat? = some s) :
    (calendar years months time).seconds.toRat? = some (projected a b s) ∧
      Binary64.Within 140 (calendar years months time).seconds := by
  obtain ⟨hyearUnit, hyearBound⟩ := unit_facts (n := 365) (by norm_num)
  obtain ⟨hmonthUnit, hmonthBound⟩ := unit_facts (n := 30) (by norm_num)
  obtain ⟨hdayUnit, hdayBound⟩ := unit_facts (n := 86400) (by norm_num)
  have hyearDays := toRat?_mul_of_within hyears hyearBound (by norm_num) ha hyearUnit
  have hmonthDays := toRat?_mul_of_within hmonths hmonthBound (by norm_num) hb hmonthUnit
  have hyearsWithin := hyears.mul hyearBound (by norm_num) (by norm_num)
  have hmonthsWithin := (hmonths.mul hmonthBound (by norm_num) (by norm_num))
  have hdays := toRat?_add_of_within hyearsWithin hmonthsWithin (by norm_num) hyearDays hmonthDays
  have hdaysWithin := hyearsWithin.add hmonthsWithin (by norm_num) (by norm_num)
  have hscaled := toRat?_mul_of_within hdaysWithin hdayBound (by norm_num) hdays hdayUnit
  have hscaledWithin := (hdaysWithin.mul hdayBound (by norm_num) (by norm_num)).mono (k := 138)
    (by norm_num)
  have htimeWithin := time.seconds_facts.2.mono (k := 138) (by norm_num)
  exact ⟨toRat?_add_of_within hscaledWithin htimeWithin (by norm_num) hscaled hs,
    hscaledWithin.add htimeWithin (by norm_num) (by norm_num)⟩

/-- What is read back of a plain duration has the same projection, which is finite. -/
theorem IsPlain.seconds_reread {d : Duration} (h : d.IsPlain) :
    ∃ q, d.seconds.toRat? = some q ∧ d.reread.seconds.toRat? = some q ∧ |q| < 2 ^ (140 : Int) := by
  obtain ⟨hs, hsWithin⟩ := d.time.seconds_facts
  cases d with
  | clock time => exact ⟨_, hs, hs, (hsWithin.mono (by norm_num)).abs_lt hs⟩
  | calendar years months time =>
    obtain ⟨a, ha, -⟩ := h.years.within
    obtain ⟨b, hb, -⟩ := h.months.within
    obtain ⟨hvalue, hwithin⟩ := seconds_calendar h.years.within ha h.months.within hb hs
    refine ⟨_, hvalue, ?_, hwithin.abs_lt hvalue⟩
    rw [reread]
    split_ifs with hzero
    · rw [Bool.and_eq_true] at hzero
      rw [Decimal.toBinary64_of_isZero hzero.1, Option.some.injEq] at ha
      rw [Decimal.toBinary64_of_isZero hzero.2, Option.some.injEq] at hb
      subst ha hb
      simp [projected, seconds, hs]
    · refine (seconds_calendar ?_ ?_ ?_ ?_ hs).1
      · rw [Within, Decimal.toBinary64_tidy]
        exact h.years.within
      · rwa [Decimal.toBinary64_tidy]
      · rw [Within, Decimal.toBinary64_tidy]
        exact h.months.within
      · rwa [Decimal.toBinary64_tidy]

/-! ## Comparisons -/

/-- Whether a duration is below another does not change when both are read back. -/
theorem IsPlain.below_reread {d e : Duration} (hd : d.IsPlain) (he : e.IsPlain) :
    d.reread.below e.reread = d.below e := by
  obtain ⟨p, hp, hp', -⟩ := hd.seconds_reread
  obtain ⟨q, hq, hq', -⟩ := he.seconds_reread
  rw [below, below, lt_eq_decide hp' hq', lt_eq_decide hp hq]

theorem IsPlain.isNegative_reread {d : Duration} (h : d.IsPlain) :
    d.reread.isNegative = d.isNegative := by
  obtain ⟨q, hq, hq', -⟩ := h.seconds_reread
  rw [isNegative, isNegative, lt_eq_decide hq' (toRat?_zero false),
    lt_eq_decide hq (toRat?_zero false)]

theorem IsPlain.isZero_reread {d : Duration} (h : d.IsPlain) : d.reread.isZero = d.isZero := by
  obtain ⟨q, hq, hq', -⟩ := h.seconds_reread
  rw [isZero, isZero, same_eq_decide hq' (toRat?_zero false), same_eq_decide hq (toRat?_zero false)]

/-- The milliseconds of a duration are the seconds of a finite projection a thousand times, as a
double, rounded. -/
theorem milliseconds_eq_ok {d : Duration} {n : Int} :
    d.milliseconds = .ok n ↔ ∃ s r, d.seconds.toRat? = some s ∧
      (ofRat (s * 1000)).toRat? = some r ∧ nearestEven r = n := by
  have hunit : (ofInt 1000).toRat? = some 1000 := (unit_facts (n := 1000) (by norm_num)).1
  rw [milliseconds, map_eq_ok]
  constructor
  · rintro ⟨r, hr, hn⟩
    rw [finite?_eq_ok] at hr
    obtain ⟨s, hs⟩ := exists_toRat?_of_mul hr
    exact ⟨s, r, hs, (toRat?_mul hs hunit).symm.trans hr, hn⟩
  · rintro ⟨s, r, hs, hr, hn⟩
    exact ⟨r, finite?_eq_ok.mpr ((toRat?_mul hs hunit).trans hr), hn⟩

/-- A plain duration has milliseconds, and what is read back of it has the same. -/
theorem IsPlain.milliseconds_reread {d : Duration} (h : d.IsPlain) :
    ∃ n, d.milliseconds = .ok n ∧ d.reread.milliseconds = .ok n := by
  obtain ⟨q, hq, hq', hbound⟩ := h.seconds_reread
  have hproduct : |q * 1000| < 2 ^ (150 : Int) := by
    rw [abs_mul, abs_of_pos (by norm_num : (0 : Rat) < 1000)]
    norm_num at hbound ⊢
    linarith
  have hvalue := toRat?_ofRat hproduct (by norm_num)
  exact ⟨_, milliseconds_eq_ok.mpr ⟨q, _, hq, hvalue, rfl⟩,
    milliseconds_eq_ok.mpr ⟨q, _, hq', hvalue, rfl⟩⟩

end Duration

end TieredTerms
