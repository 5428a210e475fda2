import TieredTerms.Proofs.Duration.Projection
import TieredTerms.Proofs.Number.Precision
import TieredTerms.Proofs.Outcome

/-!
# Durations without their signs

A written duration has one sign in front of all its parts, and the parts are written as magnitudes
that are cut to the precision.  So what is behind the sign is the written form of another duration,
the one with all parts made positive.

* `Duration.unsigned` is that duration.
* `Duration.isPlain_unsigned` and `Duration.formatChars_eq`: where no part is written with an
  exponent it is plain, and its written form is all but the sign.
* `Duration.KeepsProjection` are the durations whose projection does not depend on the sign, plain
  durations among them.
-/

namespace TieredTerms

/-! ## Parts -/

namespace Decimal

/-- The number that the written form of years or months stands for: the magnitude, zero in its usual
form. -/
def unsigned (d : Decimal) : Decimal :=
  d.tidy.abs

theorem unsigned_of_isZero {d : Decimal} (h : d.isZero = true) : d.unsigned = Decimal.ofInt 0 := by
  rw [unsigned, tidy, if_pos h]
  decide +kernel

theorem unsigned_of_ne_zero {d : Decimal} (h : d.isZero = false) : d.unsigned = d.abs := by
  rw [unsigned, tidy, if_neg (by simp [h])]

/-- The characters of a number that is not zero stand in the text of its unit. -/
theorem not_mem_abs_toText {d : Decimal} {unit : Char} (h : 'E' ∉ decimalUnitText d unit)
    (hzero : d.isZero = false) : 'E' ∉ d.abs.toText.toList := by
  rw [decimalUnitText, if_neg (by simp [hzero])] at h
  exact fun hmem => h (List.mem_append_left _ hmem)

/-- Where years or months are written without an exponent, what is written is a plain number. -/
theorem isPlain_unsigned {d : Decimal} {unit : Char} (h : 'E' ∉ decimalUnitText d unit) :
    d.unsigned.IsPlain := by
  cases hzero : d.isZero with
  | true =>
    rw [unsigned_of_isZero hzero]
    exact isPlain_zero
  | false =>
    rw [unsigned_of_ne_zero hzero]
    exact isPlain_abs (not_mem_abs_toText h hzero)

theorem isZero_unsigned {d : Decimal} {unit : Char} (h : 'E' ∉ decimalUnitText d unit) :
    d.unsigned.isZero = d.isZero := by
  cases hzero : d.isZero with
  | true =>
    rw [unsigned_of_isZero hzero]
    decide
  | false =>
    rw [unsigned_of_ne_zero hzero, isZero_abs (not_mem_abs_toText h hzero), hzero]

/-- The sign of years or months is not written with them. -/
theorem decimalUnitText_unsigned {d : Decimal} {unit : Char} (h : 'E' ∉ decimalUnitText d unit) :
    decimalUnitText d.unsigned unit = decimalUnitText d unit := by
  rw [decimalUnitText, decimalUnitText, isZero_unsigned h]
  split_ifs with hzero
  · rfl
  · rw [unsigned_of_ne_zero (by simpa using hzero), abs_abs]

end Decimal

namespace Clock

theorem lower_natAbs (c : Clock) :
    (1 - clockDayBound : Int) * microsPerDay ≤ c.micros.natAbs := by
  simp only [clockDayBound, microsPerDay, microsPerSecond]
  omega

theorem upper_natAbs (c : Clock) : c.micros.natAbs < (clockDayBound : Int) * microsPerDay := by
  have hlower := c.lower
  have hupper := c.upper
  simp only [clockDayBound, microsPerDay, microsPerSecond] at *
  omega

/-- The clock duration without its sign. -/
def unsigned (c : Clock) : Clock where
  micros := c.micros.natAbs
  lower := c.lower_natAbs
  upper := c.upper_natAbs

@[simp] theorem micros_unsigned (c : Clock) : c.unsigned.micros = c.micros.natAbs := rfl

end Clock

/-! ## Whole durations -/

namespace Duration

/-- The duration that is written behind the sign: every part is made positive, and years and months
are cut to the precision of arithmetic. -/
def unsigned : Duration → Duration
  | .clock time => .clock time.unsigned
  | .calendar years months time => .calendar years.unsigned months.unsigned time.unsigned

theorem years_unsigned (d : Duration) : d.unsigned.years = d.years.unsigned := by
  cases d with
  | clock => exact (Decimal.unsigned_of_isZero (d := Decimal.ofInt 0) (by decide)).symm
  | calendar => rfl

theorem months_unsigned (d : Duration) : d.unsigned.months = d.months.unsigned := by
  cases d with
  | clock => exact (Decimal.unsigned_of_isZero (d := Decimal.ofInt 0) (by decide)).symm
  | calendar => rfl

@[simp] theorem time_unsigned (d : Duration) : d.unsigned.time = d.time.unsigned := by
  cases d <;> rfl

/-- Years and months stand in the written form. -/
theorem not_mem_parts {d : Duration} (h : 'E' ∉ d.formatChars) :
    'E' ∉ decimalUnitText d.years 'Y' ∧ 'E' ∉ decimalUnitText d.months 'M' := by
  have hunits : 'E' ∉ d.unitsText := by
    intro hmem
    apply h
    have hne : d.unitsText.isEmpty = false := by
      cases hunits : d.unitsText with
      | nil => simp [hunits] at hmem
      | cons => rfl
    rw [formatChars, hne]
    simp [hmem]
  rw [unitsText_eq, List.mem_append, List.mem_append, not_or, not_or] at hunits
  exact ⟨hunits.1, hunits.2.1⟩

/-- Behind the sign of a duration that is written without exponents stands a plain duration. -/
theorem isPlain_unsigned {d : Duration} (h : 'E' ∉ d.formatChars) : d.unsigned.IsPlain where
  years := by
    rw [years_unsigned]
    exact Decimal.isPlain_unsigned (not_mem_parts h).1
  months := by
    rw [months_unsigned]
    exact Decimal.isPlain_unsigned (not_mem_parts h).2
  time := by simp

theorem unitsText_unsigned {d : Duration} (h : 'E' ∉ d.formatChars) :
    d.unsigned.unitsText = d.unitsText := by
  obtain ⟨hyears, hmonths⟩ := not_mem_parts h
  rw [unitsText_eq, unitsText_eq, years_unsigned, months_unsigned, time_unsigned,
    Decimal.decimalUnitText_unsigned hyears, Decimal.decimalUnitText_unsigned hmonths,
    Clock.micros_unsigned, Int.natAbs_natCast]

/-- A plain duration is written without a sign. -/
theorem IsPlain.hasMinus {d : Duration} (h : d.IsPlain) : d.hasMinus = false := by
  rw [hasMinus_eq, h.years.nonneg, h.months.nonneg, decide_eq_false (not_lt.mpr h.time)]
  rfl

/-- Behind a sign, not every part is zero. -/
theorem ne_zero_of_hasMinus {d : Duration} (h : 'E' ∉ d.formatChars) (hminus : d.hasMinus = true) :
    d.unsigned.years.isZero = false ∨ d.unsigned.months.isZero = false ∨
      d.unsigned.time.micros ≠ 0 := by
  obtain ⟨hyears, hmonths⟩ := not_mem_parts h
  have hpart {n : Decimal} (hn : n.isNegative = true) : n.isZero = false := by
    rw [Decimal.isNegative, Bool.and_eq_true, Bool.not_eq_true'] at hn
    exact hn.2
  rw [years_unsigned, months_unsigned, time_unsigned, Clock.micros_unsigned,
    Decimal.isZero_unsigned hyears, Decimal.isZero_unsigned hmonths]
  rw [hasMinus_eq, Bool.or_eq_true, Bool.or_eq_true, decide_eq_true_iff] at hminus
  rcases hminus with (hneg | hneg) | hneg
  · exact .inl (hpart hneg)
  · exact .inr (.inl (hpart hneg))
  · exact .inr (.inr (by omega))

/-- The written form is the sign and the written form without it. -/
theorem formatChars_eq {d : Duration} (h : 'E' ∉ d.formatChars) :
    d.formatChars = (if d.hasMinus then ['-'] else []) ++ d.unsigned.formatChars := by
  rw [formatChars, formatChars, (isPlain_unsigned h).hasMinus, unitsText_unsigned h]
  rfl

/-! ## Projections -/

/-- The duration has the same projection with its sign and without it. -/
def KeepsProjection (d : Duration) : Prop :=
  d.unsigned.seconds.same d.seconds = true

/-- The projection is kept where it is the one that is read back. -/
theorem keepsProjection_iff {d : Duration} (h : 'E' ∉ d.formatChars) :
    d.KeepsProjection ↔ d.seconds.same d.unsigned.reread.seconds = true := by
  obtain ⟨q, hq, hq', -⟩ := (isPlain_unsigned h).seconds_reread
  rw [KeepsProjection, Binary64.same_comm, Binary64.same_iff hq, Binary64.same_iff hq']

/-- Milliseconds depend on the value of the projection only. -/
private theorem milliseconds_of_toRat? {d e : Duration} {q : Rat} (hd : d.seconds.toRat? = some q)
    (he : e.seconds.toRat? = some q) {n : Int} (h : e.milliseconds = .ok n) :
    d.milliseconds = .ok n := by
  obtain ⟨s, r, hs, hr, hn⟩ := milliseconds_eq_ok.mp h
  obtain rfl := Option.some.inj (he.symm.trans hs)
  exact milliseconds_eq_ok.mpr ⟨q, r, hd, hr, hn⟩

/-- Where the projection is kept, so are the milliseconds. -/
theorem KeepsProjection.milliseconds {d : Duration} (hkeeps : d.KeepsProjection)
    (h : 'E' ∉ d.formatChars) :
    ∃ n, d.milliseconds = .ok n ∧ d.unsigned.reread.milliseconds = .ok n := by
  have hplain := isPlain_unsigned h
  obtain ⟨q, hq, hq', -⟩ := hplain.seconds_reread
  obtain ⟨n, -, hn⟩ := hplain.milliseconds_reread
  rw [keepsProjection_iff h, Binary64.same_iff hq'] at hkeeps
  exact ⟨n, milliseconds_of_toRat? hkeeps hq' hn, hn⟩

/-- A plain duration has no sign to lose. -/
theorem IsPlain.unsigned_reread {d : Duration} (h : d.IsPlain) : d.unsigned.reread = d.reread := by
  have hpart {n : Decimal} (hn : n.IsPlain) : n.unsigned = n.tidy := by
    cases hzero : n.isZero with
    | true => rw [Decimal.unsigned_of_isZero hzero, Decimal.tidy, if_pos hzero]
    | false =>
      rw [Decimal.unsigned_of_ne_zero hzero, hn.abs_eq, ← hn.eq_of_ne_zero hzero, Decimal.tidy,
        if_neg (by simp [hzero])]
  have htidy (n : Decimal) : n.tidy.tidy = n.tidy := by
    rw [Decimal.tidy, Decimal.isZero_tidy]
    split_ifs with hzero
    · rw [Decimal.tidy, if_pos hzero]
    · rfl
  have htime : d.time.unsigned = d.time := by
    have hmicros : d.time.unsigned.micros = d.time.micros := Int.natAbs_of_nonneg h.time
    rw [← Option.some.injEq, ← Clock.ofMicros?_micros d.time.unsigned, hmicros,
      Clock.ofMicros?_micros]
  rw [reread, reread, years_unsigned, months_unsigned, time_unsigned, hpart h.years,
    hpart h.months, htime, Decimal.isZero_tidy, Decimal.isZero_tidy, htidy, htidy]

theorem IsPlain.keepsProjection {d : Duration} (h : d.IsPlain) : d.KeepsProjection := by
  obtain ⟨q, hq, hq', -⟩ := h.seconds_reread
  rw [keepsProjection_iff h.not_mem_formatChars, h.unsigned_reread, Binary64.same_iff hq', hq]

end Duration

end TieredTerms
