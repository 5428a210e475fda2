import TieredTerms.Duration.Reader
import TieredTerms.Proofs.Duration.Projection
import TieredTerms.Proofs.Number.Precision
import TieredTerms.Proofs.Number.Sides

/-!
# Durations with a projection

The projection of a duration is no number where years and months of opposite signs are both too
large for a double.  Durations that are read from texts have years and months of one sign, and
durations of moderate size stay clear of infinities, so the projection of both is a number.

* `Duration.HasProjection` is the property.
* `Duration.hasProjection_of_side` and `Duration.IsModerate.hasProjection` are the two reasons for
  it, `Duration.hasProjection_of_parse?` is about texts.
-/

namespace TieredTerms

namespace Duration

/-- The projection is a number or an infinity. -/
def HasProjection (d : Duration) : Prop :=
  d.seconds ≠ .nan

private theorem time_ne_nan {x : Binary64} (h : x ≠ .nan) (time : Clock) :
    x + time.seconds ≠ .nan :=
  Binary64.add_ne_nan h time.seconds_facts.1

theorem hasProjection_clock (time : Clock) : (clock time).HasProjection := by
  intro hnan
  have hvalue := time.seconds_facts.1
  rw [show time.seconds = .nan from hnan] at hvalue
  cases hvalue

/-! ## Durations on one side of zero -/

/-- Years and months of one sign have a projection, however large they are. -/
theorem hasProjection_of_side {years months : Decimal} (negative : Bool)
    (hyears : years.negative = negative ∨ years.isZero = true)
    (hmonths : months.negative = negative ∨ months.isZero = true) (time : Clock) :
    (calendar years months time).HasProjection := by
  have hyearDays := (Decimal.onSide_toBinary64 hyears).mul_ofInt (n := 365) (by decide) (by decide)
  have hmonthDays := (Decimal.onSide_toBinary64 hmonths).mul_ofInt (n := 30) (by decide) (by decide)
  have hseconds := (hyearDays.add hmonthDays).mul_ofInt (n := 86400) (by decide) (by decide)
  exact time_ne_nan hseconds.ne_nan time

/-! ## Durations of moderate size -/

/-- Years and months below `10 ^ 300` in magnitude. -/
def IsModerate (d : Duration) : Prop :=
  d.years.IsModerate ∧ d.months.IsModerate

theorem IsModerate.hasProjection {d : Duration} (h : d.IsModerate) : d.HasProjection := by
  cases d with
  | clock time => exact hasProjection_clock time
  | calendar years months time =>
    have hyearDays := h.1.within.mul (unit_facts (n := 365) (by norm_num)).2 (by norm_num)
      (by norm_num)
    have hmonthDays := h.2.within.mul (unit_facts (n := 30) (by norm_num)).2 (by norm_num)
      (by norm_num)
    obtain ⟨days, hdays, -⟩ := hyearDays.add hmonthDays (by norm_num) (by norm_num)
    exact time_ne_nan (Binary64.mul_ne_nan hdays (unit_facts (n := 86400) (by norm_num)).1) time

/-! ## Durations of texts -/

end Duration

private theorem negative_readAmount? {cs rest : List Char} {amount : Decimal}
    (h : readAmount? cs = some (amount, rest)) : amount.negative = false := by
  rw [readAmount?] at h
  split_ifs at h
  split at h
  · dsimp only at h
    split_ifs at h
    · cases h
      rfl
    · cases h
      rfl
  · cases h
    rfl

private theorem negative_readUnit (unit : Char) (cs : List Char) :
    (readUnit unit cs).1.negative = false := by
  rw [readUnit]
  split
  · next hread =>
    split_ifs
    · exact negative_readAmount? hread
    · rfl
  · rfl

namespace Designators

/-- No amount has a sign. -/
structure HasNoSigns (d : Designators) : Prop where
  years : d.years.negative = false
  months : d.months.negative = false
  weeks : d.weeks.negative = false
  days : d.days.negative = false
  hours : d.hours.negative = false
  minutes : d.minutes.negative = false
  seconds : d.seconds.negative = false

/-- Amounts are written without signs. -/
private theorem hasNoSigns_body? {negative : Bool} {cs : List Char} {d : Designators}
    (h : body? negative cs = some d) : d.HasNoSigns := by
  simp only [body?] at h
  split at h
  · rw [Option.bind_eq_bind, Option.bind_eq_some_iff] at h
    obtain ⟨-, -, hd⟩ := h
    cases hd
    constructor <;> exact negative_readUnit _ _
  · rw [Option.bind_eq_bind, Option.bind_eq_some_iff] at h
    obtain ⟨-, -, hd⟩ := h
    cases hd
    constructor <;> first | exact negative_readUnit _ _ | rfl

theorem hasNoSigns_ofChars? {cs : List Char} {d : Designators} (h : ofChars? cs = some d) :
    d.HasNoSigns := by
  simp only [ofChars?] at h
  split at h
  · split_ifs at h
    exact hasNoSigns_body? h
  · cases h

end Designators

namespace Decimal

/-- What is taken from zero is not positive. -/
theorem zero_sub_side {d : Decimal} (h : d.negative = false ∨ d.isZero = true) :
    (Decimal.ofInt 0 - d).negative = true ∨ (Decimal.ofInt 0 - d).isZero = true := by
  have hzero (exponent : Int) : (Decimal.ofInt 0).scaledTo exponent = 0 := by
    simp [scaledTo, Decimal.ofInt]
  have hnonneg (exponent : Int) : 0 ≤ d.scaledTo exponent := by
    rw [scaledTo]
    rcases h with hsign | hzero
    · rw [hsign, if_neg (by simp)]
      positivity
    · have hcoefficient : d.coefficient = 0 := by simpa [isZero] using hzero
      simp [hcoefficient]
  change (Decimal.sub (Decimal.ofInt 0) d).negative = true ∨
    (Decimal.sub (Decimal.ofInt 0) d).isZero = true
  simp only [Decimal.sub, hzero, zero_sub]
  generalize min (Decimal.ofInt 0).exponent d.exponent = exponent
  rcases (hnonneg exponent).eq_or_lt with heq | hpos
  · exact .inr (isZero_round (by simp [isZero, ← heq]))
  · refine .inl ?_
    rw [negative_round]
    exact decide_eq_true (by omega)

end Decimal

namespace Duration

/-- A duration without signs has a projection in the other direction, too. -/
private theorem hasProjection_neg? {d e : Duration} (hyears : d.years.negative = false)
    (hmonths : d.months.negative = false) (h : d.neg? = some e) : e.HasProjection := by
  cases d with
  | clock time =>
    rw [neg?, Option.map_eq_map, Option.map_eq_some_iff] at h
    obtain ⟨opposite, -, rfl⟩ := h
    exact hasProjection_clock opposite
  | calendar years months time =>
    simp only [neg?, Option.map_eq_map, Option.map_eq_some_iff] at h
    obtain ⟨opposite, -, rfl⟩ := h
    exact hasProjection_of_side true (Decimal.zero_sub_side (.inl hyears))
      (Decimal.zero_sub_side (.inl hmonths)) opposite

/-- A duration in the designator form has years and months of one sign. -/
private theorem hasProjection_toDuration? {designators : Designators} {d : Duration}
    (hyears : designators.years.negative = false) (hmonths : designators.months.negative = false)
    (h : designators.toDuration? = some d) : d.HasProjection := by
  rw [Designators.toDuration?, Option.bind_eq_bind, Option.bind_eq_some_iff] at h
  obtain ⟨time, -, h⟩ := h
  dsimp only at h
  by_cases hzero : (designators.years.isZero && designators.months.isZero) = true
  · rw [if_pos hzero] at h
    split_ifs at h
    · exact hasProjection_neg? rfl rfl h
    · cases h
      exact hasProjection_clock time
  · rw [if_neg hzero] at h
    split_ifs at h
    · exact hasProjection_neg? (d := .calendar designators.years designators.months time) hyears
        hmonths h
    · cases h
      exact hasProjection_of_side false (.inl hyears) (.inl hmonths) time

/-- A duration in the date form has years and months without signs. -/
private theorem hasProjection_ofDateTime? {cs : List Char} {d : Duration}
    (h : ofDateTime? cs = some d) : d.HasProjection := by
  have hsign (n : Nat) : (Decimal.ofInt n).negative = false := by simp [Decimal.ofInt]
  rw [ofDateTime?] at h
  split at h
  · simp only [Option.bind_eq_bind, Option.bind_eq_some_iff] at h
    obtain ⟨date, -, time, -, clock, -, hd⟩ := h
    cases hd
    exact hasProjection_of_side false (.inl (hsign _)) (.inl (hsign _)) clock
  · cases h

/-- Whatever a text stands for has a projection. -/
theorem hasProjection_of_parse? {text : String} {d : Duration} (h : parse? text = some d) :
    d.HasProjection := by
  rw [parse?] at h
  unfold ofChars? at h
  split at h
  · next designators hdesignators =>
    have hsigns := Designators.hasNoSigns_ofChars? hdesignators
    exact hasProjection_toDuration? hsigns.years hsigns.months h
  · split at h
    · exact hasProjection_ofDateTime? h
    · cases h

end Duration

end TieredTerms
