import TieredTerms.Duration.Reader
import TieredTerms.Proofs.Duration.ClockSum
import TieredTerms.Proofs.Duration.Units

/-!
# Reading written durations

A duration is plain where no part of it is negative and its years and months are plain decimal
numbers.  What is written of a plain duration is read back: `parse?_format` gives `Duration.reread`,
the same duration with its zeros in one form.

The parts go through different readers.  Years and months are read as they stand
(`optionalUnit_decimalUnitText`), the units of the clock as doubles that are summed up
(`clock?_written`).
-/

namespace TieredTerms

/-! ## Fractions of a second -/

/-- The six places of a number of microseconds. -/
private theorem places_eq {micros : Nat} (h : micros < microsPerSecond) :
    AsciiDigits ((Nat.toDigits 10 (microsPerSecond + micros)).drop 1) ∧
      ((Nat.toDigits 10 (microsPerSecond + micros)).drop 1).length = 6 ∧
      digitsValue ((Nat.toDigits 10 (microsPerSecond + micros)).drop 1) = micros := by
  rw [microsPerSecond] at *
  have hdigits := asciiDigits_toDigits (1000000 + micros)
  have hvalue := digitsValue_toDigits (1000000 + micros)
  have hshort : (Nat.toDigits 10 (1000000 + micros)).length ≤ 7 :=
    (Nat.length_toDigits_le_iff (by decide) (by decide)).mpr (by omega)
  have hlong : ¬(Nat.toDigits 10 (1000000 + micros)).length ≤ 6 := by
    intro hle
    have hlt := (Nat.length_toDigits_le_iff (by decide) (by decide)).mp hle
    omega
  generalize Nat.toDigits 10 (1000000 + micros) = digits at *
  cases digits with
  | nil => simp at hlong
  | cons first rest =>
    rw [List.length_cons] at hshort hlong
    have hrest : AsciiDigits rest := fun c hc => hdigits c (List.mem_cons_of_mem _ hc)
    have hlength : rest.length = 6 := by omega
    have hbound := digitsValue_lt rest
    rw [digitsValue_cons, hlength] at hvalue
    rw [hlength] at hbound
    rw [List.drop_one, List.tail_cons]
    exact ⟨hrest, hlength, by omega⟩

/-- The places of a fraction of a second, without the zeros at their end. -/
private theorem fractionDigits_facts {micros : Nat} (h : micros < microsPerSecond)
    (hpos : micros ≠ 0) :
    AsciiDigits (fractionDigits micros) ∧ fractionDigits micros ≠ [] ∧
      (fractionDigits micros).length ≤ 6 ∧
      digitsValue (fractionDigits micros) * 10 ^ (6 - (fractionDigits micros).length) = micros := by
  obtain ⟨hdigits, hlength, hvalue⟩ := places_eq h
  obtain ⟨count, hsplit⟩ :=
    exists_eq_append_zeros ((Nat.toDigits 10 (microsPerSecond + micros)).drop 1)
  change _ = fractionDigits micros ++ _ at hsplit
  rw [hsplit] at hdigits hlength hvalue
  rw [asciiDigits_append] at hdigits
  rw [List.length_append, List.length_replicate] at hlength
  rw [digitsValue_append, digitsValue_replicate_zero, List.length_replicate, Nat.add_zero] at hvalue
  have hcount : 6 - (fractionDigits micros).length = count := by omega
  refine ⟨hdigits.1, ?_, by omega, by rw [hcount, hvalue]⟩
  intro hnil
  rw [hnil] at hvalue
  exact hpos (by simpa [digitsValue_eq_foldl] using hvalue.symm)

/-- Seconds are written so that they are read with all their microseconds. -/
theorem optionalUnit_secondsText (seconds : Nat) {micros : Nat} (h : micros < microsPerSecond) :
    ∃ amount, OptionalUnit 'S' (secondsText seconds micros) amount ∧ amount.negative = false ∧
      -6 ≤ amount.exponent ∧ amount.exponent ≤ 0 ∧
      (amount.coefficient : Rat) * 10 ^ amount.exponent = seconds + micros / 1000000 := by
  rw [secondsText]
  split_ifs with hzero
  · refine ⟨_, optionalUnit_unitText seconds 'S', rfl, by simp, le_rfl, ?_⟩
    simp [hzero]
  · obtain ⟨hdigits, hne, hlength, hvalue⟩ := fractionDigits_facts h hzero
    refine ⟨_, .given (readsAs_fraction (asciiDigits_toDigits seconds) Nat.toDigits_ne_nil
      hdigits hne), rfl, by dsimp only; omega, by dsimp only; omega, ?_⟩
    have hpower : (1000000 : Rat) = 10 ^ (fractionDigits micros).length *
        10 ^ (6 - (fractionDigits micros).length) := by
      rw [← pow_add, Nat.add_sub_cancel' hlength]
      norm_num
    have hmicros : (micros : Rat) = digitsValue (fractionDigits micros) *
        10 ^ (6 - (fractionDigits micros).length) := by exact_mod_cast hvalue.symm
    dsimp only
    rw [digitsValue_append, digitsValue_toDigits, zpow_neg, zpow_natCast, hpower]
    generalize (fractionDigits micros).length = places at *
    generalize digitsValue (fractionDigits micros) = value at *
    rw [hmicros]
    push_cast
    field_simp

/-! ## Plain durations -/

namespace Decimal

/-- The number with zero in its usual form. -/
def tidy (d : Decimal) : Decimal :=
  if d.isZero then Decimal.ofInt 0 else d

@[simp] theorem isZero_tidy (d : Decimal) : d.tidy.isZero = d.isZero := by
  rw [tidy]
  split_ifs with h
  · rw [h]
    rfl
  · rfl

theorem toRat_of_isZero {d : Decimal} (h : d.isZero = true) : d.toRat = 0 := by
  have hcoefficient : d.coefficient = 0 := by simpa [isZero] using h
  simp [toRat, hcoefficient]

@[simp] theorem toRat_tidy (d : Decimal) : d.tidy.toRat = d.toRat := by
  rw [tidy]
  split_ifs with h
  · rw [toRat_of_isZero h, toRat_of_isZero (d := Decimal.ofInt 0) (by decide)]
  · rfl

theorem isPlain_zero : (Decimal.ofInt 0).IsPlain :=
  ⟨by decide, by decide, by decide⟩

/-- A plain number has no sign when its zero is in the usual form. -/
theorem IsPlain.negative_tidy {d : Decimal} (h : d.IsPlain) : d.tidy.negative = false := by
  rw [tidy]
  split_ifs with hzero
  · rfl
  · rw [h.eq_of_ne_zero (by simpa using hzero)]

theorem IsPlain.tidy {d : Decimal} (h : d.IsPlain) : d.tidy.IsPlain := by
  rw [Decimal.tidy]
  split_ifs
  · exact isPlain_zero
  · exact h

/-- A plain number is small enough for arithmetic. -/
theorem IsPlain.isInRange_abs {d : Decimal} (h : d.IsPlain) : d.abs.isInRange = true := by
  have hlow := h.exponent_nonpos
  have hdigits := h.digits
  rw [h.abs_eq, isInRange, Bool.or_eq_true, decide_eq_true_eq, largestExponent]
  rw [precision] at hdigits
  dsimp only
  omega

end Decimal

namespace Duration

/-- The years of a duration; a clock duration has none. -/
def years : Duration → Decimal
  | .clock _ => Decimal.ofInt 0
  | .calendar years _ _ => years

/-- The months of a duration; a clock duration has none. -/
def months : Duration → Decimal
  | .clock _ => Decimal.ofInt 0
  | .calendar _ months _ => months

/-- No part is negative, and years and months are plain decimal numbers. -/
structure IsPlain (d : Duration) : Prop where
  years : d.years.IsPlain
  months : d.months.IsPlain
  time : 0 ≤ d.time.micros

/-- The duration as it is read back: a clock duration where years and months are zero. -/
def reread (d : Duration) : Duration :=
  if d.years.isZero && d.months.isZero then .clock d.time
  else .calendar d.years.tidy d.months.tidy d.time

theorem unitsText_eq (d : Duration) :
    d.unitsText = decimalUnitText d.years 'Y' ++
      (decimalUnitText d.months 'M' ++ clockText d.time.micros.natAbs) := by
  cases d with
  | clock time => rfl
  | calendar years months time => rw [unitsText, List.append_assoc]; rfl

/-- A plain duration can be written. -/
theorem IsPlain.isWritable {d : Duration} (h : d.IsPlain) : d.isWritable = true := by
  cases d with
  | clock time => rfl
  | calendar years months time =>
    rw [Duration.isWritable, Bool.and_eq_true]
    exact ⟨h.years.isInRange_abs, h.months.isInRange_abs⟩

theorem hasMinus_eq (d : Duration) :
    d.hasMinus = (d.years.isNegative || d.months.isNegative || decide (d.time.micros < 0)) := by
  cases d with
  | clock time => rfl
  | calendar years months time => rfl

/-- Years or months of a plain duration, as they are written. -/
theorem optionalUnit_decimalUnitText {d : Decimal} (h : d.IsPlain) (unit : Char) :
    OptionalUnit unit (decimalUnitText d unit) d.tidy := by
  rw [decimalUnitText, Decimal.tidy]
  split_ifs with hzero
  · exact .missing
  · exact .given (readsAs_plain h (by simpa using hzero))

/-- The amounts of a plain duration, as they are read. -/
def amounts (d : Duration) (seconds : Decimal) : Designators :=
  { negative := false
    years := d.years.tidy
    months := d.months.tidy
    weeks := Decimal.ofInt 0
    days := ⟨false, d.time.micros.natAbs / microsPerDay, 0⟩
    hours := ⟨false, d.time.micros.natAbs % microsPerDay / microsPerSecond / 3600, 0⟩
    minutes := ⟨false, d.time.micros.natAbs % microsPerDay / microsPerSecond / 60 % 60, 0⟩
    seconds }

/-- The units of a plain duration are read one by one.  Where there is none, the text is the zero
of a single unit. -/
private theorem body?_unitsText {d : Duration} (h : d.IsPlain) {seconds : Decimal}
    (hseconds : OptionalUnit 'S'
      (secondsText (d.time.micros.natAbs % microsPerDay / microsPerSecond % 60)
        (d.time.micros.natAbs % microsPerDay % microsPerSecond)) seconds) :
    Designators.body? false (if d.unitsText.isEmpty then ['0', 'D'] else d.unitsText) =
      some (d.amounts seconds) := by
  have hY := optionalUnit_decimalUnitText h.years 'Y'
  have hM := optionalUnit_decimalUnitText h.months 'M'
  have hD := optionalUnit_unitText (d.time.micros.natAbs / microsPerDay) 'D'
  have hH := optionalUnit_unitText
    (d.time.micros.natAbs % microsPerDay / microsPerSecond / 3600) 'H'
  have hN := optionalUnit_unitText
    (d.time.micros.natAbs % microsPerDay / microsPerSecond / 60 % 60) 'M'
  have htext : d.unitsText = _ := d.unitsText_eq
  rw [clockText, timeOfDayText] at htext
  simp only [List.isEmpty_iff, List.append_assoc] at htext ⊢
  split_ifs with hempty
  · rw [hempty] at htext
    obtain ⟨hnilY, hnil⟩ := List.append_eq_nil_iff.mp htext.symm
    obtain ⟨hnilM, hnil⟩ := List.append_eq_nil_iff.mp hnil
    obtain ⟨hnilD, hnilT⟩ := List.append_eq_nil_iff.mp hnil
    rw [hnilY] at hY
    rw [hnilM] at hM
    have hzero : d.time.micros.natAbs / microsPerDay = 0 := by
      by_contra hne
      rw [unitText, if_neg hne] at hnilD
      simp at hnilD
    have hgiven : OptionalUnit 'D' ['0', 'D'] ⟨false, d.time.micros.natAbs / microsPerDay, 0⟩ := by
      rw [hzero]
      exact (.given (readsAs_toDigits 0) : OptionalUnit 'D' (Nat.toDigits 10 0 ++ ['D']) _)
    have hbody := body?_units hY hM hgiven hH hN hseconds false
    rw [hnilT] at hbody
    exact hbody
  · rw [htext]
    exact body?_units hY hM hD hH hN hseconds false

/-- The units that a number of microseconds is written in make up the number. -/
private theorem units_sum (micros : Nat) :
    micros % microsPerDay / microsPerSecond % 60 * 1000000 +
      micros % microsPerDay % microsPerSecond +
      micros % microsPerDay / microsPerSecond / 60 % 60 * 60000000 +
      micros % microsPerDay / microsPerSecond / 3600 * 3600000000 +
      micros / microsPerDay * 86400000000 = micros := by
  simp only [microsPerDay, microsPerSecond]
  omega

/-- The seconds that are written are less than a minute. -/
private theorem secondsPart_bounds (micros : Nat) :
    (0 : Rat) ≤ ((micros % microsPerDay / microsPerSecond % 60 : Nat) : Rat) +
        ((micros % microsPerDay % microsPerSecond : Nat) : Rat) / 1000000 ∧
      ((micros % microsPerDay / microsPerSecond % 60 : Nat) : Rat) +
        ((micros % microsPerDay % microsPerSecond : Nat) : Rat) / 1000000 < 60 := by
  have hwhole : micros % microsPerDay / microsPerSecond % 60 + 1 ≤ 60 := by omega
  have hfraction : micros % microsPerDay % microsPerSecond < 1000000 := Nat.mod_lt _ (by decide)
  have hwhole' : ((micros % microsPerDay / microsPerSecond % 60 : Nat) : Rat) + 1 ≤ 60 := by
    exact_mod_cast hwhole
  have hfraction' : ((micros % microsPerDay % microsPerSecond : Nat) : Rat) / 1000000 < 1 := by
    rw [div_lt_one (by norm_num)]
    exact_mod_cast hfraction
  constructor
  · positivity
  · linarith

/-- A number below sixty with at most six places has at most eight digits. -/
private theorem decimalLength_of_seconds {seconds : Decimal} (hlow : -6 ≤ seconds.exponent)
    (h : (seconds.coefficient : Rat) * 10 ^ seconds.exponent < 60) :
    decimalLength seconds.coefficient ≤ 8 := by
  rw [decimalLength_le_iff (by decide)]
  have hpower : (10 : Rat) ^ (-6 : Int) ≤ 10 ^ seconds.exponent :=
    zpow_le_zpow_right₀ (by norm_num) hlow
  have hle : (seconds.coefficient : Rat) * 10 ^ (-6 : Int) ≤
      seconds.coefficient * 10 ^ seconds.exponent := by gcongr
  have hlt := lt_of_le_of_lt hle h
  rw [zpow_neg, ← div_eq_mul_inv, div_lt_iff₀ (by norm_num)] at hlt
  have hnat : seconds.coefficient < 60 * 10 ^ 6 := by exact_mod_cast hlt
  omega

/-- The clock units of a plain duration sum up to its time. -/
private theorem clock?_written {d : Duration} (h : 0 ≤ d.time.micros) {seconds : Decimal}
    (hnegative : seconds.negative = false) (hlow : -6 ≤ seconds.exponent)
    (hhigh : seconds.exponent ≤ 0)
    (hvalue : (seconds.coefficient : Rat) * 10 ^ seconds.exponent =
      ((d.time.micros.natAbs % microsPerDay / microsPerSecond % 60 : Nat) : Rat) +
        ((d.time.micros.natAbs % microsPerDay % microsPerSecond : Nat) : Rat) / 1000000) :
    (d.amounts seconds).clock? = some d.time := by
  have hmicros : d.time.micros = d.time.micros.natAbs := by omega
  have hupper := d.time.upper
  generalize hN : d.time.micros.natAbs = N at *
  have hrange : N < 1000000000 * 86400000000 := by
    simp only [clockDayBound, microsPerDay, microsPerSecond] at hupper
    omega
  have hsmall := secondsPart_bounds N
  rw [← hvalue] at hsmall
  have hlength := decimalLength_of_seconds hlow hsmall.2
  have hposLength := decimalLength_pos seconds.coefficient
  have hseconds := Decimal.toRat?_toBinary64 (d := seconds) (by omega) (by omega)
  rw [hnegative] at hseconds
  have hnear := Binary64.abs_roundedMagnitude_sub_le (k := 6) hsmall.1
    (lt_trans hsmall.2 (by norm_num)) (by norm_num)
  have hdays := Decimal.toRat?_toBinary64_natural (n := N / microsPerDay) (by
    simp only [microsPerDay, microsPerSecond]
    omega)
  have hhours := Decimal.toRat?_toBinary64_natural
    (n := N % microsPerDay / microsPerSecond / 3600) (by
      simp only [microsPerDay, microsPerSecond]
      omega)
  have hminutes := Decimal.toRat?_toBinary64_natural
    (n := N % microsPerDay / microsPerSecond / 60 % 60) (by omega)
  have hweeks : (Decimal.ofInt 0).toBinary64.toRat? = some ((0 : Nat) : Rat) := by
    rw [Decimal.toBinary64, if_pos (by decide), Binary64.toRat?_zero]
    rfl
  have htotal := ClockParts.total_eq hseconds (Binary64.roundedMagnitude_nonneg _) hminutes hhours
    hdays hweeks (N := N) (by
      have hparts : ((N % microsPerDay / microsPerSecond % 60 : Nat) : Rat) * 1000000 +
          (N % microsPerDay % microsPerSecond : Nat) +
          (N % microsPerDay / microsPerSecond / 60 % 60 : Nat) * 60000000 +
          (N % microsPerDay / microsPerSecond / 3600 : Nat) * 3600000000 +
          (N / microsPerDay : Nat) * 86400000000 = N := by exact_mod_cast units_sum N
      rw [hvalue] at hnear ⊢
      have hbounds := abs_le.mp hnear
      norm_num at hbounds
      rw [abs_le]
      push_cast
      constructor <;> linarith)
  rw [Designators.clock?, amounts, Clock.ofParts]
  dsimp only
  rw [hN, htotal, ← hmicros]
  simp [Except.toOption]

/-! ## The characters of a written duration -/

/-- Whether a character may stand behind the `P` of a written duration. -/
def isUnitChar (c : Char) : Bool :=
  isAsciiDigit c || ['.', 'Y', 'M', 'D', 'T', 'H', 'S'].contains c

/-- Characters that may stand behind the `P` of a written duration. -/
def UnitChars (cs : List Char) : Prop :=
  ∀ c ∈ cs, isUnitChar c = true

theorem unitChars_append {as bs : List Char} :
    UnitChars (as ++ bs) ↔ UnitChars as ∧ UnitChars bs := by
  simp only [UnitChars, List.forall_mem_append]

theorem unitChars_cons {c : Char} {cs : List Char} :
    UnitChars (c :: cs) ↔ isUnitChar c = true ∧ UnitChars cs := by
  simp only [UnitChars, List.forall_mem_cons]

theorem unitChars_nil : UnitChars [] := by
  simp [UnitChars]

theorem unitChars_of_asciiDigits {cs : List Char} (h : AsciiDigits cs) : UnitChars cs := by
  intro c hc
  rw [isUnitChar, h c hc, Bool.true_or]

private theorem unitChars_unitText (n : Nat) {unit : Char} (h : isUnitChar unit = true) :
    UnitChars (unitText n unit) := by
  rw [unitText]
  split_ifs
  · exact unitChars_nil
  · rw [unitChars_append, unitChars_cons]
    exact ⟨unitChars_of_asciiDigits (asciiDigits_toDigits n), h, unitChars_nil⟩

private theorem unitChars_decimalUnitText {d : Decimal} (hplain : d.IsPlain) {unit : Char}
    (h : isUnitChar unit = true) : UnitChars (decimalUnitText d unit) := by
  rw [decimalUnitText]
  split_ifs
  · exact unitChars_nil
  · obtain ⟨whole, fraction, hwhole, hfraction, -, htext, -, -⟩ := hplain.abs_toText
    rw [unitChars_append, htext, Decimal.rowText, unitChars_cons]
    refine ⟨?_, h, unitChars_nil⟩
    split_ifs
    · exact unitChars_of_asciiDigits hwhole
    · rw [unitChars_append, unitChars_cons]
      exact ⟨unitChars_of_asciiDigits hwhole, by decide, unitChars_of_asciiDigits hfraction⟩

private theorem unitChars_secondsText (seconds : Nat) {micros : Nat}
    (h : micros < microsPerSecond) : UnitChars (secondsText seconds micros) := by
  rw [secondsText]
  split_ifs with hzero
  · exact unitChars_unitText seconds (by decide)
  · simp only [unitChars_append, unitChars_cons]
    exact ⟨⟨unitChars_of_asciiDigits (asciiDigits_toDigits seconds), by decide,
      unitChars_of_asciiDigits (fractionDigits_facts h hzero).1⟩, by decide, unitChars_nil⟩

private theorem unitChars_clockText (micros : Nat) : UnitChars (clockText micros) := by
  have htime : UnitChars (timeOfDayText (micros % microsPerDay)) := by
    rw [timeOfDayText]
    split_ifs
    · exact unitChars_nil
    · simp only [unitChars_cons, unitChars_append]
      exact ⟨by decide, ⟨unitChars_unitText _ (by decide), unitChars_unitText _ (by decide)⟩,
        unitChars_secondsText _ (Nat.mod_lt _ (by decide))⟩
  rw [clockText, unitChars_append]
  exact ⟨unitChars_unitText _ (by decide), htime⟩

/-- A plain duration is written as `P` and characters of units, at least one of them. -/
theorem IsPlain.formatChars_eq {d : Duration} (h : d.IsPlain) :
    ∃ units, d.formatChars = 'P' :: units ∧ units ≠ [] ∧ UnitChars units ∧
      units = if d.unitsText.isEmpty then ['0', 'D'] else d.unitsText := by
  have hminus : d.hasMinus = false := by
    rw [hasMinus_eq, h.years.nonneg, h.months.nonneg, decide_eq_false (not_lt.mpr h.time)]
    rfl
  refine ⟨_, by rw [formatChars, hminus]; rfl, ?_, ?_, rfl⟩
  · split_ifs with hempty
    · simp
    · exact fun hnil => hempty (by rw [hnil]; rfl)
  · split_ifs with hempty
    · rw [unitChars_cons, unitChars_cons]
      exact ⟨by decide, by decide, unitChars_nil⟩
    · rw [unitsText_eq, unitChars_append, unitChars_append]
      exact ⟨unitChars_decimalUnitText h.years (by decide),
        unitChars_decimalUnitText h.months (by decide), unitChars_clockText _⟩

/-- A plain duration is written without the mark of an exponent. -/
theorem IsPlain.not_mem_formatChars {d : Duration} (h : d.IsPlain) : 'E' ∉ d.formatChars := by
  obtain ⟨units, hformat, -, hchars, -⟩ := h.formatChars_eq
  rw [hformat, List.mem_cons, not_or]
  exact ⟨by decide, fun hmem => absurd (hchars 'E' hmem) (by decide)⟩

/-! ## Reading a whole duration -/

/-- The amounts that are read of a plain duration have no sign in front and mean the duration. -/
theorem designators_formatChars {d : Duration} (h : d.IsPlain) :
    ∃ designators, Designators.ofChars? d.formatChars = some designators ∧
      designators.negative = false ∧ designators.toDuration? = some d.reread := by
  obtain ⟨seconds, hseconds, hnegative, hlow, hhigh, hvalue⟩ := optionalUnit_secondsText
    (d.time.micros.natAbs % microsPerDay / microsPerSecond % 60)
    (Nat.mod_lt (d.time.micros.natAbs % microsPerDay) (by decide : 0 < microsPerSecond))
  have hclock := clock?_written h.time hnegative hlow hhigh hvalue
  obtain ⟨units, hformat, hne, hchars, hunits⟩ := h.formatChars_eq
  have hbody := body?_unitsText h hseconds
  rw [← hunits] at hbody
  have hend : atTextEnd units = false := by
    have hline : units ≠ ['\n'] := by
      rintro rfl
      exact absurd (hchars '\n' List.mem_cons_self) (by decide)
    simp [atTextEnd, hne, hline]
  refine ⟨d.amounts seconds, ?_, rfl, ?_⟩
  · rw [hformat]
    change (if atTextEnd units = true then none else Designators.body? false units) = _
    rw [hend, hbody]
    rfl
  · rw [Designators.toDuration?, hclock]
    simp [amounts, reread]

/-- The characters of a plain duration are read back. -/
theorem ofChars?_formatChars {d : Duration} (h : d.IsPlain) :
    ofChars? d.formatChars = some d.reread := by
  obtain ⟨designators, hdesignators, -, hduration⟩ := designators_formatChars h
  unfold ofChars?
  rw [hdesignators]
  exact hduration

/-- A plain duration is the duration of its written form. -/
theorem parse?_format {d : Duration} (h : d.IsPlain) : parse? d.format = some d.reread := by
  rw [parse?, format, String.toList_ofList, ofChars?_formatChars h]

/-- No subtraction is needed for what is read back. -/
theorem read_format {d : Duration} (h : d.IsPlain) : read d.format = .ok d.reread := by
  have hwithin : d.reread.isBeyondArithmetic = false := by
    rw [reread]
    split_ifs
    · rfl
    · simp [isBeyondArithmetic, h.years.negative_tidy, h.months.negative_tidy]
  rw [read, parse?_format h]
  simp [hwithin]

/-- The amounts of years alone, however many digits they have. -/
private theorem designators_years {ds : List Char} (h : AsciiDigits ds) (hpos : digitsValue ds ≠ 0)
    (negative : Bool) :
    ∃ designators : Designators, atTextEnd (ds ++ ['Y']) = false ∧
      Designators.body? negative (ds ++ ['Y']) = some designators ∧
      designators.clock? = some Clock.zero ∧ designators.negative = negative ∧
      designators.years = ⟨false, digitsValue ds, 0⟩ ∧ designators.months = Decimal.ofInt 0 := by
  have hne : ds ≠ [] := by
    rintro rfl
    exact hpos rfl
  have hbody := body?_units (.given (readsAs_digits h hne)) .missing .missing .missing .missing
    .missing negative
  simp only [List.append_nil, if_true] at hbody
  refine ⟨_, ?_, hbody, ?_, rfl, rfl, rfl⟩
  · simp [atTextEnd, hne, List.append_eq_singleton_iff]
  · rw [Designators.clock?]
    dsimp only
    decide +kernel

/-- Years alone are read with all their digits, however many there are. -/
theorem read_years {ds : List Char} (h : AsciiDigits ds) (hpos : digitsValue ds ≠ 0) :
    read (String.ofList ('P' :: (ds ++ ['Y']))) =
      .ok (.calendar ⟨false, digitsValue ds, 0⟩ (Decimal.ofInt 0) Clock.zero) := by
  obtain ⟨designators, hend, hbody, hclock, hsign, hyears, hmonths⟩ :=
    designators_years h hpos false
  have hparse : parse? (String.ofList ('P' :: (ds ++ ['Y']))) =
      some (.calendar ⟨false, digitsValue ds, 0⟩ (Decimal.ofInt 0) Clock.zero) := by
    rw [parse?, String.toList_ofList, ofChars?, Designators.ofChars?]
    simp [hend, hbody, Designators.toDuration?, hclock, hsign, hyears, hmonths, Decimal.isZero,
      hpos]
  rw [read, hparse]
  rfl

/-- With a sign, years alone are taken from zero. -/
theorem parse?_signed_years {ds : List Char} (h : AsciiDigits ds) (hpos : digitsValue ds ≠ 0) :
    parse? (String.ofList ('-' :: 'P' :: (ds ++ ['Y']))) =
      some (.calendar (Decimal.ofInt 0 - ⟨false, digitsValue ds, 0⟩) (Decimal.ofInt 0)
        Clock.zero) := by
  obtain ⟨designators, hend, hbody, hclock, hsign, hyears, hmonths⟩ :=
    designators_years h hpos true
  have hopposite (years : Decimal) : neg? (.calendar years (Decimal.ofInt 0) Clock.zero) =
      some (.calendar (Decimal.ofInt 0 - years) (Decimal.ofInt 0) Clock.zero) := by
    have hclock : Clock.zero.neg? = some Clock.zero := by decide +kernel
    have hzero : Decimal.ofInt 0 - Decimal.ofInt 0 = Decimal.ofInt 0 := by decide
    rw [neg?, hclock, hzero]
    rfl
  have hread : Designators.ofChars? ('-' :: 'P' :: (ds ++ ['Y'])) = some designators := by
    change (if atTextEnd (ds ++ ['Y']) = true then none
      else Designators.body? true (ds ++ ['Y'])) = some designators
    rw [hend, hbody]
    rfl
  unfold parse? ofChars?
  rw [String.toList_ofList, hread]
  simp [Designators.toDuration?, hclock, hsign, hyears, hmonths, Decimal.isZero, hpos, hopposite]

/-! ## What is read back -/

/-- Two durations with numerically the same parts. -/
structure SameParts (d e : Duration) : Prop where
  years : d.years.toRat = e.years.toRat
  months : d.months.toRat = e.months.toRat
  time : d.time = e.time

theorem years_reread (d : Duration) : d.reread.years = d.years.tidy := by
  rw [reread]
  split_ifs with h
  · rw [Bool.and_eq_true] at h
    rw [Decimal.tidy, if_pos h.1]
    rfl
  · rfl

theorem months_reread (d : Duration) : d.reread.months = d.months.tidy := by
  rw [reread]
  split_ifs with h
  · rw [Bool.and_eq_true] at h
    rw [Decimal.tidy, if_pos h.2]
    rfl
  · rfl

theorem time_reread (d : Duration) : d.reread.time = d.time := by
  rw [reread]
  split_ifs <;> rfl

theorem isPlain_reread {d : Duration} (h : d.IsPlain) : d.reread.IsPlain where
  years := by
    rw [years_reread]
    exact h.years.tidy
  months := by
    rw [months_reread]
    exact h.months.tidy
  time := by
    rw [time_reread]
    exact h.time

theorem sameParts_reread (d : Duration) : d.SameParts d.reread :=
  ⟨by rw [years_reread, Decimal.toRat_tidy], by rw [months_reread, Decimal.toRat_tidy],
    (time_reread d).symm⟩

/-- What is read back of a plain duration is written in the same way. -/
theorem IsPlain.formatChars_reread {d : Duration} (h : d.IsPlain) :
    d.reread.formatChars = d.formatChars := by
  have hunit (n : Decimal) (unit : Char) :
      decimalUnitText n.tidy unit = decimalUnitText n unit := by
    rw [decimalUnitText, decimalUnitText, Decimal.isZero_tidy]
    split_ifs with hzero
    · rfl
    · rw [Decimal.tidy, if_neg hzero]
  have hunits : d.reread.unitsText = d.unitsText := by
    rw [unitsText_eq, unitsText_eq, years_reread, months_reread, time_reread, hunit, hunit]
  have hsign {n : Decimal} (hn : n.IsPlain) : n.tidy.isNegative = n.isNegative := by
    rw [hn.nonneg, Decimal.tidy]
    split_ifs
    · rfl
    · exact hn.nonneg
  have hminus : d.reread.hasMinus = d.hasMinus := by
    rw [hasMinus_eq, hasMinus_eq, years_reread, months_reread, time_reread, hsign h.years,
      hsign h.months]
  rw [formatChars, formatChars, hunits, hminus]

end Duration

end TieredTerms
