import TieredTerms.Proofs.Duration.OneSided
import TieredTerms.Proofs.Duration.Spelling

/-!
# Durations of modest size

Years and months of less than a million digits stay within the range of decimal arithmetic, whether
they are cut to the precision or taken from zero.  A duration with such years and months is written
without a fault, and so is what a sign in front of it gives.

* `HasModestNumbers` says it of the numbers in a text, `hasModestNumbers_of_short` tells that rows
  of digits that readers take are short enough.
* `Duration.withinArithmetic_of_parse?` is what a text stands for.
-/

namespace TieredTerms

/-! ## Numbers within arithmetic -/

namespace Decimal

variable {d : Decimal}

/-- The magnitude is in the range of arithmetic, and so is a number below zero, which arithmetic
gave. -/
structure WithinArithmetic (d : Decimal) : Prop where
  magnitude : d.abs.isInRange = true
  negative : d.negative = true → d.isInRange = true

/-- A number as texts have it, with few enough digits for arithmetic. -/
structure IsModest (d : Decimal) : Prop where
  nonneg : d.negative = false
  exponent : d.exponent ≤ 0
  leading : d.exponent + decimalLength d.coefficient ≤ largestExponent

theorem isModest_ofInt {n : Nat} (h : n < 10 ^ 5) : (ofInt n).IsModest := by
  have hlength : decimalLength n ≤ 5 := (decimalLength_le_iff (by decide)).mpr h
  refine ⟨by simp [ofInt], le_rfl, ?_⟩
  simp only [ofInt, largestExponent, Int.natAbs_natCast]
  omega

theorem IsModest.withinArithmetic (h : d.IsModest) : d.WithinArithmetic := by
  refine ⟨isInRange_abs h.leading, fun hnegative => ?_⟩
  rw [h.nonneg] at hnegative
  cases hnegative

/-- A number that is taken from zero stays within arithmetic. -/
theorem IsModest.withinArithmetic_zero_sub (h : d.IsModest) :
    (ofInt 0 - d).WithinArithmetic := by
  have hround := zero_sub_eq_round h.exponent (.inl h.nonneg)
  have hrange : (ofInt 0 - d).isInRange = true := by
    rw [hround]
    exact isInRange_round h.leading
  refine ⟨?_, fun _ => hrange⟩
  have hexcess : (ofInt 0 - d).excess = 0 := by
    rw [hround]
    exact excess_round _
  rw [abs_of_excess hexcess]
  exact hrange

end Decimal

/-! ## Numbers in texts -/

/-- A number of a duration is what its digits are worth, and they stand in the text. -/
theorem readAmount?_eq_some {cs rest : List Char} {amount : Decimal}
    (h : readAmount? cs = some (amount, rest)) :
    ∃ whole fraction, amount = ⟨false, digitsValue (whole ++ fraction), -(fraction.length : Int)⟩ ∧
      whole ≠ [] ∧ whole <:+: cs ∧ fraction <:+: cs ∧ AsciiDigits (whole ++ fraction) := by
  have hdigits (ds : List Char) : AsciiDigits (ds.takeWhile isAsciiDigit) :=
    fun c hc => List.mem_takeWhile_imp hc
  have hfront (ds : List Char) : ds.takeWhile isAsciiDigit <:+: ds :=
    List.takeWhile_prefix _ |>.isInfix
  have hbehind : cs.dropWhile isAsciiDigit <:+ cs := List.dropWhile_suffix _
  have hnil : ([] : List Char) <:+: cs := List.nil_infix
  rw [readAmount?] at h
  dsimp only at h
  split_ifs at h with hempty
  have hne : cs.takeWhile isAsciiDigit ≠ [] := by simpa using hempty
  generalize cs.dropWhile isAsciiDigit = behind at h hbehind
  cases behind with
  | nil =>
    cases h
    exact ⟨_, [], by simp, hne, hfront cs, hnil, by simpa using hdigits cs⟩
  | cons mark behind =>
    dsimp only at h
    split_ifs at h
    · cases h
      refine ⟨_, _, rfl, hne, hfront cs, ?_, asciiDigits_append.mpr ⟨hdigits _, hdigits _⟩⟩
      exact ((hfront _).trans (List.suffix_cons _ _).isInfix).trans hbehind.isInfix
    · cases h
      exact ⟨_, [], by simp, hne, hfront cs, hnil, by simpa using hdigits cs⟩

/-- The amount of a unit is zero or a number that stands in the text. -/
theorem readUnit_cases (unit : Char) (cs : List Char) :
    (readUnit unit cs).1 = Decimal.ofInt 0 ∨
      ∃ rest, readAmount? cs = some ((readUnit unit cs).1, rest) := by
  rw [readUnit]
  split
  · next amount c rest hread =>
    split_ifs
    · exact .inr ⟨_, hread⟩
    · exact .inl rfl
  · exact .inl rfl

theorem exponent_readUnit_nonpos (unit : Char) (cs : List Char) :
    (readUnit unit cs).1.exponent ≤ 0 := by
  rcases readUnit_cases unit cs with hzero | ⟨rest, hread⟩
  · rw [hzero]
    exact le_rfl
  · obtain ⟨whole, fraction, hamount, -⟩ := readAmount?_eq_some hread
    rw [hamount]
    exact neg_nonpos.mpr (Int.natCast_nonneg _)

/-- The number of digits that a year or a month number has to stay below. -/
def modestDigits : Nat := 10 ^ 6

/-- The years and months of every duration in designator form that stands among the characters have
less than a million digits. -/
def HasModestNumbers (cs : List Char) : Prop :=
  ∀ piece, piece <:+: cs → ∀ d, Designators.ofChars? piece = some d →
    decimalLength d.years.coefficient < modestDigits ∧
      decimalLength d.months.coefficient < modestDigits

theorem HasModestNumbers.within {cs ds : List Char} (h : HasModestNumbers ds)
    (hpart : cs <:+: ds) : HasModestNumbers cs :=
  fun piece hpiece => h piece (hpiece.trans hpart)

namespace Designators

/-- The years and months of a text are amounts at two places of it. -/
theorem readUnit_of_ofChars? {cs : List Char} {d : Designators} (h : ofChars? cs = some d) :
    ∃ years months, years <:+ cs ∧ d.years = (readUnit 'Y' years).1 ∧
      months <:+ cs ∧ d.months = (readUnit 'M' months).1 := by
  obtain ⟨sign, units, rfl, -, -, hbody⟩ := ofChars?_eq_some_iff.mp h
  obtain ⟨front, -, hmonths⟩ := taken_readUnit 'Y' (by decide) units
  have hunits : units <:+ sign ++ 'P' :: units :=
    (List.suffix_cons _ _).trans (List.suffix_append _ _)
  refine ⟨units, (readUnit 'Y' units).2, hunits, ?_⟩
  simp only [body?] at hbody
  split at hbody
  all_goals
    rw [Option.bind_eq_bind, Option.bind_eq_some_iff] at hbody
    obtain ⟨-, -, hd⟩ := hbody
    cases hd
    exact ⟨rfl, (List.IsSuffix.trans ⟨front, hmonths.symm⟩ hunits), rfl⟩

/-- Years and months of a text with modest numbers are modest. -/
theorem isModest_of_ofChars? {cs : List Char} {d : Designators} (h : ofChars? cs = some d)
    (hmodest : HasModestNumbers cs) : d.years.IsModest ∧ d.months.IsModest := by
  have hsigns := hasNoSigns_ofChars? h
  obtain ⟨years, months, -, hyears, -, hmonths⟩ := readUnit_of_ofChars? h
  obtain ⟨hyearDigits, hmonthDigits⟩ := hmodest cs List.infix_rfl d h
  have hyearExponent := exponent_readUnit_nonpos 'Y' years
  have hmonthExponent := exponent_readUnit_nonpos 'M' months
  rw [← hyears] at hyearExponent
  rw [← hmonths] at hmonthExponent
  simp only [modestDigits] at hyearDigits hmonthDigits
  refine ⟨⟨hsigns.years, hyearExponent, ?_⟩, ⟨hsigns.months, hmonthExponent, ?_⟩⟩
  · rw [Decimal.largestExponent]
    omega
  · rw [Decimal.largestExponent]
    omega

end Designators

/-- Where no row of digits is too long for readers, every number is modest. -/
theorem hasModestNumbers_of_short {cs : List Char} (h : ∀ count, ¬HasLongRun cs count) :
    HasModestNumbers cs := by
  intro piece hpiece d hd
  have hrow {row : List Char} (hrow : row <:+: piece) (hdigits : AsciiDigits row) :
      row.length ≤ digitLimit := by
    by_contra hlong
    refine h row.length ⟨row, hrow.trans hpiece, ?_, rfl, not_le.mp hlong⟩
    exact List.all_eq_true.mpr fun c hc => isDigit_of_isAsciiDigit (hdigits c hc)
  have hamount (unit : Char) {rest : List Char} (hrest : rest <:+ piece) :
      decimalLength (readUnit unit rest).1.coefficient < modestDigits := by
    rcases readUnit_cases unit rest with hzero | ⟨_, hread⟩
    · rw [hzero]
      decide
    · obtain ⟨whole, fraction, hamount, hne, hwhole, hfraction, hdigits⟩ :=
        readAmount?_eq_some hread
      obtain ⟨hwholeDigits, hfractionDigits⟩ := asciiDigits_append.mp hdigits
      have hwholeLength := hrow (hwhole.trans hrest.isInfix) hwholeDigits
      have hfractionLength := hrow (hfraction.trans hrest.isInfix) hfractionDigits
      have hpos : 0 < (whole ++ fraction).length := by
        rw [List.length_append]
        exact Nat.add_pos_left (List.length_pos_iff.mpr hne) _
      have hlength := (decimalLength_le_iff hpos).mpr (digitsValue_lt (whole ++ fraction))
      rw [hamount]
      rw [List.length_append] at hlength
      simp only [digitLimit, modestDigits] at *
      omega
  obtain ⟨years, months, hyears, hyearsRead, hmonths, hmonthsRead⟩ :=
    Designators.readUnit_of_ofChars? hd
  rw [hyearsRead, hmonthsRead]
  exact ⟨hamount 'Y' hyears, hamount 'M' hmonths⟩

/-! ## Dates -/

namespace CalendarDate

/-- The month of a day of the year is one of those that are counted, or the one behind them. -/
private theorem monthAndDay_le (month : Nat) (lengths : List Nat) (day : Nat) :
    (monthAndDay month lengths day).1 ≤ month + lengths.length := by
  induction lengths generalizing month day with
  | nil => exact le_rfl
  | cons length lengths ih =>
    rw [monthAndDay]
    split_ifs
    · exact Nat.le_add_right _ _
    · have hrest := ih (month + 1) (day - length)
      rw [List.length_cons]
      omega

/-- The year and the month of a date have few digits. -/
def IsSmall (date : CalendarDate) : Prop :=
  date.year < 10 ^ 5 ∧ date.month < 10 ^ 5

private theorem isSmall_ofParts? {year month day : Nat} {date : CalendarDate}
    (h : ofParts? year month day = some date) : date.IsSmall := by
  unfold ofParts? at h
  split_ifs at h with hparts
  cases h
  simp only [maxYear, IsSmall] at *
  omega

private theorem isSmall_ofOrdinal? {ordinal : Int} {date : CalendarDate}
    (h : ofOrdinal? ordinal = some date) : date.IsSmall := by
  unfold ofOrdinal? at h
  split_ifs at h with hrange
  cases h
  have hlast : daysBeforeYear (maxYear + 1) = 3652059 := by decide
  rw [hlast] at hrange
  constructor
  · rw [yearOfOrdinal]
    dsimp only
    cases hfound : List.find? _ _ with
    | none => decide
    | some year =>
      have hmem := List.mem_of_find?_eq_some hfound
      simp only [List.mem_cons, List.not_mem_nil, or_false, Option.getD_some] at hmem ⊢
      omega
  · have hmonth := monthAndDay_le 1 (monthLengths (yearOfOrdinal ordinal.toNat))
      (ordinal.toNat - daysBeforeYear (yearOfOrdinal ordinal.toNat))
    have htwelve : (monthLengths (yearOfOrdinal ordinal.toNat)).length = 12 := rfl
    exact lt_of_le_of_lt hmonth (by omega)

private theorem isSmall_ofYearDay? {year day : Nat} {date : CalendarDate}
    (h : ofYearDay? year day = some date) : date.IsSmall := by
  rw [ofYearDay?, Option.bind_eq_bind, Option.bind_eq_some_iff] at h
  obtain ⟨first, -, hdate⟩ := h
  exact isSmall_ofOrdinal? hdate

private theorem isSmall_ofWeekDay? {year week day : Nat} {date : CalendarDate}
    (h : ofWeekDay? year week day = some date) : date.IsSmall := by
  rw [ofWeekDay?, Option.bind_eq_bind, Option.bind_eq_some_iff] at h
  obtain ⟨first, -, hdate⟩ := h
  exact isSmall_ofOrdinal? hdate

end CalendarDate

namespace DateForm

/-- The dates of a form are small. -/
def Reading.IsSmall (reading : Reading) : Prop :=
  ∀ numbers date, reading.date? numbers = some date → date.IsSmall

private theorem isSmall_readings : ∀ reading ∈ readings, reading.IsSmall := by
  have hyearMonthDay (parts : List FormPart) : Reading.IsSmall ⟨parts, yearMonthDay?⟩ := by
    intro numbers date hdate
    change yearMonthDay? numbers = some date at hdate
    unfold yearMonthDay? at hdate
    split at hdate
    · exact CalendarDate.isSmall_ofParts? hdate
    · exact CalendarDate.isSmall_ofParts? hdate
    · exact CalendarDate.isSmall_ofParts? hdate
    · cases hdate
  have hyearWeekDay (parts : List FormPart) : Reading.IsSmall ⟨parts, yearWeekDay?⟩ := by
    intro numbers date hdate
    change yearWeekDay? numbers = some date at hdate
    unfold yearWeekDay? at hdate
    split at hdate
    · exact CalendarDate.isSmall_ofWeekDay? hdate
    · exact CalendarDate.isSmall_ofWeekDay? hdate
    · cases hdate
  have hyearDay (parts : List FormPart) : Reading.IsSmall ⟨parts, yearDay?⟩ := by
    intro numbers date hdate
    change yearDay? numbers = some date at hdate
    unfold yearDay? at hdate
    split at hdate
    · exact CalendarDate.isSmall_ofYearDay? hdate
    · cases hdate
  have hcentury (parts : List FormPart) : Reading.IsSmall ⟨parts, century?⟩ := by
    intro numbers date hdate
    change century? numbers = some date at hdate
    unfold century? at hdate
    split at hdate
    · exact CalendarDate.isSmall_ofParts? hdate
    · cases hdate
  simp only [readings, List.forall_mem_cons]
  exact ⟨hyearMonthDay _, hyearMonthDay _, hyearWeekDay _, hyearWeekDay _, hyearDay _, hyearDay _,
    hyearWeekDay _, hyearWeekDay _, hyearMonthDay _, hyearMonthDay _, hyearMonthDay _, hcentury _,
    by simp⟩

theorem isSmall_of_ofChars? {cs : List Char} {date : CalendarDate} (h : ofChars? cs = some date) :
    date.IsSmall := by
  rw [ofChars?] at h
  split at h
  · next found hfound =>
    subst h
    obtain ⟨reading, hmem, hform⟩ := List.exists_of_findSome?_eq_some hfound
    obtain ⟨numbers, -, hdate⟩ := Option.map_eq_some_iff.mp hform
    exact isSmall_readings reading hmem numbers date hdate
  · cases h

end DateForm

/-! ## Durations -/

namespace Duration

/-- Years and months are within arithmetic. -/
structure WithinArithmetic (d : Duration) : Prop where
  years : d.years.WithinArithmetic
  months : d.months.WithinArithmetic

theorem WithinArithmetic.isWritable {d : Duration} (h : d.WithinArithmetic) :
    d.isWritable = true := by
  cases d with
  | clock time => rfl
  | calendar years months time =>
    rw [Duration.isWritable, Bool.and_eq_true]
    exact ⟨h.years.magnitude, h.months.magnitude⟩

theorem WithinArithmetic.isBeyondArithmetic {d : Duration} (h : d.WithinArithmetic) :
    d.isBeyondArithmetic = false := by
  cases d with
  | clock time => rfl
  | calendar years months time =>
    have hpart {n : Decimal} (hn : n.WithinArithmetic) : (n.negative && !n.isInRange) = false := by
      cases hsign : n.negative with
      | false => rfl
      | true => rw [hn.negative hsign]; rfl
    have hyears : (years.negative && !years.isInRange) = false := hpart h.years
    have hmonths : (months.negative && !months.isInRange) = false := hpart h.months
    rw [Duration.isBeyondArithmetic, hyears, hmonths]
    rfl

private theorem withinArithmetic_toDuration? {designators : Designators}
    (hyears : designators.years.IsModest) (hmonths : designators.months.IsModest)
    {d : Duration} (h : designators.toDuration? = some d) : d.WithinArithmetic := by
  rw [Designators.toDuration?, Option.bind_eq_bind, Option.bind_eq_some_iff] at h
  obtain ⟨time, -, h⟩ := h
  dsimp only at h
  generalize hduration : (if designators.years.isZero && designators.months.isZero then
    clock time else calendar designators.years designators.months time) = duration at h
  have hmodest : duration.years.IsModest ∧ duration.months.IsModest := by
    have hzero := Decimal.isModest_ofInt (n := 0) (by decide)
    rw [← hduration]
    split_ifs
    · exact ⟨hzero, hzero⟩
    · exact ⟨hyears, hmonths⟩
  split_ifs at h
  · obtain ⟨hyearParts, hmonthParts, -⟩ := neg?_parts h
    refine ⟨?_, ?_⟩
    · rw [hyearParts]
      exact hmodest.1.withinArithmetic_zero_sub
    · rw [hmonthParts]
      exact hmodest.2.withinArithmetic_zero_sub
  · cases h
    exact ⟨hmodest.1.withinArithmetic, hmodest.2.withinArithmetic⟩

private theorem withinArithmetic_ofDateTime? {cs : List Char} {d : Duration}
    (h : ofDateTime? cs = some d) : d.WithinArithmetic := by
  rw [ofDateTime?] at h
  split at h
  · simp only [Option.bind_eq_bind, Option.bind_eq_some_iff] at h
    obtain ⟨date, hdate, time, -, clock, -, hd⟩ := h
    cases hd
    obtain ⟨hyear, hmonth⟩ := DateForm.isSmall_of_ofChars? hdate
    exact ⟨(Decimal.isModest_ofInt hyear).withinArithmetic,
      (Decimal.isModest_ofInt hmonth).withinArithmetic⟩
  · cases h

/-- What a text with modest numbers stands for is within arithmetic. -/
theorem withinArithmetic_of_parse? {text : String} (hmodest : HasModestNumbers text.toList)
    {d : Duration} (h : parse? text = some d) : d.WithinArithmetic := by
  rw [parse?] at h
  unfold ofChars? at h
  split at h
  · next designators hdesignators =>
    obtain ⟨hyears, hmonths⟩ := Designators.isModest_of_ofChars? hdesignators hmodest
    exact withinArithmetic_toDuration? hyears hmonths h
  · split at h
    · exact withinArithmetic_ofDateTime? h
    · cases h

/-- Modest numbers are small enough to be subtracted from zero. -/
theorem overflows_of_hasModestNumbers {text : String} (hmodest : HasModestNumbers text.toList) :
    overflows text = false := by
  unfold overflows
  cases hdesignators : Designators.ofChars? text.toList with
  | none => rfl
  | some designators =>
    obtain ⟨hyears, hmonths⟩ := Designators.isModest_of_ofChars? hdesignators hmodest
    have hwithin : WithinArithmetic (.calendar (Decimal.ofInt 0 - designators.years)
        (Decimal.ofInt 0 - designators.months) Clock.zero) :=
      ⟨hyears.withinArithmetic_zero_sub, hmonths.withinArithmetic_zero_sub⟩
    rw [Option.any_some, hwithin.isBeyondArithmetic, Bool.and_false]

end Duration

end TieredTerms
